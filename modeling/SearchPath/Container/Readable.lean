import SearchPath.Container.Stream
import SearchPath.Error
import SearchPath.Module

/-!
# Readable containers

Any type whose values can list the resources of a container, stream them and read them whole can
stand behind a module (`Readable`). An opener makes such a value for a module, and may remember
something between two calls.
-/

namespace SearchPath

class Readable (ρ : Type) where
  /-- The paths of the resources. -/
  paths : ρ → Except ContainerFault (List String)
  /-- A stream over a resource. -/
  stream : ρ → String → Except ContainerFault ByteStream
  /-- A resource as a whole. -/
  octets : ρ → String → Except ContainerFault (List UInt8)

def octetsByStream (stream : String → Except ContainerFault ByteStream) (path : String) :
    Except ContainerFault (List UInt8) := do
  let opened ← stream path
  match opened.readToEnd with
  | (bytes, none, _) => return bytes
  | (_, some text, _) => throw (.io text)

/-- Opens a resource as a stream over what reading it as a whole gives. -/
def streamByOctets (octets : String → Except ContainerFault (List UInt8)) (path : String) :
    Except ContainerFault ByteStream :=
  (octets path).map ByteStream.ofOctets

/-- Opens the containers of modules. The state is what it remembers from one call to the next. -/
abbrev Opener (σ ρ : Type) : Type :=
  Module → σ → Except ContainerFault ρ × σ

end SearchPath
