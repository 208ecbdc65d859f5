import SearchPath.Container.Readable

/-!
# Containers in memory

A container in memory is a list of paths with their content; the first entry of a path counts. A
scripted container is one whose calls fail, and whose streams deliver, as it is told, so that the
handling of failures can be exercised.
-/

namespace SearchPath

structure MemoryContainer where
  entries : List (String × List UInt8)
  deriving DecidableEq, Repr

namespace MemoryContainer

def paths (container : MemoryContainer) : List String :=
  container.entries.map (·.1)

/-- The content of the first entry with this path. -/
def octets (container : MemoryContainer) (path : String) : Except ContainerFault (List UInt8) :=
  match container.entries.find? (·.1 == path) with
  | some (_, content) => .ok content
  | none => .error (.missingResource path)

def stream (container : MemoryContainer) (path : String) : Except ContainerFault ByteStream :=
  streamByOctets container.octets path

end MemoryContainer

instance : Readable MemoryContainer where
  paths container := .ok container.paths
  stream := MemoryContainer.stream
  octets := MemoryContainer.octets

/-- A container in memory with the failures it is told to show. -/
structure ScriptedContainer where
  container : MemoryContainer
  listError : Option ContainerFault
  openError : Option ContainerFault
  pace : Option Nat
  breaksAt : Option Nat
  deriving DecidableEq, Repr

namespace ScriptedContainer

def paths (scripted : ScriptedContainer) : Except ContainerFault (List String) :=
  match scripted.listError with
  | some e => .error e
  | none => .ok scripted.container.paths

/-- A stream at the pace and with the break it is told, unless opening is told to fail. -/
def stream (scripted : ScriptedContainer) (path : String) :
    Except ContainerFault ByteStream :=
  match scripted.openError with
  | some e => .error e
  | none =>
    (scripted.container.stream path).map fun stream =>
      { stream with pace := scripted.pace, breaksAt := scripted.breaksAt }

end ScriptedContainer

instance : Readable ScriptedContainer where
  paths := ScriptedContainer.paths
  stream := ScriptedContainer.stream
  octets scripted := octetsByStream scripted.stream

end SearchPath
