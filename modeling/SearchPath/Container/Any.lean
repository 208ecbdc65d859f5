import SearchPath.Container.Archive
import SearchPath.Container.Directory
import SearchPath.Container.Image
import SearchPath.Container.Kind
import SearchPath.Container.Memory

/-!
# Containers of any kind

A `Container` is a container of any kind. There are two openers: `openFile` goes by the file
behind a module and its kind, and `openListed` by a catalogue that says for each module what its
container is, and how often opening it fails first.
-/

namespace SearchPath

inductive Container where
  | memory (container : MemoryContainer)
  | scripted (container : ScriptedContainer)
  | directory (container : DirectoryContainer)
  | archive (container : ArchiveContainer)
  | image (container : ImageContainer)
  deriving Repr

namespace Container

def paths : Container → Except ContainerFault (List String)
  | .memory container => Readable.paths container
  | .scripted container => Readable.paths container
  | .directory container => Readable.paths container
  | .archive container => Readable.paths container
  | .image container => Readable.paths container

def stream : Container → String → Except ContainerFault ByteStream
  | .memory container => Readable.stream container
  | .scripted container => Readable.stream container
  | .directory container => Readable.stream container
  | .archive container => Readable.stream container
  | .image container => Readable.stream container

def octets : Container → String → Except ContainerFault (List UInt8)
  | .memory container => Readable.octets container
  | .scripted container => Readable.octets container
  | .directory container => Readable.octets container
  | .archive container => Readable.octets container
  | .image container => Readable.octets container

/-- Whether the container takes note of buffers that are given back. -/
def notesReturns : Container → Bool
  | .scripted _ => true
  | _ => false

end Container

instance : Readable Container where
  paths := Container.paths
  stream := Container.stream
  octets := Container.octets

/-! ## From files -/

def fileContent (tree : FileTree) (path : String) : Except ContainerFault (List UInt8) :=
  match tree.content? path with
  | some content => .ok content
  | none => .error (.io "cannot open file")

def openAs (tree : FileTree) (path module : String) :
    ContainerKind → Except ContainerFault Container
  | .directory => .ok (.directory ⟨tree, path⟩)
  | .jar => do return .archive (← ArchiveContainer.ofContent .jar (← fileContent tree path))
  | .jmod => do return .archive (← ArchiveContainer.ofContent .jmod (← fileContent tree path))
  | .image => do return .image (← ImageContainer.ofContent module (← fileContent tree path))

def openModule (tree : FileTree) (module : Module) : Except ContainerFault Container :=
  match module.file with
  | none => .error (.unavailable ("module " ++ module.name ++ " has no backing file"))
  | some path => do openAs tree path module.name (← ContainerKind.recognise tree path)

/-- Opens the files behind modules, and remembers nothing. -/
def openFile (tree : FileTree) : Opener Unit Container :=
  fun module memory => (openModule tree module, memory)

/-! ## From a catalogue -/

/-- What a catalogue says of one module. -/
structure Listing where
  module : Module
  container : Container
  /-- How opening the container fails, and how often it does; no number stands for always. -/
  failure : Option (ContainerFault × Option Nat)
  deriving Repr

namespace Listing

/-- The container, or the failure that is due, and what the catalogue says from now on. -/
def answer (listing : Listing) : Except ContainerFault Container × Listing :=
  match listing.failure with
  | none => (.ok listing.container, listing)
  | some (e, none) => (.error e, listing)
  | some (_, some 0) => (.ok listing.container, listing)
  | some (e, some (n + 1)) => (.error e, { listing with failure := some (e, some n) })

end Listing

/-- Opens the first listing of a module in a catalogue, and remembers how often that has still to
fail. -/
def openListed : Opener (List Listing) Container
  | module, [] =>
    (.error (.unavailable ("module " ++ module.name ++ " is not in the catalogue")), [])
  | module, listing :: rest =>
    if listing.module.same module then
      let (answer, listing) := listing.answer
      (answer, listing :: rest)
    else
      let (answer, rest) := openListed module rest
      (answer, listing :: rest)

end SearchPath
