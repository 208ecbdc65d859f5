import SearchPath.Archive.Checksum
import SearchPath.Archive.Directory
import SearchPath.Archive.Inflate
import SearchPath.Archive.TailFile
import SearchPath.Container.Readable

/-!
# Archives as containers

A jar is an archive whose entries are the resources. A jmod is an archive behind a header of four
octets, and its resources are the entries below one directory. The layout tells them apart: the
offset of the archive, and what stands in front of every resource path in the name of its entry.
Content is stored as it is or deflated, and is read in no other form.
-/

namespace SearchPath

open SearchPath.Archive SearchPath.Text

structure ArchiveLayout where
  offset : Nat
  /-- The directory of the resources, with its slash. -/
  directory : String
  deriving DecidableEq, Repr

def ArchiveLayout.jar : ArchiveLayout :=
  ⟨0, ""⟩

/-- The entries below `classes/`, behind a header. -/
def ArchiveLayout.jmod : ArchiveLayout :=
  ⟨4, "classes/"⟩

/-- An archive: where its resources stand, its octets, and its entries. -/
structure ArchiveContainer where
  layout : ArchiveLayout
  bytes : List UInt8
  entries : Table (List UInt8) Entry
  deriving Repr

namespace Archive

def headerMark : List UInt8 := [0x50, 0x4B, 0x03, 0x04]

def headerSize : Nat := 30

def Fault.toContainer : Fault → ContainerFault
  | .cutShort => .io "unexpected end of the data"
  | .malformed reason => .format (.undecodable reason)

def storedOctets (offset : Nat) (bytes : List UInt8) (entry : Entry) :
    Except Fault (List UInt8) :=
  if OpenFile.positionLimit < entry.position + offset then .error .cutShort
  else
    match Octets.slice? bytes entry.position headerSize with
    | none => .error (.malformed "missing entry header")
    | some header =>
      if headerMark.isPrefixOf header then
        let texts := Octets.field header 26 2 + Octets.field header 28 2
        .ok (Octets.slice bytes (entry.position + headerSize + texts) entry.storedSize)
      else .error (.malformed "invalid entry header")

def decodeEntry (entry : Entry) (stored : List UInt8) : Except ContainerFault (List UInt8) :=
  if entry.locked then .error (.format (.undecodable "locked entry"))
  else
    match entry.method with
    | 0 => .ok stored
    | 8 =>
      match Inflate.inflate stored with
      | (bytes, .finished) => .ok bytes
      | _ => .error (.io "deflated data without its end")
    | _ => .error (.format (.undecodable "unsupported compression method"))

/-- The octets of an entry: neither encrypted, nor other than their checksum says. -/
def entryOctets (offset : Nat) (bytes : List UInt8) (entry : Entry) :
    Except ContainerFault (List UInt8) :=
  if entry.encrypted then .error (.format (.undecodable "encrypted entry"))
  else
    match storedOctets offset bytes entry with
    | .error fault => .error fault.toContainer
    | .ok stored =>
      match decodeEntry entry stored with
      | .error e => .error e
      | .ok decoded =>
        if (checksum decoded).toNat = entry.checksum then .ok decoded
        else .error (.io "invalid checksum")

end Archive

namespace ArchiveContainer

def ofContent (layout : ArchiveLayout) (content : List UInt8) :
    Except ContainerFault ArchiveContainer :=
  match (TailFile.open? content layout.offset).bind TailFile.contents with
  | .error _ => .error (.io "seek out of range")
  | .ok bytes =>
    match readDirectory bytes with
    | .error fault => .error fault.toContainer
    | .ok entries => .ok ⟨layout, bytes, entries⟩

/-- The resource path of an entry with this title, where it has one. -/
def resourcePath? (layout : ArchiveLayout) (title : List Char) : Option String :=
  match stripStart layout.directory.toList title with
  | some (c :: path) => some (String.ofList (c :: path))
  | _ => none

/-- The resource paths, in the order of the directory, as entries are shown. -/
def paths (archive : ArchiveContainer) : List String :=
  archive.entries.values.filterMap fun entry => resourcePath? archive.layout entry.title

/-- The octets of a resource, which is found by the stored name of its entry. -/
def octets (archive : ArchiveContainer) (path : String) : Except ContainerFault (List UInt8) :=
  match archive.entries.get? (encode (archive.layout.directory ++ path).toList) with
  | none => .error (.missingResource path)
  | some entry => entryOctets archive.layout.offset archive.bytes entry

end ArchiveContainer

instance : Readable ArchiveContainer where
  paths archive := .ok archive.paths
  stream archive := streamByOctets archive.octets
  octets := ArchiveContainer.octets

end SearchPath
