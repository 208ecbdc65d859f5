import SearchPath.Octets
import SearchPath.Text.Utf8

/-!
# Runtime images

A runtime image holds the resources of many modules in one file. Behind its header stand a hash
table, which a walk over all resources does not need, a table of offsets, the locations, the
strings, and the content. Each offset leads to one location, a list of attributes; the attributes
are numbers, and some of them offsets of strings. The sizes in the header only tell where the next
part starts: a location or a string may go on behind its part, up to the end of the file.

The name of a resource is made of its parent, base and extension, so it names a module only where
the parent does. Compressed content is left out: an image that has any counts as one that cannot be
read.
-/

namespace SearchPath

structure ImageResource where
  name : String
  content : List UInt8
  deriving DecidableEq, Repr

namespace Image

open SearchPath.Octets SearchPath.Text

/-! ## Header -/

def magic : Nat := 0xCAFEDADA

/-- The version of images that can be read: major and minor number. -/
def version : Nat := 0x00010000

def headerSize : Nat := 28

structure Header where
  order : ByteOrder
  tableLength : Nat
  locationsSize : Nat
  stringsSize : Nat
  deriving DecidableEq, Repr

namespace Header

/-- Where the offsets start, behind the hash table. -/
def offsetsStart (header : Header) : Nat :=
  headerSize + 4 * header.tableLength

def locationsStart (header : Header) : Nat :=
  header.offsetsStart + 4 * header.tableLength

def stringsStart (header : Header) : Nat :=
  header.locationsStart + header.locationsSize

def contentStart (header : Header) : Nat :=
  header.stringsStart + header.stringsSize

end Header

def orderOf (bytes : List UInt8) : Option ByteOrder :=
  let first := bytes.take 4
  if lowFirst first = magic then some .lowFirst
  else if highFirst first = magic then some .highFirst
  else none

/-- The header, if its version can be read. -/
def header? (bytes : List UInt8) : Option Header := do
  let order ← orderOf bytes
  let record ← slice? bytes 0 headerSize
  let word := fun place => number order (slice record (4 * place) 4)
  if word 1 = version then some ⟨order, word 4, word 5, word 6⟩ else none

def words (order : ByteOrder) : Nat → List UInt8 → List Nat
  | 0, _ => []
  | n + 1, bytes => number order (bytes.take 4) :: words order n (bytes.drop 4)

/-- The offsets of all locations, if the table is there as a whole. -/
def Header.offsets? (header : Header) (bytes : List UInt8) : Option (List Nat) :=
  (slice? bytes header.offsetsStart (4 * header.tableLength)).map
    (words header.order header.tableLength)

/-! ## Locations -/

inductive Attribute where
  | module
  | parent
  | base
  | extension
  | offset
  | compressedSize
  | size
  /-- A number for the preview of a later version, which is not looked at. -/
  | preview
  deriving DecidableEq, Repr

def Attribute.ofKind? : Nat → Option Attribute
  | 1 => some .module
  | 2 => some .parent
  | 3 => some .base
  | 4 => some .extension
  | 5 => some .offset
  | 6 => some .compressedSize
  | 7 => some .size
  | 8 => some .preview
  | _ => none

/-- Attributes with their values, the last one first. -/
abbrev Attributes : Type := List (Attribute × Nat)

/-- The value of an attribute; one that is not there is zero. -/
def Attributes.value (attributes : Attributes) (which : Attribute) : Nat :=
  (List.lookup which attributes).getD 0

/-- The attributes from here on, before those read already. The low three bits of an octet tell
the width of the value behind it, the others the kind, and kind zero ends the location. -/
def attributesFrom : Nat → List UInt8 → Attributes → Option Attributes
  | 0, _, done => some done
  | _, [], done => some done
  | n + 1, b :: rest, done =>
    let kind := b.toNat / 8
    let width := b.toNat % 8 + 1
    if kind = 0 then some done
    else do
      let which ← Attribute.ofKind? kind
      let value ← slice? rest 0 width
      attributesFrom n (rest.drop width) ((which, highFirst value) :: done)

def attributesAt (header : Header) (bytes : List UInt8) (offset : Nat) : Option Attributes :=
  let rest := bytes.drop (header.locationsStart + offset)
  attributesFrom rest.length rest []

/-- The string at an offset, up to the zero that ends it. Offset zero stands for no string,
whatever is there. -/
def stringAt (header : Header) (bytes : List UInt8) (offset : Nat) : List Char :=
  if offset = 0 then []
  else decodeLossy ((bytes.drop (header.stringsStart + offset)).takeWhile (· ≠ 0))

def resourceName (parent base extension : List Char) : List Char :=
  (if parent = [] then [] else parent ++ ['/']) ++ base
    ++ if extension = [] then [] else '.' :: extension

def resourceAt (header : Header) (bytes : List UInt8) (offset : Nat) : Option ImageResource := do
  let attributes ← attributesAt header bytes offset
  let string := fun which => stringAt header bytes (attributes.value which)
  guard (attributes.value .compressedSize = 0)
  let content ←
    slice? bytes (header.contentStart + attributes.value .offset) (attributes.value .size)
  some ⟨String.ofList (resourceName (string .parent) (string .base) (string .extension)), content⟩

/-- The resources of an image, in the order of its table, if all of them can be read. -/
def resources? (bytes : List UInt8) : Option (List ImageResource) := do
  let header ← header? bytes
  let offsets ← header.offsets? bytes
  offsets.mapM (resourceAt header bytes)

end Image

end SearchPath
