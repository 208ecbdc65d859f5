import SearchPath.Archive.Checksum
import SearchPath.Octets
import SearchPath.Text.CodePage
import SearchPath.Text.Utf8

/-!
# The entries of an archive

An entry of the directory of a ZIP archive is a record of fixed size with three texts behind it:
the name, extra data, and a comment. The extra data is a sequence of fields, each a kind, a size
and a content, and the later ones amend what was said before:

1. numbers of eight octets take the place of numbers that do not fit into four (`applyLarge`);
2. a name or a comment in UTF-8 takes the place of one in another character set, if a checksum
   says that it was made for that one (`unicodeText`);
3. times are only checked for their shape (`systemTimes`, `unixTimes`), and a field that tells of
   encryption makes the entry `locked` (`applyLock`).
-/

namespace SearchPath.Archive

open SearchPath.Octets SearchPath.Text

inductive Fault where
  /-- A number or a text goes on behind the end of its data, or stands out of reach. -/
  | cutShort
  /-- What stands in the archive contradicts its format, or is not understood. -/
  | malformed (reason : String)
  deriving DecidableEq, Repr

structure Entry where
  /-- The name as it is stored, by which the entry is found. -/
  name : List UInt8
  /-- The name as it is shown. -/
  title : List Char
  comment : List Char
  method : Nat
  /-- Whether a password is needed. -/
  encrypted : Bool
  /-- Whether the extra data tells how the entry is encrypted. -/
  locked : Bool
  checksum : Nat
  /-- The size of the entry as it is stored. -/
  storedSize : Nat
  /-- The size of the content. -/
  size : Nat
  /-- Where the entry's own header stands. -/
  position : Nat
  deriving DecidableEq, Repr

/-! ## Extra data -/

/-- The number that stands for one that does not fit into four octets. -/
def tooLarge : Nat := 0xFFFFFFFF

/-- The number itself, or the next one of eight octets in its place, with the octets left. A field
with room for three numbers holds all of them. -/
def largeNumber (room value : Nat) (content : List UInt8) : Except Fault (Nat × List UInt8) :=
  if 24 ≤ room ∨ value = tooLarge then
    if content.length < 8 then .error (.malformed "large number missing")
    else .ok (lowFirst (content.take 8), content.drop 8)
  else .ok (value, content)

def applyLarge (entry : Entry) (content : List UInt8) : Except Fault Entry := do
  let (size, rest) ← largeNumber content.length entry.size content
  let (storedSize, rest) ← largeNumber content.length entry.storedSize rest
  let (position, _) ← largeNumber content.length entry.position rest
  return { entry with size, storedSize, position }

def systemTimes (content : List UInt8) : Except Fault Unit :=
  if content.length = 32 ∧ field content 4 2 = 1 ∧ field content 6 2 = 24 then .ok ()
  else .error (.malformed "times of an unknown shape")

/-- Up to three times in seconds. The field starts with flags that say which of them are there; one
of five octets holds the first, and shorter ones no other. -/
def unixTimes (size : Nat) (data : List UInt8) : Except Fault Unit :=
  if size = 0 then .error (.malformed "times without flags")
  else
    let flags := field data 0 1
    let there := [flags.testBit 0 || size == 5, flags.testBit 1 && decide (5 < size),
      flags.testBit 2 && decide (5 < size)]
    let room := (size - 1) / 4
    if there.count true ≤ room then .ok ()
    else if data.length < 1 + 4 * (room + 1) then .error .cutShort
    else .error (.malformed "times behind the end of their field")

/-- A text in UTF-8, given for another text that has the checksum that is told. -/
def unicodeText (size : Nat) (data given : List UInt8) : Except Fault (List UInt8) :=
  if data.length < 5 then .error .cutShort
  else if size < 5 then .error (.malformed "text without a checksum")
  else if field data 1 4 ≠ (checksum given).toNat then .error (.malformed "text for another text")
  else .ok (slice data 5 (size - 5))

def charactersOf (text : List UInt8) : Except Fault (List Char) :=
  match decode? text with
  | some characters => .ok characters
  | none => .error (.malformed "text not in UTF-8")

def applyLock (entry : Entry) (content : List UInt8) : Except Fault Entry :=
  if content.length = 7 ∧ field content 0 2 ∈ [1, 2] ∧ field content 2 2 = 0x4541
      ∧ field content 4 1 ∈ [1, 2, 3] then
    .ok { entry with locked := true, method := field content 5 2 }
  else .error (.malformed "unknown encryption")

/-- The entry after a field of the extra data. Times and texts may be read beyond the size of their
field before it is looked at. -/
def applyField (kind size : Nat) (data : List UInt8) (entry : Entry) : Except Fault Entry := do
  if data.length < size then throw (.malformed "field behind the end of the extra data")
  match kind with
  | 0x0001 => applyLarge entry (data.take size)
  | 0x000A => do systemTimes (data.take size); return entry
  | 0x5455 => do unixTimes size data; return entry
  | 0x6375 =>
    let comment ← charactersOf (← unicodeText size data (encode entry.comment))
    return { entry with comment }
  | 0x7075 =>
    let name ← unicodeText size data entry.name
    return { entry with name, title := ← charactersOf name }
  | 0x9901 => applyLock entry (data.take size)
  | _ => return entry

/-- The entry after all fields of the extra data. Fewer octets than a kind and a size take do not
count. -/
def applyFields (data : List UInt8) (entry : Entry) : Except Fault Entry :=
  if data.length < 4 then .ok entry
  else
    let size := field data 2 2
    match applyField (field data 0 2) size (data.drop 4) entry with
    | .error fault => .error fault
    | .ok entry => applyFields (data.drop (4 + size)) entry
termination_by data.length
decreasing_by
  simp only [List.length_drop]
  omega

/-! ## Records -/

def entryMark : List UInt8 := [0x50, 0x4B, 0x01, 0x02]

def entrySize : Nat := 46

/-- The method of entries whose extra data tells how they are encrypted. -/
def lockedMethod : Nat := 99

def positionBound : Nat := 1 <<< 64

/-- The characters of a text: in UTF-8 where the entry says so, otherwise of the code page. -/
def textOf (isUtf8 : Bool) (bytes : List UInt8) : List Char :=
  if isUtf8 then decodeLossy bytes else decodeCodePage bytes

def Entry.ofRecord (record name comment : List UInt8) : Entry :=
  let flags := field record 8 2
  { name
    title := textOf (flags.testBit 11) name
    comment := textOf (flags.testBit 11) comment
    method := field record 10 2
    encrypted := flags.testBit 0
    locked := false
    checksum := field record 16 4
    storedSize := field record 20 4
    size := field record 24 4
    position := field record 42 4 }

/-- The entry that the octets start with, and the octets behind it; `before` octets stand before
the archive. -/
def takeEntry (before : Nat) (bytes : List UInt8) : Except Fault (Entry × List UInt8) := do
  let some record := slice? bytes 0 entrySize | throw (.malformed "entry cut short")
  if entryMark.isPrefixOf record = false then throw (.malformed "not an entry")
  let nameSize := field record 28 2
  let extraSize := field record 30 2
  let textSize := nameSize + extraSize + field record 32 2
  let some texts := slice? bytes entrySize textSize | throw (.malformed "texts cut short")
  let plain := Entry.ofRecord record (texts.take nameSize) (texts.drop (nameSize + extraSize))
  let entry ← applyFields (slice texts nameSize extraSize) plain
  if entry.method = lockedMethod ∧ entry.locked = false then
    throw (.malformed "encrypted in an unknown way")
  if positionBound ≤ entry.position + before then throw (.malformed "position out of range")
  return ({ entry with position := entry.position + before }, bytes.drop (entrySize + textSize))

def takeEntries (before : Nat) : Nat → List UInt8 → Except Fault (List Entry)
  | 0, _ => .ok []
  | n + 1, bytes => do
    let (entry, rest) ← takeEntry before bytes
    let entries ← takeEntries before n rest
    return entry :: entries

end SearchPath.Archive
