import SearchPath.Archive.Entry
import SearchPath.Table

/-!
# The directory of an archive

A ZIP archive ends with a record that says where its directory stands and how many entries it has;
an archive with numbers that do not fit into it has a second record, and a `Locator` before the
last one says where that stands. The record is sought from the end of the archive backwards
(`readDirectory`), since a comment may follow it.

Other octets may stand before the archive, and all positions are counted from its start. How many
there are shows where the first entry, or the second record, is found.
-/

namespace SearchPath.Archive

open SearchPath.Octets

/-! ## Marks -/

def endMark : List UInt8 := [0x50, 0x4B, 0x05, 0x06]

def largeEndMark : List UInt8 := [0x50, 0x4B, 0x06, 0x06]

/-- How the octets start that say where the second record stands. -/
def locatorMark : List UInt8 := [0x50, 0x4B, 0x06, 0x07]

/-- The positions at which the mark stands, last first, before those found already; `n` is the
position of the first octet. -/
def positionsFrom (mark : List UInt8) : Nat → List UInt8 → List Nat → List Nat
  | _, [], found => found
  | n, b :: rest, found =>
    positionsFrom mark (n + 1) rest (if mark.isPrefixOf (b :: rest) then n :: found else found)

def positionsOf (mark bytes : List UInt8) : List Nat :=
  positionsFrom mark 0 bytes []

/-! ## Records -/

structure EndRecord where
  position : Nat
  disk : Nat
  directoryDisk : Nat
  entriesHere : Nat
  entries : Nat
  directoryStart : Nat
  deriving DecidableEq, Repr

def endSize : Nat := 22

/-- The record at the end that stands at a position, if it and its comment fit. -/
def endRecordAt (bytes : List UInt8) (position : Nat) : Option EndRecord := do
  let record ← slice? bytes position endSize
  if position + endSize + field record 20 2 ≤ bytes.length then
    some ⟨position, field record 4 2, field record 6 2, field record 8 2, field record 10 2,
      field record 16 4⟩
  else none

/-- Whether a number of the record may have been too large for it. -/
def EndRecord.isFull (record : EndRecord) : Bool :=
  record.entries == 0xFFFF || record.directoryStart == tooLarge

structure Locator where
  position : Nat
  directoryDisk : Nat
  recordStart : Nat
  disks : Nat
  deriving DecidableEq, Repr

def locatorSize : Nat := 20

/-- The locator right before the record at the end. -/
def EndRecord.locator? (record : EndRecord) (bytes : List UInt8) : Option Locator := do
  guard (locatorSize ≤ record.position)
  let position := record.position - locatorSize
  let octets ← slice? bytes position locatorSize
  guard (locatorMark.isPrefixOf octets)
  some ⟨position, field octets 4 4, field octets 8 8, field octets 16 4⟩

/-! ## Places -/

structure Place where
  /-- How many octets stand before the archive. -/
  before : Nat
  /-- Where the directory starts, counted from the start of the archive. -/
  start : Nat
  count : Nat
  /-- Whether the records agree with themselves, and the directory is on their disk. -/
  consistent : Bool
  deriving DecidableEq, Repr

/-- The place that the record at the end tells: the first entry from where it should stand on
tells how many octets stand before the archive. -/
def EndRecord.place? (record : EndRecord) (bytes : List UInt8) : Option Place := do
  let directory := slice bytes record.directoryStart (record.position - record.directoryStart)
  let before ←
    if record.entries = 0 then some (record.position - record.directoryStart)
    else (positionsOf entryMark directory).getLast?
  some ⟨before, record.directoryStart, record.entriesHere, record.disk == record.directoryDisk⟩

def largeEndSize : Nat := 56

/-- The place that the second record tells, if it stands `before` octets behind where it should. It
must reach up to the locator, and behind as many entries as it counts. -/
def Locator.placeAt? (locator : Locator) (bytes : List UInt8) (before : Nat) : Option Place := do
  let position := locator.recordStart + before
  let record ← slice? bytes position largeEndSize
  let entries := field record 32 8
  let start := field record 48 8
  guard (largeEndSize ≤ locator.position - position)
  -- the size that is told counts neither the mark nor itself
  guard (field record 4 8 + 12 = locator.position - position)
  guard (field record 20 4 = locator.directoryDisk)
  guard (entrySize * entries + start ≤ position)
  some ⟨before, start, entries, field record 24 8 ≤ entries
    && field record 14 2 ≤ field record 12 2 && field record 16 4 == field record 20 4⟩

def Locator.place? (locator : Locator) (bytes : List UInt8) : Option Place := do
  guard (locator.recordStart < locator.position ∧ locator.disks ≤ 1)
  let between := slice bytes locator.recordStart (locator.position - locator.recordStart)
  (positionsOf largeEndMark between).reverse.findSome? (locator.placeAt? bytes)

def placeAt? (bytes : List UInt8) (position : Nat) : Option Place := do
  let record ← endRecordAt bytes position
  match guard record.isFull *> record.locator? bytes with
  | some locator => locator.place? bytes
  | none => record.place? bytes

/-! ## Entries -/

def Place.entries (place : Place) (bytes : List UInt8) : Except Fault (List Entry) :=
  if place.consistent then
    takeEntries place.before place.count (bytes.drop (place.start + place.before))
  else .error (.malformed "inconsistent end of the archive")

/-- The entries by the first of the positions at which a directory can be read; `fault` is why the
last one tried could not. -/
def entriesAt (bytes : List UInt8) : Fault → List Nat → Except Fault (List Entry)
  | fault, [] => .error fault
  | fault, position :: rest =>
    match placeAt? bytes position with
    | none => entriesAt bytes fault rest
    | some place =>
      match place.entries bytes with
      | .ok entries => .ok entries
      | .error fault => entriesAt bytes fault rest

/-- The entries of an archive under their stored names, in the order of its directory. -/
def readDirectory (bytes : List UInt8) : Except Fault (Table (List UInt8) Entry) :=
  (entriesAt bytes (.malformed "no directory") (positionsOf endMark bytes)).map fun entries =>
    .ofList (entries.map fun entry => (entry.name, entry))

end SearchPath.Archive
