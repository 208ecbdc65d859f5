/-!
# Files read from an offset

Some archives stand behind a header of their own. `TailFile` is a file read from an offset on:
seeking from the start counts from the offset, and every position is reported relative to it.
-/

namespace SearchPath

inductive SeekTarget where
  | start (position : Nat)
  | current (distance : Int)
  | fromEnd (distance : Int)
  deriving DecidableEq, Repr

inductive SeekFault where
  /-- The position would be negative, or too large for the system. -/
  | outOfRange
  /-- The position lies before the offset. -/
  | beforeOffset
  deriving DecidableEq, Repr

structure OpenFile where
  content : List UInt8
  position : Nat
  deriving DecidableEq, Repr

namespace OpenFile

def atStart (content : List UInt8) : OpenFile :=
  ⟨content, 0⟩

def positionLimit : Nat := 1 <<< 63 - 1

/-- The position that a target names, whether or not there is one. -/
def target (file : OpenFile) : SeekTarget → Int
  | .start position => position
  | .current distance => file.position + distance
  | .fromEnd distance => file.content.length + distance

/-- Moves to a position, which may lie behind the end. -/
def seek (file : OpenFile) (target : SeekTarget) : Except SeekFault Nat × OpenFile :=
  let position := file.target target
  if 0 ≤ position ∧ position ≤ positionLimit then
    (.ok position.toNat, { file with position := position.toNat })
  else (.error .outOfRange, file)

def read (file : OpenFile) (size : Nat) : List UInt8 × OpenFile :=
  let bytes := (file.content.drop file.position).take size
  (bytes, { file with position := file.position + bytes.length })

def readToEnd (file : OpenFile) : List UInt8 × OpenFile :=
  file.read (file.content.length - file.position)

end OpenFile

structure TailFile where
  file : OpenFile
  offset : Nat
  deriving DecidableEq, Repr

namespace TailFile

def open? (content : List UInt8) (offset : Nat) : Except SeekFault TailFile :=
  match (OpenFile.atStart content).seek (.start offset) with
  | (.ok _, file) => .ok ⟨file, offset⟩
  | (.error e, _) => .error e

/-- The target in the whole file. Position and offset are natural numbers here. As numbers of 64 bits
they have the same sum where that is below `2 ^ 64`, so wherever it is within `positionLimit`, and
beyond that limit a seek fails. -/
def absolute (file : TailFile) : SeekTarget → SeekTarget
  | .start position => .start (position + file.offset)
  | target => target

/-- Moves to a position, which is reported relative to the offset. -/
def seek (file : TailFile) (target : SeekTarget) : Except SeekFault Nat × TailFile :=
  match file.file.seek (file.absolute target) with
  | (.error e, moved) => (.error e, { file with file := moved })
  | (.ok position, moved) =>
    -- the file has moved, whether or not the position lies before the offset
    (if file.offset ≤ position then .ok (position - file.offset) else .error .beforeOffset,
      { file with file := moved })

def read (file : TailFile) (size : Nat) : List UInt8 × TailFile :=
  let (bytes, moved) := file.file.read size
  (bytes, { file with file := moved })

def contents (file : TailFile) : Except SeekFault (List UInt8) :=
  match file.seek (.start 0) with
  | (.ok _, moved) => .ok moved.file.readToEnd.1
  | (.error e, _) => .error e

end TailFile

end SearchPath
