/-!
# Octets and characters

`encode` writes characters as UTF-8. `decodeLossy` reads any octets: a sequence that is no
character, or the longest beginning of one, is read as the replacement character U+FFFD.

The reader is a machine with one step per octet. Between characters its state is `none`; inside a
character it is the number of octets still owed, the range the next of them may lie in, and the
bits read so far.
-/

namespace SearchPath.Text

def encode (s : List Char) : List UInt8 :=
  s.flatMap String.utf8EncodeChar

@[simp] theorem encode_nil : encode [] = [] := rfl

@[simp] theorem encode_cons (c : Char) (s : List Char) :
    encode (c :: s) = String.utf8EncodeChar c ++ encode s := rfl

@[simp] theorem encode_append (s t : List Char) : encode (s ++ t) = encode s ++ encode t := by
  simp [encode]

/-- What stands for octets that are no character. -/
def replacement : Char := '\uFFFD'

/-- A character of which some octets are still owed. -/
structure Partial where
  owed : Nat
  low : Nat
  high : Nat
  bits : Nat

/-- What the first octet of a character says: the whole character, the beginning of one, or
nothing that UTF-8 allows. -/
def start (b : Nat) : List Char × Option Partial :=
  if b < 0x80 then ([Char.ofNat b], none)
  else if b < 0xC2 then ([replacement], none)
  else if b < 0xE0 then ([], some ⟨1, 0x80, 0xBF, b - 0xC0⟩)
  else if b < 0xF0 then
    ([], some ⟨2, if b = 0xE0 then 0xA0 else 0x80, if b = 0xED then 0x9F else 0xBF, b - 0xE0⟩)
  else if b < 0xF5 then
    ([], some ⟨3, if b = 0xF0 then 0x90 else 0x80, if b = 0xF4 then 0x8F else 0xBF, b - 0xF0⟩)
  else ([replacement], none)

/-- One octet: the characters it completes and the state after it. -/
def step : Option Partial → Nat → List Char × Option Partial
  | none, b => start b
  | some p, b =>
    if p.low ≤ b ∧ b ≤ p.high then
      let bits := p.bits * 64 + (b - 0x80)
      if p.owed ≤ 1 then ([Char.ofNat bits], none)
      else ([], some ⟨p.owed - 1, 0x80, 0xBF, bits⟩)
    else (replacement :: (start b).1, (start b).2)

def decodeFrom : Option Partial → List UInt8 → List Char
  | none, [] => []
  | some _, [] => [replacement]
  | st, b :: rest => (step st b.toNat).1 ++ decodeFrom (step st b.toNat).2 rest

def decodeLossy (bytes : List UInt8) : List Char :=
  decodeFrom none bytes

def decode? (bytes : List UInt8) : Option (List Char) :=
  if encode (decodeLossy bytes) = bytes then some (decodeLossy bytes) else none

end SearchPath.Text
