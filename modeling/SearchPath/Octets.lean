/-!
# Numbers in octets

A number of fixed width is spelled with its lowest or with its highest octet first. `field` reads
one from a record, and `slice?` cuts a stretch out of octets if it lies within them.
-/

namespace SearchPath

inductive ByteOrder where
  | lowFirst
  | highFirst
  deriving DecidableEq, Repr

namespace Octets

def lowFirst : List UInt8 → Nat
  | [] => 0
  | b :: rest => b.toNat + 256 * lowFirst rest

def highFirst (bytes : List UInt8) : Nat :=
  lowFirst bytes.reverse

def number (order : ByteOrder) (bytes : List UInt8) : Nat :=
  match order with
  | .lowFirst => lowFirst bytes
  | .highFirst => highFirst bytes

def slice (bytes : List UInt8) (start size : Nat) : List UInt8 :=
  (bytes.drop start).take size

/-- The stretch of octets from a start, if all of it is there. -/
def slice? (bytes : List UInt8) (start size : Nat) : Option (List UInt8) :=
  let found := slice bytes start size
  if found.length = size then some found else none

/-- The number in a field of a record, lowest octet first. -/
def field (record : List UInt8) (start size : Nat) : Nat :=
  lowFirst (slice record start size)

def hexadecimal (bytes : List UInt8) : String :=
  String.ofList <| bytes.flatMap fun b =>
    [Nat.digitChar (b.toNat / 16), Nat.digitChar (b.toNat % 16)]

end Octets

end SearchPath
