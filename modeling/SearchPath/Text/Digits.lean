/-!
# Numbers in digits

Digits of a base up to sixteen are read in either case. They are written in upper case one at a time
(`hexDigit`), and in lower case as numbers (`writeDigits`).
-/

namespace SearchPath.Text

def digitValue (base : Nat) (c : Char) : Option Nat :=
  let n := c.toNat
  let v :=
    if 0x30 ≤ n ∧ n ≤ 0x39 then n - 0x30
    else if 0x61 ≤ n ∧ n ≤ 0x66 then n - 0x61 + 10
    else if 0x41 ≤ n ∧ n ≤ 0x46 then n - 0x41 + 10
    else 16
  if v < base then some v else none

def readDigits (base : Nat) (s : List Char) : Option Nat :=
  s.foldlM (fun n c => (digitValue base c).map (base * n + ·)) 0

/-- The digit for a value below sixteen, in upper case. -/
def hexDigit (n : Nat) : Char :=
  if n < 10 then Char.ofNat (0x30 + n) else Char.ofNat (0x41 + (n - 10))

/-- The number in a base up to sixteen, in lower case, without leading zeros. -/
def writeDigits (base : Nat) (n : Nat) : List Char :=
  Nat.toDigits base n

def decimal (n : Nat) : List Char :=
  writeDigits 10 n

end SearchPath.Text
