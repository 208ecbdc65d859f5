/-!
# Punycode

Letters outside ASCII are written in a domain name by the bootstring code: the ASCII characters
first, then, in rising order of code points, each of the others as the distance from the last
one, in digits whose weights adapt to the distances seen so far. Every loop has a measure: the
number being written, the code points still to write, or the digits still to read.
-/

namespace SearchPath.Url.Punycode

/-! ## Digits -/

/-- The digit for a value below 36: letters first, then numerals. -/
def digitOf (d : Nat) : Char :=
  if d < 26 then Char.ofNat (0x61 + d) else Char.ofNat (0x30 + (d - 26))

def valueOf (c : Char) : Option Nat :=
  let n := c.toLower.toNat
  if 0x61 ≤ n ∧ n ≤ 0x7A then some (n - 0x61)
  else if 0x30 ≤ n ∧ n ≤ 0x39 then some (n - 0x30 + 26)
  else none

/-- The least value that does not end a number at the position with weight index `k`. -/
def threshold (k bias : Nat) : Nat :=
  if k ≤ bias then 1 else if bias + 26 ≤ k then 26 else k - bias

theorem threshold_pos (k bias : Nat) : 1 ≤ threshold k bias := by
  unfold threshold
  split
  · omega
  · split <;> omega

/-- The distance divided down to the range of one digit, with the weight of the divisions. -/
def shrink (delta k : Nat) : Nat × Nat :=
  if 455 < delta then shrink (delta / 35) (k + 36) else (delta, k)
termination_by delta
decreasing_by exact Nat.div_lt_self (by omega) (by omega)

def adapt (delta count : Nat) (first : Bool) : Nat :=
  let halved := if first then delta / 700 else delta / 2
  let (rest, k) := shrink (halved + halved / count) 0
  k + 36 * rest / (rest + 38)

/-! ## Writing -/

def writeDigits (bias k n : Nat) : List Char :=
  let t := threshold k bias
  if n < t then [digitOf n]
  else digitOf (t + (n - t) % (36 - t)) :: writeDigits bias (k + 36) ((n - t) / (36 - t))
termination_by n
decreasing_by
  have h₁ := threshold_pos k bias
  have h₂ := Nat.div_le_self (n - threshold k bias) (36 - threshold k bias)
  omega

/-- What has been written: the digits, the distance since, the bias, and how many characters. -/
structure Progress where
  digits : List Char
  delta : Nat
  bias : Nat
  count : Nat

def Progress.see (basic point : Nat) (st : Progress) (c : Char) : Progress :=
  if c.toNat < point then { st with delta := st.delta + 1 }
  else if c.toNat = point then
    { digits := st.digits ++ writeDigits st.bias 36 st.delta
      delta := 0
      bias := adapt st.delta (st.count + 1) (st.count == basic)
      count := st.count + 1 }
  else st

/-- The passes over the text, one for each code point outside ASCII in rising order. -/
def writePoints (s : List Char) (basic : Nat) : List Nat → Nat → Progress → Progress
  | [], _, st => st
  | point :: rest, last, st =>
    let st := { st with delta := st.delta + (point - last) * (st.count + 1) }
    let st := s.foldl (Progress.see basic point) st
    writePoints s basic rest (point + 1) { st with delta := st.delta + 1 }

def encode (s : List Char) : List Char :=
  let basic := s.filter fun c => c.toNat < 0x80
  let points := ((s.map Char.toNat).filter (0x80 ≤ ·)).mergeSort (· ≤ ·) |>.eraseDups
  let st := writePoints s basic.length points 0x80 ⟨[], 0, 72, basic.length⟩
  basic ++ (if basic = [] then [] else ['-']) ++ st.digits

/-! ## Reading -/

def readDigits (bias : Nat) : List Char → Nat → Nat → Nat → Option (Nat × List Char)
  | [], _, _, _ => none
  | c :: rest, k, weight, n =>
    match valueOf c with
    | none => none
    | some d =>
      if d < threshold k bias then some (n + d * weight, rest)
      else readDigits bias rest (k + 36) (weight * (36 - threshold k bias)) (n + d * weight)

theorem readDigits_length {bias : Nat} {s : List Char} {k weight n : Nat} {r : Nat × List Char}
    (h : readDigits bias s k weight n = some r) : r.2.length < s.length := by
  induction s generalizing k weight n with
  | nil => simp [readDigits] at h
  | cons c s ih =>
    unfold readDigits at h
    split at h
    · simp at h
    · split at h
      · cases h; simp
      · have := ih h
        simp only [List.length_cons]
        omega

/-- The characters read from the digits, inserted into those read so far. -/
def readPoints (s : List Char) (out : List Char) (point index bias : Nat) : Option (List Char) :=
  if s = [] then some out
  else
    match h : readDigits bias s 36 1 0 with
    | none => none
    | some (delta, rest) =>
      let size := out.length + 1
      let point := point + (index + delta) / size
      let slot := (index + delta) % size
      if point.isValidChar ∧ 0x80 ≤ point then
        readPoints rest (out.take slot ++ Char.ofNat point :: out.drop slot) point (slot + 1)
          (adapt delta size (index == 0))
      else none
termination_by s.length
decreasing_by exact readDigits_length h

/-- The ASCII characters up to the last hyphen, and the digits after it. -/
def splitBasic (s : List Char) : List Char × List Char :=
  let tail := (s.reverse.takeWhile (· ≠ '-')).reverse
  if tail.length = s.length then ([], s) else (s.take (s.length - tail.length - 1), tail)

def decode (s : List Char) : Option (List Char) :=
  let (basic, digits) := splitBasic s
  if basic.all fun c => c.toNat < 0x80 then readPoints digits basic 0x80 0 72 else none

end SearchPath.Url.Punycode
