import SearchPath.Text.Digits

/-!
# JSON values

A JSON value is kept as it is spelled where the spelling matters to who reads it: numbers as
their literal, and texts as code points in which an escape may stand for half of a surrogate pair.
`textOf` is the text of such code points, if every half has its partner.
-/

namespace SearchPath.Json

inductive Value where
  | null
  | boolean (value : Bool)
  | number (literal : List Char)
  | text (points : List Nat)
  | array (items : List Value)
  | object (members : List (List Nat × Value))
  deriving Repr

/-- The first half of a surrogate pair. -/
def isHigh (n : Nat) : Bool :=
  0xD800 ≤ n && n ≤ 0xDBFF

/-- The second half of a surrogate pair. -/
def isLow (n : Nat) : Bool :=
  0xDC00 ≤ n && n ≤ 0xDFFF

/-- The text of code points among which halves of surrogate pairs may stand. -/
def textOf : List Nat → Option (List Char)
  | [] => some []
  | n :: rest =>
    if isHigh n then
      match rest with
      | m :: rest =>
        if isLow m then
          (textOf rest).map (Char.ofNat (0x10000 + (n - 0xD800) * 0x400 + (m - 0xDC00)) :: ·)
        else none
      | [] => none
    else if isLow n then none
    else (textOf rest).map (Char.ofNat n :: ·)

def pointsOf (s : List Char) : List Nat :=
  s.map Char.toNat

theorem textOf_pointsOf (s : List Char) : textOf (pointsOf s) = some s := by
  induction s with
  | nil => rfl
  | cons c s ih =>
    have hv := c.valid
    have hn : c.val.toNat = c.toNat := rfl
    have hh : isHigh c.toNat = false := by
      simp only [UInt32.isValidChar, Nat.isValidChar, hn] at hv
      simp only [isHigh, Bool.and_eq_false_iff, decide_eq_false_iff_not]
      omega
    have hl : isLow c.toNat = false := by
      simp only [UInt32.isValidChar, Nat.isValidChar, hn] at hv
      simp only [isLow, Bool.and_eq_false_iff, decide_eq_false_iff_not]
      omega
    show textOf (c.toNat :: pointsOf s) = _
    unfold textOf
    simp [hh, hl, ih]

end SearchPath.Json
