import SearchPath.Text.Blank

/-!
# ASCII letters

1. The letters are two ranges of code points (`isUpper_iff`, `isAlpha_iff`), none of them blank
   (`isBlank_of_isAlpha`).
2. The upper-case form of a letter is an upper-case letter (`isUpper_toUpper`), and only letters
   have letters as their lower-case forms (`isAlpha_of_isAlpha_toLower`, `eq_of_toLower_eq`).
-/

namespace SearchPath.Text

theorem isUpper_iff {c : Char} : c.isUpper = true ↔ 65 ≤ c.toNat ∧ c.toNat ≤ 90 :=
  decide_eq_true_iff.trans (and_congr UInt32.le_iff_toNat_le UInt32.le_iff_toNat_le)

/-- The characters that have an upper-case form. -/
theorem lower_iff {c : Char} :
    ('a'.val ≤ c.val ∧ c.val ≤ 'z'.val) ↔ 97 ≤ c.toNat ∧ c.toNat ≤ 122 :=
  and_congr UInt32.le_iff_toNat_le UInt32.le_iff_toNat_le

theorem isLower_iff {c : Char} : c.isLower = true ↔ 97 ≤ c.toNat ∧ c.toNat ≤ 122 := by
  rw [← lower_iff]
  exact (Bool.and_eq_true_iff).trans (and_congr decide_eq_true_iff decide_eq_true_iff)

theorem isAlpha_iff {c : Char} :
    c.isAlpha = true ↔ (65 ≤ c.toNat ∧ c.toNat ≤ 90) ∨ (97 ≤ c.toNat ∧ c.toNat ≤ 122) :=
  Bool.or_eq_true_iff.trans (or_congr isUpper_iff isLower_iff)

theorem isAlpha_of_isUpper {c : Char} (h : c.isUpper = true) : c.isAlpha = true :=
  isAlpha_iff.2 (.inl (isUpper_iff.1 h))

theorem isBlank_of_isAlpha {c : Char} (h : c.isAlpha = true) : isBlank c = false := by
  have hc := isAlpha_iff.1 h
  simp only [isBlank, Bool.or_eq_false_iff, Bool.and_eq_false_iff, decide_eq_false_iff_not,
    beq_eq_false_iff_ne]
  omega

/-! ## Changing the case -/

theorem isUpper_toUpper {c : Char} (h : c.isAlpha = true) : c.toUpper.isUpper = true := by
  rw [isAlpha_iff] at h
  rw [isUpper_iff]
  unfold Char.toUpper
  split
  next hl =>
    have hc := lower_iff.1 hl
    have hadd : (c.val + ('A'.val - 'a'.val)).toNat = _ := UInt32.toNat_add ..
    have hd : ('A'.val - 'a'.val).toNat = 4294967264 := by decide
    have hv : c.toNat = c.val.toNat := rfl
    change 65 ≤ (c.val + ('A'.val - 'a'.val)).toNat ∧ (c.val + ('A'.val - 'a'.val)).toNat ≤ 90
    omega
  next hl => exact h.resolve_right fun hc => hl (lower_iff.2 hc)

theorem toUpper_of_isUpper {c : Char} (h : c.isUpper = true) : c.toUpper = c := by
  have hc := isUpper_iff.1 h
  unfold Char.toUpper
  refine dif_neg fun hl => ?_
  have := lower_iff.1 hl
  omega

theorem isAlpha_of_isAlpha_toLower {c : Char} (h : c.toLower.isAlpha = true) :
    c.isAlpha = true := by
  unfold Char.toLower at h
  split at h
  next hu => exact isAlpha_of_isUpper (decide_eq_true hu)
  next => exact h

/-- Only letters become letters of a word. -/
theorem isAlpha_of_toLower_mem {c : Char} {word : List Char} (hword : word.all Char.isAlpha = true)
    (h : c.toLower ∈ word) : c.isAlpha = true :=
  isAlpha_of_isAlpha_toLower (List.all_eq_true.1 hword _ h)

theorem toLower_cases (c : Char) :
    c.toLower = c ∨ c.isUpper = true ∧ c.toLower.toNat = c.toNat + 32 := by
  unfold Char.toLower
  split
  next hu =>
    have hupper : c.isUpper = true := decide_eq_true hu
    have hc := isUpper_iff.1 hupper
    have hadd : (c.val + ('a'.val - 'A'.val)).toNat = _ := UInt32.toNat_add ..
    have hd : ('a'.val - 'A'.val).toNat = 32 := by decide
    have hv : c.toNat = c.val.toNat := rfl
    refine .inr ⟨hupper, ?_⟩
    show (c.val + ('a'.val - 'A'.val)).toNat = c.toNat + 32
    omega
  next => exact .inl rfl

/-- Only a letter has a lower-case form of its own. -/
theorem eq_of_toLower_eq {c d : Char} (hd : d.isLower = false) (h : c.toLower = d) : c = d := by
  rcases toLower_cases c with hc | ⟨hu, hc⟩
  · rw [← hc, h]
  · have hupper := isUpper_iff.1 hu
    rw [h] at hc
    have hlower : d.isLower = true := isLower_iff.2 (by omega)
    rw [hd] at hlower
    cases hlower

theorem eq_of_toLower_eq_e {c : Char} (h : c.toLower = 'e') : c = 'e' ∨ c = 'E' := by
  rcases toLower_cases c with hc | ⟨-, hc⟩
  · exact .inl (hc.symm.trans h)
  · rw [h] at hc
    have hnat : c.toNat = 'E'.toNat := by
      have : 'e'.toNat = 'E'.toNat + 32 := by decide
      omega
    exact .inr (Char.toNat_inj.1 hnat)

end SearchPath.Text
