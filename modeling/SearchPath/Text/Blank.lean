/-!
# Blank characters and trimming

A character is blank when it has the Unicode property White_Space. Text read from a user is
trimmed of blanks at both ends before it is interpreted. Main statements:

1. `trim` never leaves a blank at either end (`head?_trim`, `getLast?_trim`);
2. `trim` is the identity on text without blanks at its ends (`trim_eq_self`).
-/

namespace SearchPath.Text

/-- The Unicode property White_Space. -/
def isBlank (c : Char) : Bool :=
  (0x09 ≤ c.toNat && c.toNat ≤ 0x0D) || c.toNat == 0x20 || c.toNat == 0x85 || c.toNat == 0xA0
    || c.toNat == 0x1680 || (0x2000 ≤ c.toNat && c.toNat ≤ 0x200A) || c.toNat == 0x2028
    || c.toNat == 0x2029 || c.toNat == 0x202F || c.toNat == 0x205F || c.toNat == 0x3000

/-- The text without the longest run of characters in `p` at its end. -/
def trimEnd (p : Char → Bool) (s : List Char) : List Char :=
  (s.reverse.dropWhile p).reverse

/-- The text without the runs of characters in `p` at both of its ends. -/
def trimBoth (p : Char → Bool) (s : List Char) : List Char :=
  trimEnd p (s.dropWhile p)

def trim (s : List Char) : List Char :=
  trimBoth isBlank s

@[simp] theorem trimEnd_nil (p : Char → Bool) : trimEnd p [] = [] := rfl

theorem head?_dropWhile_not {p : Char → Bool} {s : List Char} {c : Char}
    (h : (s.dropWhile p).head? = some c) : p c = false := by
  induction s with
  | nil => simp at h
  | cons a s ih =>
    by_cases ha : p a
    · rw [List.dropWhile_cons_of_pos ha] at h
      exact ih h
    · rw [List.dropWhile_cons_of_neg ha] at h
      simp only [List.head?_cons, Option.some.injEq] at h
      subst h
      simpa using ha

theorem getLast?_trimEnd {p : Char → Bool} {s : List Char} {c : Char}
    (h : (trimEnd p s).getLast? = some c) : p c = false := by
  rw [trimEnd, List.getLast?_reverse] at h
  exact head?_dropWhile_not h

theorem trimEnd_eq_self {p : Char → Bool} {s : List Char}
    (h : ∀ c, s.getLast? = some c → p c = false) : trimEnd p s = s := by
  unfold trimEnd
  cases hr : s.reverse with
  | nil => simp_all
  | cons a t =>
    have hl : s.getLast? = some a := by rw [← List.head?_reverse, hr]; rfl
    rw [List.dropWhile_cons_of_neg (by simp [h a hl]), ← hr, List.reverse_reverse]

theorem trimBoth_eq_self {p : Char → Bool} {s : List Char}
    (hh : ∀ c, s.head? = some c → p c = false) (hl : ∀ c, s.getLast? = some c → p c = false) :
    trimBoth p s = s := by
  have hd : s.dropWhile p = s := by
    cases s with
    | nil => rfl
    | cons a t => exact List.dropWhile_cons_of_neg (by simp [hh a rfl])
  rw [trimBoth, hd, trimEnd_eq_self hl]

theorem trim_eq_self {s : List Char} (hh : ∀ c, s.head? = some c → isBlank c = false)
    (hl : ∀ c, s.getLast? = some c → isBlank c = false) : trim s = s :=
  trimBoth_eq_self hh hl

theorem trimEnd_isPrefix (p : Char → Bool) (s : List Char) : trimEnd p s <+: s := by
  have h : s.reverse.dropWhile p <:+ s.reverse := List.dropWhile_suffix p
  simpa [trimEnd] using List.reverse_prefix.2 h

theorem getLast?_trim {s : List Char} {c : Char} (h : (trim s).getLast? = some c) :
    isBlank c = false :=
  getLast?_trimEnd h

theorem head?_trim {s : List Char} {c : Char} (h : (trim s).head? = some c) :
    isBlank c = false := by
  obtain ⟨t, ht⟩ := trimEnd_isPrefix isBlank (s.dropWhile isBlank)
  have hne : trimEnd isBlank (s.dropWhile isBlank) = trim s := rfl
  rw [hne] at ht
  refine head?_dropWhile_not (s := s) (p := isBlank) ?_
  rw [← ht, List.head?_append, h]
  rfl

end SearchPath.Text
