import Mathlib.Data.List.DropRight
import Mathlib.Data.List.TakeWhile
import SearchPath.Json.Parser

/-!
# The grammar of JSON

`Spells` says which texts spell a value, without reading them: words, numbers, texts with escapes,
arrays and objects whose parts stand between spaces. What is spelled keeps its literal where it is a
number, and its code points where it is a text, so each text spells one value only.

The first character tells what is spelled: no value starts with a space or a closing bracket
(`Spells.exists_head`), and no number like anything else (`not_mem_of_numeral`).
-/

namespace SearchPath.Json

/-! ## Spellings -/

/-- Spaces between the parts of a value. -/
def Spaces (s : List Char) : Prop :=
  ∀ c ∈ s, isSpace c = true

/-- What stands between the quotes of a text. -/
inductive SpellsPoints : List Char → List Nat → Prop
  | nil : SpellsPoints [] []
  | char {c s points} (hcontrol : 0x20 ≤ c.toNat) (hquote : c ≠ '"') (hslash : c ≠ '\\')
      (h : SpellsPoints s points) : SpellsPoints (c :: s) (c.toNat :: points)
  | escape {c n s points} (hc : (c, n) ∈ escapes) (h : SpellsPoints s points) :
      SpellsPoints ('\\' :: c :: s) (n :: points)
  | unit {a b c d n s points} (hn : readUnit a b c d = some n) (h : SpellsPoints s points) :
      SpellsPoints ('\\' :: 'u' :: a :: b :: c :: d :: s) (n :: points)

/-- Digits, at least one. -/
structure IsRun (s : List Char) : Prop where
  ne_nil : s ≠ []
  digits : ∀ c ∈ s, c.isDigit = true

/-- The point of a number and the digits behind it, if there are any. -/
inductive IsFraction : List Char → Prop
  | absent : IsFraction []
  | present {s} (h : IsRun s) : IsFraction ('.' :: s)

/-- The exponent of a number, if there is one. -/
inductive IsExponent : List Char → Prop
  | absent : IsExponent []
  | plain {e s} (he : e = 'e' ∨ e = 'E') (h : IsRun s) : IsExponent (e :: s)
  | signed {e sign s} (he : e = 'e' ∨ e = 'E') (hsign : sign = '+' ∨ sign = '-') (h : IsRun s) :
      IsExponent (e :: sign :: s)

/-- The literal of a number: no zero stands before another digit in front of the point. -/
inductive IsNumber : List Char → Prop
  | mk {sign whole fraction exponent} (hsign : sign = [] ∨ sign = ['-']) (hwhole : IsRun whole)
      (hzero : whole.head? = some '0' → whole = ['0']) (hfraction : IsFraction fraction)
      (hexponent : IsExponent exponent) : IsNumber (sign ++ whole ++ fraction ++ exponent)

/-- The key of a member between spaces. -/
inductive SpellsKey : List Char → List Nat → Prop
  | mk {before s after points} (hbefore : Spaces before) (h : SpellsPoints s points)
      (hafter : Spaces after) : SpellsKey (before ++ '"' :: s ++ '"' :: after) points

mutual

/-- A text that spells a value. -/
inductive Spells : List Char → Value → Prop
  | wordNull : Spells "null".toList .null
  | wordTrue : Spells "true".toList (.boolean true)
  | wordFalse : Spells "false".toList (.boolean false)
  | number {s} (h : IsNumber s) : Spells s (.number s)
  | text {s points} (h : SpellsPoints s points) : Spells ('"' :: s ++ ['"']) (.text points)
  | emptyArray {s} (h : Spaces s) : Spells ('[' :: s ++ [']']) (.array [])
  | array {s items} (h : SpellsItems s items) : Spells ('[' :: s ++ [']']) (.array items)
  | emptyObject {s} (h : Spaces s) : Spells ('\x7b' :: s ++ ['\x7d']) (.object [])
  | object {s members} (h : SpellsMembers s members) :
      Spells ('\x7b' :: s ++ ['\x7d']) (.object members)

/-- A value between spaces. -/
inductive SpellsSpaced : List Char → Value → Prop
  | mk {before s after value} (hbefore : Spaces before) (h : Spells s value)
      (hafter : Spaces after) : SpellsSpaced (before ++ s ++ after) value

/-- The items of an array, with commas between them. -/
inductive SpellsItems : List Char → List Value → Prop
  | last {s item} (h : SpellsSpaced s item) : SpellsItems s [item]
  | more {s item t items} (h : SpellsSpaced s item) (hmore : SpellsItems t items) :
      SpellsItems (s ++ ',' :: t) (item :: items)

/-- The members of an object, with commas between them. -/
inductive SpellsMembers : List Char → List (List Nat × Value) → Prop
  | last {k key s value} (hkey : SpellsKey k key) (h : SpellsSpaced s value) :
      SpellsMembers (k ++ ':' :: s) [(key, value)]
  | more {k key s value t members} (hkey : SpellsKey k key) (h : SpellsSpaced s value)
      (hmore : SpellsMembers t members) :
      SpellsMembers (k ++ ':' :: s ++ ',' :: t) ((key, value) :: members)

end

/-! ## Spaces -/

theorem spaces_nil : Spaces [] := fun _ hc => absurd hc List.not_mem_nil

theorem skip_append {s : List Char} (h : Spaces s) (t : List Char) : skip (s ++ t) = skip t :=
  List.dropWhile_append_of_pos h

theorem skip_skip (s : List Char) : skip (skip s) = skip s :=
  List.dropWhile_idempotent _ _

theorem skip_of_head {c : Char} (h : isSpace c = false) (s : List Char) :
    skip (c :: s) = c :: s :=
  List.dropWhile_cons_of_neg (by rw [h]; exact Bool.false_ne_true)

/-- Spaces stand in front of what is not skipped. -/
theorem exists_skip (s : List Char) : ∃ before, s = before ++ skip s ∧ Spaces before :=
  ⟨s.takeWhile isSpace, List.takeWhile_append_dropWhile.symm, fun _ => List.mem_takeWhile_imp⟩

theorem Spells.spaced {s : List Char} {value : Value} (h : Spells s value) :
    SpellsSpaced s value := by
  have hspaced := SpellsSpaced.mk spaces_nil h spaces_nil
  rwa [List.nil_append, List.append_nil] at hspaced

/-! ## First characters -/

/-- A number starts with a digit or a minus sign. -/
theorem IsNumber.exists_head {s : List Char} (h : IsNumber s) :
    ∃ c t, s = c :: t ∧ (c.isDigit = true ∨ c = '-') := by
  obtain @⟨sign, whole, fraction, exponent, hsign, hwhole, -, -, -⟩ := h
  obtain ⟨d, whole, rfl⟩ := List.exists_cons_of_ne_nil hwhole.ne_nil
  rcases hsign with rfl | rfl
  · exact ⟨d, _, rfl, .inl (hwhole.digits d List.mem_cons_self)⟩
  · exact ⟨'-', _, rfl, .inr rfl⟩

/-- Nothing else starts like a number. -/
theorem not_mem_of_numeral {c : Char} (hc : c.isDigit = true ∨ c = '-') {others : List Char}
    (h : others.all fun d => !(d.isDigit || d == '-')) : c ∉ others := by
  intro hm
  have hother := List.all_eq_true.1 h c hm
  rcases hc with hc | rfl
  · rw [hc] at hother
    cases hother
  · cases hother

theorem isSpace_of_numeral {c : Char} (hc : c.isDigit = true ∨ c = '-') : isSpace c = false := by
  refine Bool.eq_false_iff.2 fun hspace => ?_
  simp only [isSpace, Bool.or_eq_true, beq_iff_eq] at hspace
  rcases hspace with ((rfl | rfl) | rfl) | rfl <;> revert hc <;> decide

/-- A value starts with no space and no closing bracket. -/
theorem Spells.exists_head {s : List Char} {value : Value} (h : Spells s value) :
    ∃ c t, s = c :: t ∧ isSpace c = false ∧ c ≠ ']' := by
  cases h with
  | wordNull | wordTrue | wordFalse => exact ⟨_, _, rfl, rfl, by decide⟩
  | number h =>
    obtain ⟨c, t, rfl, hc⟩ := h.exists_head
    refine ⟨c, t, rfl, isSpace_of_numeral hc, ?_⟩
    rintro rfl
    revert hc
    decide
  | text _ | emptyArray _ | array _ | emptyObject _ | object _ => exact ⟨_, _, rfl, rfl, by decide⟩

/-- Spaces do not hide a closing bracket in front of a value. -/
theorem SpellsSpaced.head?_skip {s : List Char} {value : Value} (h : SpellsSpaced s value)
    (rest : List Char) : (skip (s ++ rest)).head? ≠ some ']' := by
  obtain @⟨before, s, after, _, hbefore, h, -⟩ := h
  obtain ⟨c, t, rfl, hc, hne⟩ := h.exists_head
  rw [List.append_assoc, List.append_assoc, skip_append hbefore, List.cons_append, skip_of_head hc]
  exact fun he => hne (Option.some.inj he)

theorem SpellsItems.head?_skip {s : List Char} {items : List Value} (h : SpellsItems s items)
    (rest : List Char) : (skip (s ++ rest)).head? ≠ some ']' := by
  cases h with
  | last h => exact h.head?_skip rest
  | more h _ =>
    rw [List.append_assoc]
    exact h.head?_skip _

theorem SpellsKey.head?_skip {k : List Char} {key : List Nat} (h : SpellsKey k key)
    (rest : List Char) : (skip (k ++ rest)).head? = some '"' := by
  obtain @⟨before, s, after, _, hbefore, h, -⟩ := h
  simp only [List.append_assoc, List.cons_append]
  rw [skip_append hbefore, skip_of_head rfl]
  rfl

theorem SpellsMembers.head?_skip {s : List Char} {members : List (List Nat × Value)}
    (h : SpellsMembers s members) (rest : List Char) :
    (skip (s ++ rest)).head? ≠ some '\x7d' := by
  have hkey {k t : List Char} {key : List Nat} (h : SpellsKey k key) :
      (skip (k ++ t)).head? ≠ some '\x7d' := by
    rw [h.head?_skip]
    decide
  cases h with
  | last hk _ =>
    rw [List.append_assoc]
    exact hkey hk
  | more hk _ _ =>
    rw [List.append_assoc, List.append_assoc]
    exact hkey hk

end SearchPath.Json
