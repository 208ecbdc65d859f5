import SearchPath.Json.Printer
import SearchPath.Proofs.Json.Grammar

/-!
# Writing JSON

1. A text is written as it may be spelled (`spells_writeText`), and so is a number in decimal, which
   is read back (`isNumber_decimal`, `readDigits_decimal`).
2. Arrays of texts and objects are spelled by what is written for their parts
   (`spells_writeTexts`, `spells_writeObject`).
-/

namespace SearchPath.Json

open SearchPath.Text

/-! ## Texts -/

/-- The escape of a control has its code point in hexadecimal digits. -/
theorem readUnit_control {n : Nat} (h : n < 0x20) :
    readUnit '0' '0' (hexDigit (n / 16)).toLower (hexDigit (n % 16)).toLower = some n := by
  have hall : ∀ n < 0x20,
      readUnit '0' '0' (hexDigit (n / 16)).toLower (hexDigit (n % 16)).toLower = some n := by
    decide
  exact hall n h

theorem spells_writeChar (c : Char) {s : List Char} {points : List Nat}
    (h : SpellsPoints s points) : SpellsPoints (writeChar c ++ s) (c.toNat :: points) := by
  unfold writeChar
  split
  next => exact .escape (by decide) h
  next => exact .escape (by decide) h
  next => exact .escape (by decide) h
  next => exact .escape (by decide) h
  next => exact .escape (by decide) h
  next => exact .escape (by decide) h
  next => exact .escape (by decide) h
  next hquote hslash _ _ _ _ _ =>
    split
    next hcontrol => exact .unit (readUnit_control hcontrol) h
    next hcontrol => exact .char (Nat.not_lt.1 hcontrol) hquote hslash h

theorem spells_writeChars (s : List Char) : SpellsPoints (s.flatMap writeChar) (pointsOf s) := by
  induction s with
  | nil => exact .nil
  | cons c s ih => exact spells_writeChar c ih

theorem spells_writeText (s : List Char) : Spells (writeText s) (.text (pointsOf s)) :=
  .text (spells_writeChars s)

theorem spellsKey_writeText (s : List Char) : SpellsKey (writeText s) (pointsOf s) :=
  .mk spaces_nil (spells_writeChars s) spaces_nil

/-! ## Numbers -/

theorem decimal_eq (n : Nat) :
    decimal n = if n < 10 then [n.digitChar] else decimal (n / 10) ++ [(n % 10).digitChar] :=
  Nat.toDigits_eq_if (by decide)

theorem digitValue_digitChar {n : Nat} (h : n < 10) : digitValue 10 n.digitChar = some n := by
  have hall : ∀ n < 10, digitValue 10 n.digitChar = some n := by decide
  exact hall n h

/-- A number in decimal is read back. -/
theorem readDigits_decimal (n : Nat) : readDigits 10 (decimal n) = some n := by
  induction n using Nat.strongRecOn with
  | ind n ih =>
    rw [decimal_eq]
    split
    next h => simp [readDigits, digitValue_digitChar h]
    next h =>
      have hfront : readDigits 10 (decimal (n / 10)) = some (n / 10) := ih _ (by omega)
      have hlast := digitValue_digitChar (Nat.mod_lt n (show 0 < 10 by omega))
      unfold readDigits at hfront ⊢
      rw [List.foldlM_append, hfront]
      simp only [Option.bind_eq_bind, Option.bind_some, List.foldlM_cons, List.foldlM_nil, hlast,
        Option.map_some]
      exact congrArg some (Nat.div_add_mod n 10)

theorem isRun_decimal (n : Nat) : IsRun (decimal n) where
  ne_nil := Nat.toDigits_ne_nil
  digits _ := Nat.isDigit_of_mem_toDigits (by decide) (by decide)

/-- No zero stands in front of other digits. -/
theorem head?_decimal {n : Nat} (h : (decimal n).head? = some '0') : n = 0 := by
  induction n using Nat.strongRecOn with
  | ind n ih =>
    rw [decimal_eq] at h
    split at h
    next hn =>
      have hzero : digitValue 10 n.digitChar = some 0 := by rw [Option.some.inj h]; rfl
      rw [digitValue_digitChar hn] at hzero
      exact Option.some.inj hzero
    next hn =>
      rw [List.head?_append_of_ne_nil _ (isRun_decimal _).ne_nil] at h
      have := ih (n / 10) (by omega) h
      omega

theorem isNumber_decimal (n : Nat) : IsNumber (decimal n) := by
  have hzero : (decimal n).head? = some '0' → decimal n = ['0'] := by
    intro h
    rw [head?_decimal h]
    rfl
  have h := IsNumber.mk (.inl rfl) (isRun_decimal n) hzero .absent .absent
  rwa [List.nil_append, List.append_nil, List.append_nil] at h

/-! ## Arrays and objects -/

theorem commas_singleton (s : List Char) : commas [s] = s := by
  simp [commas, List.intercalate]

theorem commas_cons (s t : List Char) (more : List (List Char)) :
    commas (s :: t :: more) = s ++ ',' :: commas (t :: more) := by
  simp [commas, List.intercalate]

section Parts

variable {α : Type} {text : α → List Char} {value : α → Value}

theorem spells_commas {first : α} {more : List α}
    (h : ∀ a ∈ first :: more, Spells (text a) (value a)) :
    SpellsItems (commas ((first :: more).map text)) ((first :: more).map value) := by
  induction more generalizing first with
  | nil =>
    rw [List.map_singleton, List.map_singleton, commas_singleton]
    exact .last (h first List.mem_cons_self).spaced
  | cons second more ih =>
    rw [List.map_cons, List.map_cons, List.map_cons, commas_cons]
    exact .more (h first List.mem_cons_self).spaced
      (ih fun a ha => h a (List.mem_cons_of_mem first ha))

theorem spells_members (key : α → List Char) {first : α} {more : List α}
    (h : ∀ a ∈ first :: more, Spells (text a) (value a)) :
    SpellsMembers (commas ((first :: more).map fun a => writeText (key a) ++ ':' :: text a))
      ((first :: more).map fun a => (pointsOf (key a), value a)) := by
  induction more generalizing first with
  | nil =>
    rw [List.map_singleton, List.map_singleton, commas_singleton]
    exact .last (spellsKey_writeText (key first)) (h first List.mem_cons_self).spaced
  | cons second more ih =>
    have hmore := ih fun a ha => h a (List.mem_cons_of_mem first ha)
    rw [List.map_cons, List.map_cons, List.map_cons, commas_cons]
    exact .more (spellsKey_writeText (key first)) (h first List.mem_cons_self).spaced hmore

end Parts

/-- Texts are written as an array that spells them. -/
theorem spells_writeTexts (items : List (List Char)) :
    Spells (writeTexts items) (.array (items.map fun s => .text (pointsOf s))) := by
  cases items with
  | nil => exact .emptyArray spaces_nil
  | cons first more => exact .array (spells_commas fun s _ => spells_writeText s)

/-- An object is spelled by its keys and what is written for their values. -/
theorem spells_writeObject {α : Type} (fields : List α) (key text : α → List Char)
    {value : α → Value} (h : ∀ a ∈ fields, Spells (text a) (value a)) :
    Spells (writeObject (fields.map fun a => (key a, text a)))
      (.object (fields.map fun a => (pointsOf (key a), value a))) := by
  unfold writeObject
  rw [List.map_map]
  cases fields with
  | nil => exact .emptyObject spaces_nil
  | cons first more => exact .object (spells_members key h)

end SearchPath.Json
