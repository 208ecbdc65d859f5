import SearchPath.Proofs.Text.Letter
import SearchPath.Proofs.Text.Order
import SearchPath.Text.Pieces

/-!
# Boundaries between characters

A text can be cut at those of its octets where a character starts, and at its end.

1. Cutting at an octet gives all of the text before it and all of the text behind it, and fails
   where the octet is no boundary or out of range (`takeOctets_eq_some_iff`,
   `dropOctets_eq_some_iff`).
2. An ASCII character is one octet, so there is a boundary behind each of those at the start of a
   text (`isBoundary_of_ascii`); and no boundary moves with a change of case
   (`length_encode_of_eqCaseless`).
-/

namespace SearchPath.Text

/-- Some characters at the start of the text are its first `n` octets. -/
def IsBoundary (n : Nat) (s : List Char) : Prop :=
  ∃ front back, s = front ++ back ∧ (encode front).length = n

theorem IsBoundary.le {n : Nat} {s : List Char} (h : IsBoundary n s) : n ≤ (encode s).length := by
  obtain ⟨front, back, rfl, rfl⟩ := h
  rw [encode_append, List.length_append]
  exact Nat.le_add_right _ _

theorem length_encode_cons (c : Char) (s : List Char) :
    (encode (c :: s)).length = c.utf8Size + (encode s).length := by
  rw [encode_cons, List.length_append, String.length_utf8EncodeChar]

/-! ## Cutting -/

/-- The text that is the first `n` octets, where that is a boundary between characters. -/
def takeOctets : Nat → List Char → Option (List Char)
  | 0, _ => some []
  | _ + 1, [] => none
  | n + 1, c :: s =>
    if c.utf8Size ≤ n + 1 then (takeOctets (n + 1 - c.utf8Size) s).map (c :: ·) else none
termination_by _ s => s.length

theorem takeOctets_zero (s : List Char) : takeOctets 0 s = some [] := by
  rw [takeOctets]

theorem dropOctets_zero (s : List Char) : dropOctets 0 s = some s := by
  rw [dropOctets]

theorem takeOctets_size_add (c : Char) (n : Nat) (s : List Char) :
    takeOctets (c.utf8Size + n) (c :: s) = (takeOctets n s).map (c :: ·) := by
  obtain ⟨size, hsize⟩ := Nat.exists_eq_add_one.2 c.utf8Size_pos
  rw [hsize, Nat.add_right_comm, takeOctets, hsize, if_pos (by omega), Nat.add_right_comm,
    Nat.add_sub_cancel_left]

theorem dropOctets_size_add (c : Char) (n : Nat) (s : List Char) :
    dropOctets (c.utf8Size + n) (c :: s) = dropOctets n s := by
  obtain ⟨size, hsize⟩ := Nat.exists_eq_add_one.2 c.utf8Size_pos
  rw [hsize, Nat.add_right_comm, dropOctets, hsize, if_pos (by omega), Nat.add_right_comm,
    Nat.add_sub_cancel_left]

theorem takeOctets_append (front back : List Char) :
    takeOctets (encode front).length (front ++ back) = some front := by
  induction front with
  | nil => exact takeOctets_zero back
  | cons c front ih =>
    rw [length_encode_cons, List.cons_append, takeOctets_size_add, ih, Option.map_some]

theorem dropOctets_append (front back : List Char) :
    dropOctets (encode front).length (front ++ back) = some back := by
  induction front with
  | nil => exact dropOctets_zero back
  | cons c front ih => rw [length_encode_cons, List.cons_append, dropOctets_size_add, ih]

theorem takeOctets_eq_some_iff {n : Nat} {s front : List Char} :
    takeOctets n s = some front ↔ ∃ back, s = front ++ back ∧ (encode front).length = n := by
  refine ⟨fun h => ?_, fun ⟨back, hs, hn⟩ => hs ▸ hn ▸ takeOctets_append front back⟩
  fun_induction takeOctets n s generalizing front with
  | case1 s =>
    cases h
    exact ⟨s, rfl, rfl⟩
  | case2 n => cases h
  | case3 n c s hn ih =>
    obtain ⟨front, hfront, rfl⟩ := Option.map_eq_some_iff.1 h
    obtain ⟨back, rfl, hlength⟩ := ih hfront
    exact ⟨back, rfl, by rw [length_encode_cons]; omega⟩
  | case4 n c s hn => cases h

theorem dropOctets_eq_some_iff {n : Nat} {s back : List Char} :
    dropOctets n s = some back ↔ ∃ front, s = front ++ back ∧ (encode front).length = n := by
  refine ⟨fun h => ?_, fun ⟨front, hs, hn⟩ => hs ▸ hn ▸ dropOctets_append front back⟩
  fun_induction dropOctets n s with
  | case1 s =>
    cases h
    exact ⟨[], rfl, rfl⟩
  | case2 n => cases h
  | case3 n c s hn ih =>
    obtain ⟨front, rfl, hlength⟩ := ih h
    exact ⟨c :: front, rfl, by rw [length_encode_cons]; omega⟩
  | case4 n c s hn => cases h

/-- A text can be cut where a character starts, and nowhere else. -/
theorem isSome_dropOctets_iff {n : Nat} {s : List Char} :
    (dropOctets n s).isSome ↔ IsBoundary n s := by
  rw [Option.isSome_iff_exists]
  constructor
  · rintro ⟨back, h⟩
    obtain ⟨front, hs, hn⟩ := dropOctets_eq_some_iff.1 h
    exact ⟨front, back, hs, hn⟩
  · rintro ⟨front, back, hs, hn⟩
    exact ⟨back, dropOctets_eq_some_iff.2 ⟨front, hs, hn⟩⟩

/-! ## ASCII characters -/

theorem ascii_of_isAlpha {c : Char} (h : c.isAlpha = true) : c.toNat < 0x80 := by
  have := isAlpha_iff.1 h
  omega

theorem utf8Size_of_ascii {c : Char} (h : c.toNat < 0x80) : c.utf8Size = 1 :=
  Char.utf8Size_eq_one_iff.2 (UInt32.le_iff_toNat_le.2 (Nat.le_of_lt_succ h))

/-- The first octet of a character tells whether the character is ASCII, and if so, which one. -/
theorem exists_first_octet (c : Char) :
    ∃ first more, String.utf8EncodeChar c = first :: more ∧
      (c.toNat < 0x80 → first.toNat = c.toNat) ∧ (0x80 ≤ c.toNat → 0x80 ≤ first.toNat) := by
  have hc : c.toNat = c.val.toNat := rfl
  have hvalid := toNat_val_lt c
  unfold String.utf8EncodeChar
  rw [hc]
  generalize c.val.toNat = v at hvalid
  dsimp only
  split_ifs <;> refine ⟨_, _, rfl, ?_, ?_⟩ <;> rw [UInt8.toNat_ofNat'] <;> omega

theorem length_encode_of_ascii {s : List Char} (h : ∀ c ∈ s, c.toNat < 0x80) :
    (encode s).length = s.length := by
  induction s with
  | nil => rfl
  | cons c s ih =>
    obtain ⟨hc, hs⟩ := List.forall_mem_cons.1 h
    rw [length_encode_cons, utf8Size_of_ascii hc, ih hs, List.length_cons, Nat.add_comm]

theorem isBoundary_of_ascii {n : Nat} {front : List Char} (h : ∀ c ∈ front, c.toNat < 0x80)
    (hn : n ≤ front.length) (back : List Char) : IsBoundary n (front ++ back) := by
  refine ⟨front.take n, front.drop n ++ back, ?_, ?_⟩
  · rw [← List.append_assoc, List.take_append_drop]
  · rw [length_encode_of_ascii fun c hc => h c (List.mem_of_mem_take hc), List.length_take_of_le hn]

theorem utf8Size_toLower (c : Char) : c.toLower.utf8Size = c.utf8Size := by
  rcases toLower_cases c with h | ⟨hupper, h⟩
  · rw [h]
  · have hc := isUpper_iff.1 hupper
    rw [utf8Size_of_ascii (by omega), utf8Size_of_ascii (by omega)]

theorem length_encode_map_toLower (s : List Char) :
    (encode (s.map Char.toLower)).length = (encode s).length := by
  induction s with
  | nil => rfl
  | cons c s ih => rw [List.map_cons, length_encode_cons, length_encode_cons, utf8Size_toLower, ih]

theorem length_encode_of_eqCaseless {s t : List Char} (h : eqCaseless s t = true) :
    (encode s).length = (encode t).length := by
  rw [← length_encode_map_toLower s, eq_of_beq h, length_encode_map_toLower]

theorem length_of_eqCaseless {s t : List Char} (h : eqCaseless s t = true) :
    s.length = t.length := by
  rw [← List.length_map Char.toLower, eq_of_beq h, List.length_map]

end SearchPath.Text
