import SearchPath.Proofs.Json.Scalar

/-!
# Reading values

1. What is spelled is read, with enough depth for the text (`readValue_of_spells`).
2. What is read is spelled by the text in front of what is left (`readersSound`).
3. Main result (`parse_eq_some_iff`): a text is read as a value exactly if it spells that value.
-/

namespace SearchPath.Json

/-! ## What is spelled is read -/

theorem readValue_congr {s t : List Char} (h : skip s = skip t) (depth : Nat) :
    readValue depth s = readValue depth t := by
  cases depth with
  | zero => rfl
  | succ depth => rw [readValue, readValue, h]

theorem readItems_congr {s t : List Char} (h : skip s = skip t) (depth : Nat) :
    readItems depth s = readItems depth t := by
  cases depth with
  | zero => rfl
  | succ depth => rw [readItems, readItems, readValue_congr h]

theorem readMembers_congr {s t : List Char} (h : skip s = skip t) (depth : Nat) :
    readMembers depth s = readMembers depth t := by
  cases depth with
  | zero => rfl
  | succ depth => rw [readMembers, readMembers, h]

theorem readValue_quote (depth : Nat) (s : List Char) :
    readValue (depth + 1) ('"' :: s) =
      (readText s).map fun (points, left) => (.text points, left) := rfl

theorem readValue_bracket (depth : Nat) (s : List Char) :
    readValue (depth + 1) ('[' :: s) =
      match skip s with
      | ']' :: left => some (.array [], left)
      | rest => (readItems depth rest).map fun (items, left) => (.array items, left) := rfl

theorem readValue_brace (depth : Nat) (s : List Char) :
    readValue (depth + 1) ('\x7b' :: s) =
      match skip s with
      | '\x7d' :: left => some (.object [], left)
      | rest => (readMembers depth rest).map fun (members, left) => (.object members, left) := rfl

theorem readValue_scalar (depth : Nat) {c : Char} (hc : isSpace c = false)
    (hmark : c ∉ ['"', '[', '\x7b']) (s : List Char) :
    readValue (depth + 1) (c :: s) = readScalar (c :: s) := by
  rw [readValue, skip_of_head hc]
  split
  next heq => exact absurd (by rw [(List.cons.inj heq).1]; decide) hmark
  next heq => exact absurd (by rw [(List.cons.inj heq).1]; decide) hmark
  next heq => exact absurd (by rw [(List.cons.inj heq).1]; decide) hmark
  next => rfl

theorem readValue_array (depth : Nat) {s : List Char} (h : (skip s).head? ≠ some ']') :
    readValue (depth + 1) ('[' :: s) =
      (readItems depth s).map fun (items, left) => (.array items, left) := by
  rw [readValue_bracket]
  split
  next heq => exact absurd (congrArg List.head? heq) h
  next => rw [readItems_congr (skip_skip s)]

theorem readValue_object (depth : Nat) {s : List Char} (h : (skip s).head? ≠ some '\x7d') :
    readValue (depth + 1) ('\x7b' :: s) =
      (readMembers depth s).map fun (members, left) => (.object members, left) := by
  rw [readValue_brace]
  split
  next heq => exact absurd (congrArg List.head? heq) h
  next => rw [readMembers_congr (skip_skip s)]

section Steps

variable {depth : Nat} {s t left rest : List Char} {item value : Value} {items : List Value}
  {key : List Nat} {members : List (List Nat × Value)}

theorem readItems_last (h : readValue depth s = some (item, left))
    (hleft : skip left = ']' :: rest) : readItems (depth + 1) s = some ([item], rest) := by
  rw [readItems, h]
  dsimp only [bind, Option.bind]
  rw [hleft]
  rfl

theorem readItems_more (h : readValue depth s = some (item, left))
    (hleft : skip left = ',' :: t) (hmore : readItems depth t = some (items, rest)) :
    readItems (depth + 1) s = some (item :: items, rest) := by
  rw [readItems, h]
  dsimp only [bind, Option.bind]
  rw [hleft]
  simp only [hmore]
  rfl

/-- The key of a member is read up to the colon behind it. -/
theorem readMembers_key {k : List Char} (hkey : SpellsKey k key) (depth : Nat) (t : List Char) :
    readMembers (depth + 1) (k ++ ':' :: t) = (do
      let (value, s) ← readValue depth t
      match skip s with
      | ',' :: rest =>
        let (members, left) ← readMembers depth rest
        return ((key, value) :: members, left)
      | '\x7d' :: left => return ([(key, value)], left)
      | _ => none) := by
  obtain @⟨before, s, after, _, hbefore, h, hafter⟩ := hkey
  have hquote : skip (before ++ '"' :: s ++ '"' :: after ++ ':' :: t) =
      '"' :: (s ++ '"' :: (after ++ ':' :: t)) := by
    simp only [List.append_assoc, List.cons_append]
    rw [skip_append hbefore, skip_of_head rfl]
  have hcolon : skip (after ++ ':' :: t) = ':' :: t := by
    rw [skip_append hafter, skip_of_head rfl]
  rw [readMembers, hquote]
  show (readText (s ++ '"' :: (after ++ ':' :: t))).bind _ = _
  rw [readText_of_spells h, Option.bind_some]
  dsimp only
  rw [hcolon]
  rfl

theorem readMembers_last {k : List Char} (hkey : SpellsKey k key)
    (h : readValue depth s = some (value, left)) (hleft : skip left = '\x7d' :: rest) :
    readMembers (depth + 1) (k ++ ':' :: s) = some ([(key, value)], rest) := by
  rw [readMembers_key hkey, h]
  dsimp only [bind, Option.bind]
  rw [hleft]
  rfl

theorem readMembers_more {k : List Char} (hkey : SpellsKey k key)
    (h : readValue depth s = some (value, left)) (hleft : skip left = ',' :: t)
    (hmore : readMembers depth t = some (members, rest)) :
    readMembers (depth + 1) (k ++ ':' :: s) = some ((key, value) :: members, rest) := by
  rw [readMembers_key hkey, h]
  dsimp only [bind, Option.bind]
  rw [hleft]
  simp only [hmore]
  rfl

end Steps

mutual

/-- **Values.** A value is read where it is spelled, if something stands behind it that ends a
number. -/
theorem readValue_of_spells {s : List Char} {value : Value} {depth : Nat} (rest : List Char) :
    Spells s value → 2 * s.length ≤ depth → Ends rest →
      readValue (depth + 1) (s ++ rest) = some (value, rest)
  | .wordNull, _, _ | .wordTrue, _, _ | .wordFalse, _, _ => rfl
  | .number h, _, hrest => by
    rw [← readScalar_of_isNumber h hrest]
    obtain ⟨c, t, rfl, hc⟩ := h.exists_head
    exact readValue_scalar depth (isSpace_of_numeral hc) (not_mem_of_numeral hc (by decide)) _
  | .text h, _, _ => by
    rw [List.cons_append, List.cons_append, List.append_assoc, List.singleton_append,
      readValue_quote, readText_of_spells h]
    rfl
  | .emptyArray h, _, _ => by
    rw [List.cons_append, List.cons_append, List.append_assoc, List.singleton_append,
      readValue_bracket, skip_append h, skip_of_head rfl]
    rfl
  | @Spells.array s items h, hdepth, _ => by
    have hlength : 2 * (s.length + 2) ≤ depth := by simpa using hdepth
    obtain ⟨depth, rfl⟩ := Nat.exists_eq_add_of_le' (show 2 ≤ depth by omega)
    have hread := readItems_of_spells rest h (show 2 * s.length ≤ depth by omega)
    rw [List.cons_append, List.cons_append, List.append_assoc, List.singleton_append,
      readValue_array _ (h.head?_skip _), hread]
    rfl
  | .emptyObject h, _, _ => by
    rw [List.cons_append, List.cons_append, List.append_assoc, List.singleton_append,
      readValue_brace, skip_append h, skip_of_head rfl]
    rfl
  | @Spells.object s members h, hdepth, _ => by
    have hlength : 2 * (s.length + 2) ≤ depth := by simpa using hdepth
    obtain ⟨depth, rfl⟩ := Nat.exists_eq_add_of_le' (show 2 ≤ depth by omega)
    have hread := readMembers_of_spells rest h (show 2 * s.length ≤ depth by omega)
    rw [List.cons_append, List.cons_append, List.append_assoc, List.singleton_append,
      readValue_object _ (h.head?_skip _), hread]
    rfl

theorem readValue_of_spaced {s : List Char} {value : Value} {depth : Nat} (rest : List Char) :
    SpellsSpaced s value → 2 * s.length ≤ depth → Ends rest →
      ∃ left, readValue (depth + 1) (s ++ rest) = some (value, left) ∧ skip left = skip rest
  | @SpellsSpaced.mk before s after _ hbefore h hafter, hdepth, hrest => by
    simp only [List.length_append] at hdepth
    have hread := readValue_of_spells (after ++ rest) h (show 2 * s.length ≤ depth by omega) (hrest.append hafter)
    refine ⟨after ++ rest, ?_, skip_append hafter rest⟩
    rw [List.append_assoc, List.append_assoc, readValue_congr (skip_append hbefore _), hread]

theorem readItems_of_spells {s : List Char} {items : List Value} {depth : Nat}
    (rest : List Char) : SpellsItems s items → 2 * s.length ≤ depth →
      readItems (depth + 2) (s ++ ']' :: rest) = some (items, rest)
  | .last h, hdepth => by
    obtain ⟨left, hread, hleft⟩ := readValue_of_spaced (']' :: rest) h hdepth
      (Ends.of_mem (by decide) rest)
    exact readItems_last hread (hleft.trans (skip_of_head rfl rest))
  | @SpellsItems.more s item t items h hmore, hdepth => by
    simp only [List.length_append, List.length_cons] at hdepth
    obtain ⟨depth, rfl⟩ := Nat.exists_eq_add_of_le' (show 1 ≤ depth by omega)
    obtain ⟨left, hread, hleft⟩ := readValue_of_spaced (',' :: t ++ ']' :: rest) h
      (show 2 * s.length ≤ depth + 1 by omega) (Ends.of_mem (by decide) _)
    have hrest := readItems_of_spells rest hmore (show 2 * t.length ≤ depth by omega)
    rw [List.append_assoc]
    exact readItems_more hread (hleft.trans (skip_of_head rfl _)) hrest

theorem readMembers_of_spells {s : List Char} {members : List (List Nat × Value)} {depth : Nat}
    (rest : List Char) : SpellsMembers s members → 2 * s.length ≤ depth →
      readMembers (depth + 2) (s ++ '\x7d' :: rest) = some (members, rest)
  | @SpellsMembers.last k key s value hkey h, hdepth => by
    simp only [List.length_append, List.length_cons] at hdepth
    obtain ⟨left, hread, hleft⟩ := readValue_of_spaced ('\x7d' :: rest) h
      (show 2 * s.length ≤ depth by omega) (Ends.of_mem (by decide) rest)
    rw [List.append_assoc, List.cons_append]
    exact readMembers_last hkey hread (hleft.trans (skip_of_head rfl rest))
  | @SpellsMembers.more k key s value t members hkey h hmore, hdepth => by
    simp only [List.length_append, List.length_cons] at hdepth
    obtain ⟨depth, rfl⟩ := Nat.exists_eq_add_of_le' (show 1 ≤ depth by omega)
    obtain ⟨left, hread, hleft⟩ := readValue_of_spaced (',' :: t ++ '\x7d' :: rest) h
      (show 2 * s.length ≤ depth + 1 by omega) (Ends.of_mem (by decide) _)
    have hrest := readMembers_of_spells rest hmore (show 2 * t.length ≤ depth by omega)
    rw [List.append_assoc, List.append_assoc, List.cons_append]
    exact readMembers_more hkey hread (hleft.trans (skip_of_head rfl _)) hrest

end

/-- **Reading.** The value that a text spells is read from it. -/
theorem parse_of_spells {s : List Char} {value : Value} (h : SpellsSpaced s value) :
    parse s = some value := by
  obtain ⟨left, hread, hleft⟩ := readValue_of_spaced [] h
    (show 2 * s.length ≤ 2 * s.length + 1 by omega) (by rintro _ ⟨⟩)
  rw [List.append_nil] at hread
  unfold parse
  rw [hread]
  exact if_pos hleft

/-! ## What is read is spelled -/

/-- What stands in front of the text that a reader leaves spells what it has read. -/
structure ReadersSound (depth : Nat) : Prop where
  value : ∀ {s left value}, readValue depth s = some (value, left) →
    ∃ before t, s = before ++ t ++ left ∧ Spaces before ∧ Spells t value
  items : ∀ {s left items}, readItems depth s = some (items, left) →
    ∃ t, s = t ++ ']' :: left ∧ SpellsItems t items
  members : ∀ {s left members}, readMembers depth s = some (members, left) →
    ∃ t, s = t ++ '\x7d' :: left ∧ SpellsMembers t members

variable {depth : Nat} {s left : List Char}

theorem ReadersSound.readValue_succ (hd : ReadersSound depth) {value : Value}
    (h : readValue (depth + 1) s = some (value, left)) :
    ∃ before t, s = before ++ t ++ left ∧ Spaces before ∧ Spells t value := by
  obtain ⟨before, hs, hbefore⟩ := exists_skip s
  suffices hspells : ∃ t, skip s = t ++ left ∧ Spells t value by
    obtain ⟨t, ht, hspells⟩ := hspells
    exact ⟨before, t, by rw [List.append_assoc, ← ht, ← hs], hbefore, hspells⟩
  rw [readValue] at h
  split at h
  next rest heq =>
    obtain ⟨⟨points, left⟩, htext, h⟩ := Option.map_eq_some_iff.1 h
    cases h
    obtain ⟨t, rfl, ht⟩ := spells_of_readText htext
    exact ⟨'"' :: t ++ ['"'], by rw [heq]; simp, .text ht⟩
  next rest heq =>
    obtain ⟨spaces, hrest, hspaces⟩ := exists_skip rest
    split at h
    next left hleft =>
      cases h
      exact ⟨'[' :: spaces ++ [']'], by rw [heq, hrest, hleft]; simp, .emptyArray hspaces⟩
    next =>
      obtain ⟨⟨items, left⟩, hitems, h⟩ := Option.map_eq_some_iff.1 h
      cases h
      rw [readItems_congr (skip_skip rest)] at hitems
      obtain ⟨t, rfl, ht⟩ := hd.items hitems
      exact ⟨'[' :: t ++ [']'], by rw [heq]; simp, .array ht⟩
  next rest heq =>
    obtain ⟨spaces, hrest, hspaces⟩ := exists_skip rest
    split at h
    next left hleft =>
      cases h
      exact ⟨'\x7b' :: spaces ++ ['\x7d'], by rw [heq, hrest, hleft]; simp, .emptyObject hspaces⟩
    next =>
      obtain ⟨⟨members, left⟩, hmembers, h⟩ := Option.map_eq_some_iff.1 h
      cases h
      rw [readMembers_congr (skip_skip rest)] at hmembers
      obtain ⟨t, rfl, ht⟩ := hd.members hmembers
      exact ⟨'\x7b' :: t ++ ['\x7d'], by rw [heq]; simp, .object ht⟩
  next => exact spells_of_readScalar h

/-- A value is read with the spaces around it. -/
theorem ReadersSound.spaced (hd : ReadersSound depth) {value : Value}
    (h : readValue depth s = some (value, left)) :
    ∃ t, s = t ++ skip left ∧ SpellsSpaced t value := by
  obtain ⟨before, t, rfl, hbefore, ht⟩ := hd.value h
  obtain ⟨after, hleft, hafter⟩ := exists_skip left
  exact ⟨before ++ t ++ after, by rw [List.append_assoc _ after, ← hleft], .mk hbefore ht hafter⟩

theorem ReadersSound.readItems_succ (hd : ReadersSound depth) {items : List Value}
    (h : readItems (depth + 1) s = some (items, left)) :
    ∃ t, s = t ++ ']' :: left ∧ SpellsItems t items := by
  rw [readItems] at h
  simp only [Option.bind_eq_bind, Option.bind_eq_some_iff] at h
  obtain ⟨⟨item, behind⟩, hitem, h⟩ := h
  obtain ⟨t, rfl, ht⟩ := hd.spaced hitem
  dsimp only at h
  split at h
  next rest heq =>
    obtain ⟨⟨more, left⟩, hmore, h⟩ := Option.bind_eq_some_iff.1 h
    cases h
    obtain ⟨u, rfl, hu⟩ := hd.items hmore
    exact ⟨t ++ ',' :: u, by rw [heq]; simp, .more ht hu⟩
  next heq =>
    cases h
    exact ⟨t, by rw [heq], .last ht⟩
  next => cases h

theorem ReadersSound.readMembers_succ (hd : ReadersSound depth)
    {members : List (List Nat × Value)}
    (h : readMembers (depth + 1) s = some (members, left)) :
    ∃ t, s = t ++ '\x7d' :: left ∧ SpellsMembers t members := by
  obtain ⟨before, hs, hbefore⟩ := exists_skip s
  rw [readMembers] at h
  split at h
  next rest hquote =>
    simp only [Option.bind_eq_bind, Option.bind_eq_some_iff] at h
    obtain ⟨⟨key, behind⟩, hkey, h⟩ := h
    obtain ⟨k, rfl, hk⟩ := spells_of_readText hkey
    obtain ⟨after, hbehind, hafter⟩ := exists_skip behind
    dsimp only at h
    split at h
    next rest hcolon =>
      have hspelled : SpellsKey (before ++ '"' :: k ++ '"' :: after) key := .mk hbefore hk hafter
      obtain ⟨⟨value, beyond⟩, hvalue, hmembers⟩ := Option.bind_eq_some_iff.1 h
      obtain ⟨t, rfl, ht⟩ := hd.spaced hvalue
      rw [hs, hquote, hbehind, hcolon]
      dsimp only at hmembers
      split at hmembers
      next rest heq =>
        obtain ⟨⟨more, left⟩, hmore, hmembers⟩ := Option.bind_eq_some_iff.1 hmembers
        cases hmembers
        obtain ⟨u, rfl, hu⟩ := hd.members hmore
        exact ⟨_, by rw [heq]; simp, .more hspelled ht hu⟩
      next heq =>
        cases hmembers
        exact ⟨_, by rw [heq]; simp, .last hspelled ht⟩
      next => cases hmembers
    next => cases h
  next => cases h

theorem readersSound (depth : Nat) : ReadersSound depth := by
  induction depth with
  | zero => constructor <;> intro _ _ _ h <;> cases h
  | succ depth ih => exact ⟨ih.readValue_succ, ih.readItems_succ, ih.readMembers_succ⟩

/-- **Reading.** A text is read as a value exactly if it spells that value, with spaces around it or
without. -/
theorem parse_eq_some_iff {value : Value} : parse s = some value ↔ SpellsSpaced s value := by
  refine ⟨fun h => ?_, parse_of_spells⟩
  unfold parse at h
  obtain ⟨⟨value, rest⟩, hread, h⟩ := Option.bind_eq_some_iff.1 h
  dsimp only at h
  split at h
  next hrest =>
    cases h
    obtain ⟨t, rfl, ht⟩ := (readersSound _).spaced hread
    rwa [hrest, List.append_nil]
  next => cases h

end SearchPath.Json
