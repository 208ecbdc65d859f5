/-!
# Cutting text

Text is a list of characters while it is taken apart. `pieces` cuts at every separator and
`breakAt` at the first occurrence of a mark; both keep everything between. Main statements:

1. joining the pieces again gives the text (`join_pieces`), and no piece holds the
   separator (`not_mem_of_mem_pieces`);
2. what `breakAt` returns, with the mark between, is the text (`eq_of_breakAt`).
-/

namespace SearchPath.Text

/-! ## Separators -/

/-- The pieces of the text between the occurrences of `sep`; there is always at least one. -/
def pieces (sep : Char) : List Char → List (List Char)
  | [] => [[]]
  | c :: s => if c = sep then [] :: pieces sep s else (pieces sep s).modifyHead (c :: ·)

@[simp] theorem pieces_nil (sep : Char) : pieces sep [] = [[]] := rfl

@[simp] theorem pieces_ne_nil (sep : Char) (s : List Char) : pieces sep s ≠ [] := by
  induction s with
  | nil => simp
  | cons c s ih =>
    unfold pieces
    split
    · simp
    · cases h : pieces sep s with
      | nil => exact absurd h ih
      | cons a t => simp

theorem pieces_eq_cons (sep : Char) (s : List Char) :
    ∃ p ps, pieces sep s = p :: ps := by
  cases h : pieces sep s with
  | nil => exact absurd h (pieces_ne_nil sep s)
  | cons p ps => exact ⟨p, ps, rfl⟩

def join (sep : Char) : List (List Char) → List Char
  | [] => []
  | [p] => p
  | p :: q :: ps => p ++ sep :: join sep (q :: ps)

theorem join_cons_ne_nil (sep : Char) (p : List Char) {ps : List (List Char)} (h : ps ≠ []) :
    join sep (p :: ps) = p ++ sep :: join sep ps := by
  cases ps with
  | nil => exact absurd rfl h
  | cons q ps => rfl

/-- **Cutting and joining.** The pieces with the separator between them are the text. -/
theorem join_pieces (sep : Char) (s : List Char) : join sep (pieces sep s) = s := by
  induction s with
  | nil => rfl
  | cons c s ih =>
    unfold pieces
    split
    next h => rw [join_cons_ne_nil sep _ (pieces_ne_nil sep s), ih, h]; rfl
    next h =>
      obtain ⟨p, ps, hp⟩ := pieces_eq_cons sep s
      rw [hp] at ih ⊢
      cases ps <;> simp_all [join]

theorem not_mem_of_mem_pieces {sep : Char} {s p : List Char} (h : p ∈ pieces sep s) :
    sep ∉ p := by
  induction s generalizing p with
  | nil => simp_all
  | cons c s ih =>
    unfold pieces at h
    split at h
    next hc =>
      rcases List.mem_cons.1 h with rfl | h
      · simp
      · exact ih h
    next hc =>
      obtain ⟨q, qs, hq⟩ := pieces_eq_cons sep s
      rw [hq] at h ih
      simp only [List.modifyHead_cons, List.mem_cons] at h
      rcases h with rfl | h
      · have := ih (p := q) (by simp)
        simp_all [eq_comm]
      · exact ih (by simp [h])

theorem pieces_eq_singleton {sep : Char} {s : List Char} (h : sep ∉ s) : pieces sep s = [s] := by
  induction s with
  | nil => rfl
  | cons c s ih =>
    simp only [List.mem_cons, not_or] at h
    rw [pieces, if_neg (fun e => h.1 e.symm), ih h.2]
    rfl

theorem pieces_append (sep : Char) (s t : List Char) :
    pieces sep (s ++ sep :: t) = pieces sep s ++ pieces sep t := by
  induction s with
  | nil => simp [pieces]
  | cons c s ih =>
    obtain ⟨p, ps, hp⟩ := pieces_eq_cons sep s
    simp only [List.cons_append, pieces, ih, hp]
    split <;> simp

/-! ## Marks -/

/-- The text before the first occurrence of `mark` and the text after it. -/
def breakAt (mark : List Char) : List Char → Option (List Char × List Char)
  | [] => if mark = [] then some ([], []) else none
  | c :: s =>
    if mark.isPrefixOf (c :: s) then some ([], (c :: s).drop mark.length)
    else (breakAt mark s).map fun r => (c :: r.1, r.2)

theorem eq_of_breakAt {mark s before after : List Char}
    (h : breakAt mark s = some (before, after)) : s = before ++ mark ++ after := by
  induction s generalizing before after with
  | nil => unfold breakAt at h; split at h <;> simp_all
  | cons c s ih =>
    unfold breakAt at h
    split at h
    next hp =>
      obtain ⟨t, ht⟩ := List.isPrefixOf_iff_prefix.1 hp
      simp only [Option.some.injEq, Prod.mk.injEq] at h
      obtain ⟨rfl, rfl⟩ := h
      rw [← ht]
      simp
    next hp =>
      obtain ⟨r, hr, he⟩ := Option.map_eq_some_iff.1 h
      simp only [Prod.mk.injEq] at he
      obtain ⟨rfl, rfl⟩ := he
      rw [ih hr]
      simp

/-- The text before the last occurrence of `sep` and the text after it. -/
def breakAtLast (sep : Char) : List Char → Option (List Char × List Char)
  | [] => none
  | c :: s =>
    match breakAtLast sep s with
    | some (before, after) => some (c :: before, after)
    | none => if c = sep then some ([], s) else none

theorem eq_of_breakAtLast {sep : Char} {s before after : List Char}
    (h : breakAtLast sep s = some (before, after)) : s = before ++ sep :: after := by
  induction s generalizing before after with
  | nil => simp [breakAtLast] at h
  | cons c s ih =>
    unfold breakAtLast at h
    split at h
    next b a hb =>
      simp only [Option.some.injEq, Prod.mk.injEq] at h
      obtain ⟨rfl, rfl⟩ := h
      simp [ih hb]
    next => split at h <;> simp_all

def stripStart (mark s : List Char) : Option (List Char) :=
  if mark.isPrefixOf s then some (s.drop mark.length) else none

theorem stripStart_eq_some_iff {mark s rest : List Char} :
    stripStart mark s = some rest ↔ s = mark ++ rest := by
  unfold stripStart
  split
  next h =>
    obtain ⟨t, rfl⟩ := List.isPrefixOf_iff_prefix.1 h
    simp
  next h =>
    constructor
    · simp
    · rintro rfl
      exact absurd (List.isPrefixOf_iff_prefix.2 (List.prefix_append mark rest)) h

/-- The text after its first `n` octets of UTF-8, where that is a boundary between characters. -/
def dropOctets : Nat → List Char → Option (List Char)
  | 0, s => some s
  | _ + 1, [] => none
  | n + 1, c :: s => if c.utf8Size ≤ n + 1 then dropOctets (n + 1 - c.utf8Size) s else none
termination_by _ s => s.length

/-! ## Lines -/

def dropReturn (s : List Char) : List Char :=
  if s.getLast? = some '\r' then s.dropLast else s

/-- The lines of the text. A newline ends a line, together with a carriage return before it; what
follows the last newline is a line if it is not empty. -/
def lines (s : List Char) : List (List Char) :=
  let cut := pieces '\n' s
  cut.dropLast.map dropReturn ++ (cut.getLast?.toList.filter (· ≠ []))

/-- Equality of text up to the case of ASCII letters. -/
def eqCaseless (s t : List Char) : Bool :=
  s.map Char.toLower == t.map Char.toLower

end SearchPath.Text
