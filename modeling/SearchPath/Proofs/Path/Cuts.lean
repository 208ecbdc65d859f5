import Mathlib.Data.Finset.Insert
import SearchPath.Path.List
import SearchPath.Proofs.Text.Pieces

/-!
# Where a list of paths is cut

1. `Free` says of a place in a list, by the quotes and brackets before it, that the list may be cut
   there. It follows the reading of the list character by character (`freeFrom_quote_iff`,
   `freeFrom_cons_iff`).
2. `cutAt` cuts a text at given places. What the reader of a list does with one character is a cut
   more or none (`CutsFrom.quote`, `CutsFrom.cut`, `CutsFrom.keep`), so what it reads to the end is
   cut at some places (`exists_cutsFrom`).
3. Main result (`exists_isCutAt`): a list without its quotes is cut at delimiters where it may be,
   and nothing else gets lost.
-/

namespace SearchPath.Path

open SearchPath.Text

variable {delimiter c : Char} {text rest : List Char} {st : Cursor} {i : Nat} {cuts : Finset Nat}

/-! ## Quotes and brackets -/

/-- The text without its quotes. -/
def unquoted (text : List Char) : List Char :=
  text.filter (· ≠ '"')

@[simp] theorem unquoted_quote (text : List Char) : unquoted ('"' :: text) = unquoted text := rfl

theorem unquoted_cons (h : c ≠ '"') (text : List Char) :
    unquoted (c :: text) = c :: unquoted text :=
  List.filter_cons_of_pos (by simpa using h)

/-- A quote is open behind the text. -/
def QuoteOpen (text : List Char) : Prop :=
  text.count '"' % 2 = 1

/-- The first piece and every second one after it. -/
def alternate : List (List Char) → List Char
  | [] => []
  | [p] => p
  | p :: _ :: ps => p ++ alternate ps

/-- What stands outside of quotes. -/
def outside (text : List Char) : List Char :=
  alternate (pieces '"' text)

/-- What stands between quotes. -/
def inside (text : List Char) : List Char :=
  alternate (pieces '"' text).tail

/-- The open brackets after one more character; none are open before the first. -/
def countBracket (depth : Nat) (c : Char) : Nat :=
  if c = '[' then depth + 1 else if c = ']' then depth - 1 else depth

/-- A list may be cut behind the text: no quote is open, nor any bracket outside of quotes. -/
def Free (text : List Char) : Prop :=
  ¬QuoteOpen text ∧ (outside text).foldl countBracket 0 = 0

/-! ## Reading on -/

theorem outside_quote (text : List Char) : outside ('"' :: text) = inside text := by
  obtain ⟨p, ps, hp⟩ := pieces_eq_cons '"' text
  rw [outside, inside, pieces, if_pos rfl, hp]
  rfl

theorem inside_quote (text : List Char) : inside ('"' :: text) = outside text := by
  rw [inside, pieces, if_pos rfl]
  rfl

theorem outside_cons (h : c ≠ '"') (text : List Char) :
    outside (c :: text) = c :: outside text := by
  obtain ⟨p, ps, hp⟩ := pieces_eq_cons '"' text
  rw [outside, outside, pieces, if_neg h, hp]
  cases ps <;> rfl

theorem inside_cons (h : c ≠ '"') (text : List Char) : inside (c :: text) = inside text := by
  obtain ⟨p, ps, hp⟩ := pieces_eq_cons '"' text
  rw [inside, inside, pieces, if_neg h, hp]
  rfl

theorem quoteOpen_quote_iff : QuoteOpen ('"' :: text) ↔ ¬QuoteOpen text := by
  unfold QuoteOpen
  rw [List.count_cons_self]
  omega

theorem quoteOpen_cons_iff (h : c ≠ '"') : QuoteOpen (c :: text) ↔ QuoteOpen text := by
  unfold QuoteOpen
  rw [List.count_cons_of_ne h]

/-- A list may be cut behind the text, read from where the cursor stands. -/
def FreeFrom (st : Cursor) (text : List Char) : Prop :=
  (st.quoted = true ↔ QuoteOpen text) ∧
    (if st.quoted then inside text else outside text).foldl countBracket st.depth = 0

theorem freeFrom_start_iff : FreeFrom ⟨[], false, 0⟩ text ↔ Free text := by
  simp [FreeFrom, Free]

theorem freeFrom_nil_iff : FreeFrom st [] ↔ st.quoted = false ∧ st.depth = 0 := by
  unfold FreeFrom QuoteOpen
  cases st.quoted <;> simp [inside, outside, alternate]

theorem freeFrom_quote_iff :
    FreeFrom st ('"' :: text) ↔ FreeFrom { st with quoted := !st.quoted } text := by
  unfold FreeFrom
  dsimp only
  rw [quoteOpen_quote_iff, inside_quote, outside_quote]
  cases st.quoted <;> simp

theorem depthAfter_eq (st : Cursor) (c : Char) :
    st.depthAfter c = if st.quoted then st.depth else countBracket st.depth c := rfl

theorem freeFrom_cons_iff (h : c ≠ '"') (current : List Char) :
    FreeFrom st (c :: text) ↔ FreeFrom ⟨current, st.quoted, st.depthAfter c⟩ text := by
  unfold FreeFrom
  dsimp only
  rw [quoteOpen_cons_iff h, inside_cons h, outside_cons h, depthAfter_eq]
  cases st.quoted <;> simp

/-! ## Cuts -/

/-- The parts of the text, whose first character is at place `i`, when it is cut at these places;
the characters there are left out. -/
def cutAt (cuts : Finset Nat) : Nat → List Char → List (List Char)
  | _, [] => [[]]
  | i, c :: text =>
    if i ∈ cuts then [] :: cutAt cuts (i + 1) text
    else (cutAt cuts (i + 1) text).modifyHead (c :: ·)

/-- A cut before the text makes no difference to it. -/
theorem cutAt_insert {k : Nat} (h : i < k) (text : List Char) :
    cutAt (insert i cuts) k text = cutAt cuts k text := by
  induction text generalizing k with
  | nil => rfl
  | cons c text ih =>
    have hk : k ∈ insert i cuts ↔ k ∈ cuts := by
      rw [Finset.mem_insert]
      constructor
      · rintro (rfl | hm)
        · exact absurd h (lt_irrefl k)
        · exact hm
      · exact .inr
    simp only [cutAt, hk, ih (Nat.lt_succ_of_lt h)]

/-- What is read from where the cursor stands, at place `i` of the list without quotes, is cut at
these places. -/
structure CutsFrom (delimiter : Char) (st : Cursor) (i : Nat) (rest : List Char)
    (cuts : Finset Nat) : Prop where
  allowed : ∀ j ∈ cuts, ∃ before after, rest = before ++ delimiter :: after ∧
    i + (unquoted before).length = j ∧ FreeFrom st before
  complete : delimiter ≠ ':' → ∀ before after, rest = before ++ delimiter :: after →
    FreeFrom st before → i + (unquoted before).length ∈ cuts
  cutList_eq : cutList delimiter st rest =
    (cutAt cuts i (unquoted rest)).modifyHead (st.current ++ ·)

theorem cutsFrom_nil (delimiter : Char) (st : Cursor) (i : Nat) :
    CutsFrom delimiter st i [] ∅ where
  allowed := by simp
  complete := by simp
  cutList_eq := by simp [cutList, cutAt, unquoted]

/-- The delimiter is none of the marks of a list. -/
def IsPlain (delimiter : Char) : Prop :=
  delimiter ≠ '"' ∧ delimiter ≠ '[' ∧ delimiter ≠ ']'

instance (delimiter : Char) : Decidable (IsPlain delimiter) :=
  inferInstanceAs (Decidable (_ ∧ _ ∧ _))

theorem IsPlain.depthAfter (hd : IsPlain delimiter) (st : Cursor) :
    st.depthAfter delimiter = st.depth := by
  simp [depthAfter_eq, countBracket, hd.2.1, hd.2.2]

/-- The list is cut only at delimiters, and only where it may be. -/
theorem IsPlain.of_cuts (hd : IsPlain delimiter) (h : st.cuts delimiter c = true) :
    c = delimiter ∧ FreeFrom st [] := by
  simp only [Cursor.cuts, Bool.and_eq_true, decide_eq_true_eq, Bool.not_eq_true', beq_iff_eq] at h
  obtain ⟨⟨⟨rfl, hquoted⟩, hdepth⟩, -⟩ := h
  rw [hd.depthAfter] at hdepth
  exact ⟨rfl, freeFrom_nil_iff.2 ⟨hquoted, hdepth⟩⟩

/-- A delimiter that is no colon cuts wherever the list may be cut. -/
theorem IsPlain.cuts_of_free (hd : IsPlain delimiter) (hcolon : delimiter ≠ ':')
    (h : FreeFrom st []) : st.cuts delimiter delimiter = true := by
  obtain ⟨hquoted, hdepth⟩ := freeFrom_nil_iff.1 h
  simp [Cursor.cuts, hd.depthAfter, hquoted, hdepth, hcolon]

/-- A quote opens or closes, and is left out. -/
theorem CutsFrom.quote (hd : IsPlain delimiter)
    (h : CutsFrom delimiter { st with quoted := !st.quoted } i rest cuts) :
    CutsFrom delimiter st i ('"' :: rest) cuts where
  allowed j hj := by
    obtain ⟨before, after, rfl, rfl, hfree⟩ := h.allowed j hj
    exact ⟨'"' :: before, after, rfl, rfl, freeFrom_quote_iff.2 hfree⟩
  complete hcolon before after he hfree := by
    cases before with
    | nil => exact absurd (List.cons.inj he).1.symm hd.1
    | cons d before =>
      obtain ⟨rfl, rfl⟩ := List.cons.inj he
      exact h.complete hcolon before after rfl (freeFrom_quote_iff.1 hfree)
  cutList_eq := h.cutList_eq

/-- The cuts behind a character that is no quote are as allowed when counted from it. -/
theorem CutsFrom.allowed_cons {current : List Char} (hc : c ≠ '"')
    (h : CutsFrom delimiter ⟨current, st.quoted, st.depthAfter c⟩ (i + 1) rest cuts) :
    ∀ j ∈ cuts, i < j ∧ ∃ before after, c :: rest = before ++ delimiter :: after ∧
      i + (unquoted before).length = j ∧ FreeFrom st before := by
  intro j hj
  obtain ⟨before, after, rfl, rfl, hfree⟩ := h.allowed j hj
  refine ⟨by omega, c :: before, after, rfl, ?_, (freeFrom_cons_iff hc current).2 hfree⟩
  rw [unquoted_cons hc, List.length_cons]
  omega

theorem CutsFrom.complete_cons {current before after : List Char} (hc : c ≠ '"')
    (h : CutsFrom delimiter ⟨current, st.quoted, st.depthAfter c⟩ (i + 1) rest cuts)
    (hcolon : delimiter ≠ ':') (he : rest = before ++ delimiter :: after)
    (hfree : FreeFrom st (c :: before)) : i + (unquoted (c :: before)).length ∈ cuts := by
  have hm := h.complete hcolon before after he ((freeFrom_cons_iff hc current).1 hfree)
  rw [unquoted_cons hc, List.length_cons]
  rwa [Nat.add_assoc, Nat.add_comm 1] at hm

/-- The list is cut at this character. -/
theorem CutsFrom.cut (hd : IsPlain delimiter) (hc : c ≠ '"') (hcut : st.cuts delimiter c = true)
    (h : CutsFrom delimiter ⟨[], st.quoted, st.depthAfter c⟩ (i + 1) rest cuts) :
    CutsFrom delimiter st i (c :: rest) (insert i cuts) where
  allowed j hj := by
    rcases Finset.mem_insert.1 hj with rfl | hj
    · obtain ⟨rfl, hfree⟩ := hd.of_cuts hcut
      exact ⟨[], rest, rfl, rfl, hfree⟩
    · exact (h.allowed_cons hc j hj).2
  complete hcolon before after he hfree := by
    cases before with
    | nil => exact Finset.mem_insert_self _ _
    | cons d before =>
      rw [List.cons_append, List.cons.injEq] at he
      obtain ⟨rfl, he⟩ := he
      exact Finset.mem_insert_of_mem (h.complete_cons hc hcolon he hfree)
  cutList_eq := by
    rw [cutList, if_neg hc, if_pos hcut, h.cutList_eq, unquoted_cons hc, cutAt,
      if_pos (Finset.mem_insert_self _ _), cutAt_insert (Nat.lt_succ_self i)]
    cases cutAt cuts (i + 1) (unquoted rest) <;> simp

/-- The list is not cut at this character. -/
theorem CutsFrom.keep (hd : IsPlain delimiter) (hc : c ≠ '"') (hcut : st.cuts delimiter c = false)
    (h : CutsFrom delimiter ⟨st.current ++ [c], st.quoted, st.depthAfter c⟩ (i + 1) rest cuts) :
    CutsFrom delimiter st i (c :: rest) cuts where
  allowed j hj := (h.allowed_cons hc j hj).2
  complete hcolon before after he hfree := by
    cases before with
    | nil =>
      obtain ⟨rfl, rfl⟩ := List.cons.inj he
      rw [hd.cuts_of_free hcolon hfree] at hcut
      cases hcut
    | cons d before =>
      rw [List.cons_append, List.cons.injEq] at he
      obtain ⟨rfl, he⟩ := he
      exact h.complete_cons hc hcolon he hfree
  cutList_eq := by
    -- the cuts of what follows lie behind this character
    have hi : i ∉ cuts := fun hm => absurd (h.allowed_cons hc i hm).1 (lt_irrefl i)
    rw [cutList, if_neg hc, hcut, if_neg Bool.false_ne_true, h.cutList_eq, unquoted_cons hc, cutAt,
      if_neg hi]
    cases cutAt cuts (i + 1) (unquoted rest) <;> simp

/-- **Reading to the end.** What is read of a list is cut at some places. -/
theorem exists_cutsFrom (hd : IsPlain delimiter) (st : Cursor) (i : Nat) (rest : List Char) :
    ∃ cuts, CutsFrom delimiter st i rest cuts := by
  -- the cursor holds what is pending, so the induction is over what has not been read yet
  induction rest generalizing st i with
  | nil => exact ⟨∅, cutsFrom_nil delimiter st i⟩
  | cons c rest ih =>
    by_cases hc : c = '"'
    · subst hc
      obtain ⟨cuts, h⟩ := ih { st with quoted := !st.quoted } i
      exact ⟨cuts, h.quote hd⟩
    cases hcut : st.cuts delimiter c with
    | true =>
      obtain ⟨cuts, h⟩ := ih ⟨[], st.quoted, st.depthAfter c⟩ (i + 1)
      exact ⟨insert i cuts, h.cut hd hc hcut⟩
    | false =>
      obtain ⟨cuts, h⟩ := ih ⟨st.current ++ [c], st.quoted, st.depthAfter c⟩ (i + 1)
      exact ⟨cuts, h.keep hd hc hcut⟩

/-! ## Whole lists -/

theorem cutList_ne_nil (delimiter : Char) (st : Cursor) (list : List Char) :
    cutList delimiter st list ≠ [] := by
  induction list generalizing st with
  | nil => exact List.cons_ne_nil _ _
  | cons c list ih =>
    unfold cutList
    split_ifs
    · exact ih _
    · exact List.cons_ne_nil _ _
    · exact ih _

/-- The parts of a list with the delimiter between them are the list without its quotes. -/
theorem join_cutList (hd : IsPlain delimiter) (st : Cursor) (list : List Char) :
    join delimiter (cutList delimiter st list) = st.current ++ unquoted list := by
  induction list generalizing st with
  | nil => exact (List.append_nil _).symm
  | cons c list ih =>
    unfold cutList
    split_ifs with hc hcut
    · rw [ih, hc, unquoted_quote]
    · obtain ⟨rfl, -⟩ := hd.of_cuts hcut
      rw [join_cons_ne_nil _ _ (cutList_ne_nil _ _ _), ih, unquoted_cons hc, List.nil_append]
    · rw [ih, unquoted_cons hc, List.append_assoc, List.singleton_append]

theorem not_mem_unquoted (text : List Char) : '"' ∉ unquoted text := by
  simp [unquoted]

/-- A part of a list holds no quotes. -/
theorem not_mem_of_mem_cutList (hd : IsPlain delimiter) {list part : List Char}
    (h : part ∈ cutList delimiter ⟨[], false, 0⟩ list) : '"' ∉ part := by
  intro hq
  have hmem : '"' ∈ join delimiter (cutList delimiter ⟨[], false, 0⟩ list) := mem_join_of_mem h hq
  rw [join_cutList hd, List.nil_append] at hmem
  exact not_mem_unquoted list hmem

/-- What comes out is neither empty nor blank at an end, and holds no quotes. -/
theorem tidy_of_mem_splitList (hd : IsPlain delimiter) {list piece : String}
    (h : piece ∈ splitList delimiter list) :
    piece ≠ "" ∧ trim piece.toList = piece.toList ∧ '"' ∉ piece.toList := by
  unfold splitList at h
  obtain ⟨trimmed, hm, rfl⟩ := List.mem_map.1 h
  obtain ⟨hm, hne⟩ := List.mem_filter.1 hm
  obtain ⟨part, hpart, rfl⟩ := List.mem_map.1 hm
  rw [String.toList_ofList]
  refine ⟨?_, trim_trim part, ?_⟩
  · simpa using hne
  · intro hq
    exact not_mem_of_mem_cutList hd hpart ((trim_isInfix part).subset hq)

/-- The list is cut at these places of its text without quotes. -/
structure IsCutAt (delimiter : Char) (list : String) (cuts : Finset Nat) : Prop where
  /-- A cut is a delimiter before which no quote is open, and outside of quotes no bracket. -/
  allowed : ∀ i ∈ cuts, ∃ before after, list.toList = before ++ delimiter :: after ∧
    (unquoted before).length = i ∧ Free before
  /-- Every such delimiter is a cut, unless it is a colon. -/
  complete : delimiter ≠ ':' → ∀ before after, list.toList = before ++ delimiter :: after →
    Free before → (unquoted before).length ∈ cuts
  /-- The parts are trimmed, and the empty ones dropped. -/
  splitList_eq : splitList delimiter list =
    (((cutAt cuts 0 (unquoted list.toList)).map trim).filter (· ≠ [])).map String.ofList
  /-- The parts hold all of the text but the delimiters that are cut at. -/
  join_eq : join delimiter (cutAt cuts 0 (unquoted list.toList)) = unquoted list.toList
  /-- A piece is neither empty nor blank at an end, and holds no quotes. -/
  tidy : ∀ piece ∈ splitList delimiter list,
    piece ≠ "" ∧ trim piece.toList = piece.toList ∧ '"' ∉ piece.toList

/-- **Splitting loses nothing.** Whatever its quotes and brackets, a list is its pieces and what is
allowed between them: delimiters at which it may be cut, the blanks around them, and quotes. -/
theorem exists_isCutAt (list : String) (hd : IsPlain delimiter) :
    ∃ cuts, IsCutAt delimiter list cuts := by
  obtain ⟨cuts, h⟩ := exists_cutsFrom hd ⟨[], false, 0⟩ 0 list.toList
  have hparts : cutList delimiter ⟨[], false, 0⟩ list.toList =
      cutAt cuts 0 (unquoted list.toList) := by
    rw [h.cutList_eq]
    cases cutAt cuts 0 (unquoted list.toList) <;> simp
  refine ⟨cuts, ?_, ?_, ?_, ?_, fun _ => tidy_of_mem_splitList hd⟩
  · intro i hi
    obtain ⟨before, after, he, rfl, hfree⟩ := h.allowed i hi
    exact ⟨before, after, he, (Nat.zero_add _).symm, freeFrom_start_iff.1 hfree⟩
  · intro hcolon before after he hfree
    have hm := h.complete hcolon before after he (freeFrom_start_iff.2 hfree)
    rwa [Nat.zero_add] at hm
  · rw [← hparts]
    rfl
  · rw [← hparts, join_cutList hd]
    rfl

/-- A closing bracket that none opens, a quoted delimiter and a bracket that is never closed. -/
theorem exists_isCutAt_unbalanced :
    IsPlain ';' ∧ splitList ';' "a]; \"b;c\" ;[d;e" = ["a]", "b;c", "[d;e"] ∧
      ∃ cuts, IsCutAt ';' "a]; \"b;c\" ;[d;e" cuts :=
  ⟨by decide, by decide, exists_isCutAt _ (by decide)⟩

end SearchPath.Path
