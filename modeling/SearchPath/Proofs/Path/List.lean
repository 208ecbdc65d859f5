import Mathlib.Data.List.Forall2
import Mathlib.Tactic.Tauto
import SearchPath.Path.List
import SearchPath.Proofs.Text.Letter
import SearchPath.Proofs.Text.Pieces

/-!
# Lists of paths written and cut again

1. `IsChain` is a chain of protected schemes; it has no blanks, so nothing is trimmed before what
   follows it (`IsChain.trim_append`).
2. `Reads` is reading without a cut: between quotes nothing cuts (`reads_quoted`), outside of them
   and of brackets only a colon does that is not kept (`reads_unmarked`).
3. `Spelled` says how a piece can be written. It is read to its end without a cut
   (`Spelled.reads`), and the colon behind it is not kept (`Spelled.not_keepsColon`).
4. Main result (`splitList_of_spelled`): pieces written so, with colons between them, are what the
   list is cut into.
-/

namespace SearchPath.Path

open SearchPath.Text

variable {s t piece schemes : List Char}

/-! ## Chains of schemes -/

/-- The text is one or more protected schemes with colons between them. -/
def IsChain (s : List Char) : Prop :=
  ∀ p ∈ pieces ':' s, isKeptScheme p = true

instance (s : List Char) : Decidable (IsChain s) :=
  inferInstanceAs (Decidable (∀ p ∈ pieces ':' s, isKeptScheme p = true))

theorem IsChain.ne_nil (h : IsChain s) : s ≠ [] := by
  rintro rfl
  exact absurd (h [] List.mem_cons_self) (by decide)

theorem isSchemes_iff : isSchemes s = true ↔ IsChain (trim s) := by
  unfold isSchemes
  simp only [Bool.and_eq_true, decide_eq_true_eq, List.all_eq_true]
  exact ⟨fun h => h.2, fun h => ⟨h.ne_nil, h⟩⟩

theorem isChain_append : IsChain (s ++ ':' :: t) ↔ IsChain s ∧ IsChain t := by
  unfold IsChain
  rw [pieces_append, List.forall_mem_append]

theorem isAlpha_of_isKeptScheme {c : Char} (h : isKeptScheme s = true) (hc : c ∈ s) :
    c.isAlpha = true := by
  obtain ⟨scheme, hscheme, he⟩ := List.any_eq_true.1 h
  have hmap : scheme.toList.map Char.toLower = s.map Char.toLower := eq_of_beq he
  have hall : (keptSchemes.all fun scheme =>
      (scheme.toList.map Char.toLower).all Char.isAlpha) = true := by decide
  have hletters := List.all_eq_true.1 (List.all_eq_true.1 hall scheme hscheme)
  refine isAlpha_of_isAlpha_toLower (hletters c.toLower ?_)
  rw [hmap]
  exact List.mem_map_of_mem hc

theorem IsChain.mem {c : Char} (h : IsChain s) (hc : c ∈ s) : c = ':' ∨ c.isAlpha = true := by
  rw [← join_pieces ':' s] at hc
  refine (mem_join hc).imp_right ?_
  rintro ⟨p, hp, hcp⟩
  exact isAlpha_of_isKeptScheme (h p hp) hcp

theorem IsChain.not_mem {c : Char} (h : IsChain s) (hcolon : c ≠ ':') (hc : c.isAlpha = false) :
    c ∉ s := by
  intro hm
  rcases h.mem hm with he | he
  · exact hcolon he
  · exact absurd (hc.symm.trans he) Bool.false_ne_true

/-- Behind a chain only the end is trimmed. -/
theorem IsChain.trim_append (h : IsChain s) (t : List Char) :
    trim (s ++ t) = s ++ trimEnd isBlank t := by
  have hblank : ∀ c ∈ s, isBlank c = false := by
    intro c hc
    rcases h.mem hc with rfl | hc
    · decide
    · exact isBlank_of_isAlpha hc
  rw [← trimEnd_append hblank]
  obtain ⟨c, r, rfl⟩ := List.exists_cons_of_ne_nil h.ne_nil
  have hc := hblank c List.mem_cons_self
  rw [List.cons_append, trim_cons_of_neg hc, trimEnd_cons_of_neg hc]

theorem IsChain.trim (h : IsChain s) : trim s = s := by
  have := h.trim_append []
  rwa [List.append_nil, trimEnd_nil, List.append_nil] at this

/-! ## Colons that are kept -/

/-- A colon behind the text belongs to a URL. -/
def KeepsColon (s : List Char) : Prop :=
  isSchemes s = true ∨ isInAuthority s = true

theorem isInAuthority_iff : isInAuthority s = true ↔
    ∃ before after, breakAt [':', '/', '/'] (trim s) = some (before, after) ∧
      isSchemes before = true ∧ '/' ∉ after := by
  unfold isInAuthority
  cases h : breakAt [':', '/', '/'] (trim s) with
  | none => simp
  | some r =>
    obtain ⟨before, after⟩ := r
    simp only [Option.some.injEq, Prod.mk.injEq, Bool.and_eq_true, Bool.not_eq_true']
    constructor
    · exact fun ⟨hs, ha⟩ => ⟨before, after, ⟨rfl, rfl⟩, hs, by simpa using ha⟩
    · rintro ⟨_, _, ⟨rfl, rfl⟩, hs, ha⟩
      exact ⟨hs, by simpa using ha⟩

theorem IsChain.keepsColon (h : IsChain s) : KeepsColon s :=
  .inl (isSchemes_iff.2 (by rwa [h.trim]))

theorem IsChain.breakAt (h : IsChain s) (t : List Char) :
    breakAt [':', '/', '/'] (s ++ ':' :: '/' :: '/' :: t) = some (s, t) :=
  breakAt_append (by decide) (h.not_mem (by decide) (by decide)) ['/'] t

/-- Behind a chain and two slashes a colon is kept until the next slash. -/
theorem IsChain.keepsColon_authority (h : IsChain s) (ht : '/' ∉ t) :
    KeepsColon (s ++ ':' :: '/' :: '/' :: t) := by
  have hchain : isSchemes s = true := isSchemes_iff.2 (by rwa [h.trim])
  refine .inr (isInAuthority_iff.2 ⟨s, trimEnd isBlank t, ?_, hchain, ?_⟩)
  · rw [h.trim_append, trimEnd_cons_of_neg (by decide), trimEnd_cons_of_neg (by decide),
      trimEnd_cons_of_neg (by decide), h.breakAt]
  · exact fun hm => ht ((trimEnd_isPrefix isBlank t).subset hm)

/-! ## Reading without a cut -/

/-- Reading the text leads from one cursor to another without a cut. -/
inductive Reads : Cursor → List Char → Cursor → Prop
  | nil (st : Cursor) : Reads st [] st
  | quote {st st' : Cursor} {s : List Char} (h : Reads { st with quoted := !st.quoted } s st') :
      Reads st ('"' :: s) st'
  | keep {st st' : Cursor} {c : Char} {s : List Char} (hquote : c ≠ '"')
      (hcut : st.cuts listDelimiter c = false)
      (h : Reads ⟨st.current ++ [c], st.quoted, st.depthAfter c⟩ s st') : Reads st (c :: s) st'

theorem Reads.cutList_append {st st' : Cursor} (h : Reads st s st') (rest : List Char) :
    cutList listDelimiter st (s ++ rest) = cutList listDelimiter st' rest := by
  induction h with
  | nil => rfl
  | quote _ ih =>
    rw [List.cons_append, cutList, if_pos rfl]
    exact ih
  | keep hquote hcut _ ih =>
    rw [List.cons_append, cutList, if_neg hquote, if_neg (by rw [hcut]; exact Bool.false_ne_true)]
    exact ih

theorem Reads.append {a b c : Cursor} (h : Reads a s b) (h' : Reads b t c) :
    Reads a (s ++ t) c := by
  induction h with
  | nil => exact h'
  | quote _ ih => exact .quote (ih h')
  | keep hquote hcut _ ih => exact .keep hquote hcut (ih h')

/-- Between quotes nothing cuts. -/
theorem reads_quoted (h : '"' ∉ s) (current : List Char) (depth : Nat) :
    Reads ⟨current, true, depth⟩ s ⟨current ++ s, true, depth⟩ := by
  induction s generalizing current with
  | nil =>
    rw [List.append_nil]
    exact .nil _
  | cons c s ih =>
    rw [List.mem_cons, not_or] at h
    refine .keep (Ne.symm h.1) (by simp [Cursor.cuts]) ?_
    have := ih h.2 (current ++ [c])
    rwa [List.append_assoc] at this

/-- The text holds neither quotes nor brackets. -/
def Unmarked (s : List Char) : Prop :=
  '"' ∉ s ∧ '[' ∉ s ∧ ']' ∉ s

instance (s : List Char) : Decidable (Unmarked s) :=
  inferInstanceAs (Decidable (_ ∧ _ ∧ _))

theorem unmarked_cons {c : Char} :
    Unmarked (c :: s) ↔ (c ≠ '"' ∧ c ≠ '[' ∧ c ≠ ']') ∧ Unmarked s := by
  unfold Unmarked
  simp only [List.mem_cons, not_or, eq_comm (b := c)]
  tauto

theorem IsChain.unmarked (h : IsChain s) : Unmarked s :=
  ⟨h.not_mem (by decide) (by decide), h.not_mem (by decide) (by decide),
    h.not_mem (by decide) (by decide)⟩

/-- Without quotes and brackets nothing cuts if every colon is kept. -/
theorem reads_unmarked (h : Unmarked s) (current : List Char)
    (hk : ∀ before after, s = before ++ ':' :: after → KeepsColon (current ++ before)) :
    Reads ⟨current, false, 0⟩ s ⟨current ++ s, false, 0⟩ := by
  induction s generalizing current with
  | nil =>
    rw [List.append_nil]
    exact .nil _
  | cons c s ih =>
    obtain ⟨⟨hquote, hopen, hclose⟩, hs⟩ := unmarked_cons.1 h
    have hdepth : (Cursor.mk current false 0).depthAfter c = 0 := by
      simp [Cursor.depthAfter, hopen, hclose]
    refine .keep hquote ?_ ?_
    · by_cases hc : c = ':'
      · subst hc
        have hkeep : KeepsColon current := by simpa using hk [] s rfl
        rcases hkeep with hkeep | hkeep <;> simp [Cursor.cuts, hkeep, listDelimiter]
      · simp [Cursor.cuts, hc, listDelimiter]
    · rw [hdepth]
      have := ih hs (current ++ [c]) fun before after he => by
        rw [List.append_assoc]
        exact hk (c :: before) after (congrArg (c :: ·) he)
      rwa [List.append_assoc] at this

theorem reads_of_no_colon (h : Unmarked s) (hc : ':' ∉ s) (current : List Char) :
    Reads ⟨current, false, 0⟩ s ⟨current ++ s, false, 0⟩ :=
  reads_unmarked h current fun before _ he =>
    absurd (he ▸ List.mem_append_right before List.mem_cons_self) hc

/-- A chain is read with the colon behind it. -/
theorem IsChain.reads (h : IsChain s) :
    Reads ⟨[], false, 0⟩ (s ++ [':']) ⟨s ++ [':'], false, 0⟩ := by
  have hchain : Reads ⟨[], false, 0⟩ s ⟨s, false, 0⟩ :=
    reads_unmarked h.unmarked [] fun _ _ he =>
      (isChain_append.1 (he ▸ h)).1.keepsColon
  refine hchain.append (reads_unmarked (by decide) s fun before after he => ?_)
  obtain rfl : before = [] := by
    cases before with
    | nil => rfl
    | cons c before => simp at he
  rw [List.append_nil]
  exact h.keepsColon

/-! ## Spelled pieces -/

/-- How a piece can be written in a list with colons between the pieces: as it stands if its colons
are those of a URL, else between quotes. -/
inductive Spelled : List Char → List Char → Prop
  /-- A text without colons that is no scheme. -/
  | plain {s : List Char} (hne : s ≠ []) (htrim : trim s = s) (hmarks : Unmarked s)
      (hcolon : ':' ∉ s) (hscheme : isKeptScheme s = false) : Spelled s s
  /-- Schemes and a path. -/
  | located {schemes rest : List Char} (hchain : IsChain schemes) (hmarks : Unmarked rest)
      (hcolon : ':' ∉ rest) (hslash : rest.head? ≠ some '/')
      (htrim : trim (schemes ++ ':' :: '/' :: rest) = schemes ++ ':' :: '/' :: rest) :
      Spelled (schemes ++ ':' :: '/' :: rest) (schemes ++ ':' :: '/' :: rest)
  /-- Schemes, a host with its port, and a path. -/
  | hosted {schemes authority rest : List Char} (hchain : IsChain schemes)
      (hauthority : Unmarked authority) (hends : '/' ∉ authority) (hmarks : Unmarked rest)
      (hcolon : ':' ∉ rest)
      (htrim : trim (schemes ++ ':' :: '/' :: '/' :: (authority ++ '/' :: rest)) =
        schemes ++ ':' :: '/' :: '/' :: (authority ++ '/' :: rest)) :
      Spelled (schemes ++ ':' :: '/' :: '/' :: (authority ++ '/' :: rest))
        (schemes ++ ':' :: '/' :: '/' :: (authority ++ '/' :: rest))
  /-- Any other text, unless the colon behind its closing quote would be taken for its own. -/
  | quoted {s : List Char} (hne : s ≠ []) (htrim : trim s = s) (hquote : '"' ∉ s)
      (hchain : ¬IsChain s)
      (hopen : ∀ before after, breakAt [':', '/', '/'] s = some (before, after) →
        IsChain (trim before) → '/' ∈ after) : Spelled s ('"' :: (s ++ ['"']))

theorem Spelled.ne_nil (h : Spelled piece s) : piece ≠ [] := by
  cases h with
  | plain hne => exact hne
  | located => simp
  | hosted => simp
  | quoted hne => exact hne

theorem Spelled.trim (h : Spelled piece s) : trim piece = piece := by
  cases h with
  | plain _ htrim => exact htrim
  | located _ _ _ _ htrim => exact htrim
  | hosted _ _ _ _ _ htrim => exact htrim
  | quoted _ htrim => exact htrim

/-- **A piece is read to its end.** -/
theorem Spelled.reads (h : Spelled piece s) : Reads ⟨[], false, 0⟩ s ⟨piece, false, 0⟩ := by
  cases h with
  | plain _ _ hmarks hcolon => exact reads_of_no_colon hmarks hcolon []
  | @located schemes rest hchain hmarks hcolon =>
    have hrest : Reads ⟨schemes ++ [':'], false, 0⟩ ('/' :: rest) _ :=
      reads_of_no_colon (unmarked_cons.2 ⟨by decide, hmarks⟩)
        (List.not_mem_cons_of_ne_of_not_mem (by decide) hcolon) _
    simpa using hchain.reads.append hrest
  | @hosted schemes authority rest hchain hauthority hends hmarks hcolon =>
    have hslashes : Reads ⟨schemes ++ [':'], false, 0⟩ ['/', '/'] _ :=
      reads_of_no_colon (by decide) (by decide) _
    have hhost : Reads ⟨schemes ++ [':'] ++ ['/', '/'], false, 0⟩ authority _ :=
      reads_unmarked hauthority _ fun before _ he => by
        have hbefore : '/' ∉ before := fun hm => hends (he ▸ List.mem_append_left _ hm)
        simpa using hchain.keepsColon_authority hbefore
    have hrest : Reads ⟨schemes ++ [':'] ++ ['/', '/'] ++ authority, false, 0⟩ ('/' :: rest) _ :=
      reads_of_no_colon (unmarked_cons.2 ⟨by decide, hmarks⟩)
        (List.not_mem_cons_of_ne_of_not_mem (by decide) hcolon) _
    simpa using ((hchain.reads.append hslashes).append hhost).append hrest
  | quoted _ _ hquote =>
    exact .quote ((reads_quoted hquote [] 0).append (.quote (.nil _)))

/-- A chain followed by a slash is no chain. -/
theorem not_isChain_slash (schemes rest : List Char) :
    ¬IsChain (schemes ++ ':' :: '/' :: rest) := fun h =>
  (isChain_append.1 h).2.not_mem (by decide) (by decide) List.mem_cons_self

/-- A path with a single slash in front has no authority. -/
theorem breakAt_located {rest : List Char} (hchain : IsChain schemes) (hcolon : ':' ∉ rest)
    (hslash : rest.head? ≠ some '/') :
    breakAt [':', '/', '/'] (schemes ++ ':' :: '/' :: rest) = none := by
  cases h : breakAt [':', '/', '/'] (schemes ++ ':' :: '/' :: rest) with
  | none => rfl
  | some r =>
    obtain ⟨before, after⟩ := r
    have he := eq_of_breakAt h
    have hnot : '/' ∉ schemes := hchain.not_mem (by decide) (by decide)
    have hsingle : ∀ after', rest ≠ '/' :: after' := fun after' e => hslash (by rw [e]; rfl)
    rw [List.append_assoc, List.append_eq_append_iff] at he
    -- the mark would start behind the colon of the schemes, or in front of it
    rcases he with ⟨more, -, he⟩ | ⟨more, hs, he⟩
    · cases more with
      | nil => simp [hsingle] at he
      | cons c more =>
        simp only [List.cons_append, List.cons.injEq] at he
        have hm : ':' ∈ '/' :: rest := by
          rw [he.2]
          exact List.mem_append_right more List.mem_cons_self
        exact absurd hm (List.not_mem_cons_of_ne_of_not_mem (by decide) hcolon)
    · match more, hs, he with
      | [], _, he => simp [eq_comm, hsingle] at he
      | [_], _, he => simp at he
      | _ :: d :: more, hs, he =>
        simp only [List.cons_append, List.cons.injEq] at he
        obtain ⟨-, rfl, -⟩ := he
        exact absurd (by rw [hs]; simp) hnot

/-- **The colon behind a piece is not its own.** -/
theorem Spelled.not_keepsColon (h : Spelled piece s) : ¬KeepsColon piece := by
  rintro (hk | hk)
  · rw [isSchemes_iff, h.trim] at hk
    cases h with
    | plain _ _ _ hcolon hscheme =>
      have := hk s (by rw [pieces_eq_singleton hcolon]; exact List.mem_cons_self)
      rw [hscheme] at this
      cases this
    | located => exact not_isChain_slash _ _ hk
    | hosted => exact not_isChain_slash _ _ hk
    | quoted _ _ _ hchain => exact hchain hk
  · obtain ⟨before, after, hb, hbefore, hafter⟩ := isInAuthority_iff.1 hk
    rw [h.trim] at hb
    cases h with
    | plain _ _ _ hcolon =>
      rw [breakAt_eq_none List.mem_cons_self hcolon] at hb
      cases hb
    | located hchain _ hcolon hslash =>
      rw [breakAt_located hchain hcolon hslash] at hb
      cases hb
    | hosted hchain =>
      rw [hchain.breakAt] at hb
      cases hb
      exact hafter (List.mem_append_right _ List.mem_cons_self)
    | quoted _ _ _ _ hopen => exact hafter (hopen before after hb (isSchemes_iff.1 hbefore))

/-! ## Lists of spelled pieces -/

/-- Spelled pieces with colons between them are cut into the pieces. -/
theorem cutList_of_spelled {ps ss : List (List Char)} (h : List.Forall₂ Spelled ps ss)
    (hne : ss ≠ []) : cutList listDelimiter ⟨[], false, 0⟩ (join listDelimiter ss) = ps := by
  induction h with
  | nil => exact absurd rfl hne
  | @cons p s ps ss hp hps ih =>
    cases ss with
    | nil =>
      cases hps
      have := hp.reads.cutList_append []
      rwa [List.append_nil] at this
    | cons t ss =>
      have hcut : (Cursor.mk p false 0).cuts listDelimiter listDelimiter = true := by
        have := hp.not_keepsColon
        unfold KeepsColon at this
        simp_all [Cursor.cuts, Cursor.depthAfter, listDelimiter]
      rw [join_cons_ne_nil _ _ (List.cons_ne_nil t ss), hp.reads.cutList_append, cutList,
        if_neg (by decide), if_pos hcut]
      exact congrArg (p :: ·) (ih (List.cons_ne_nil t ss))

/-- **Cutting undoes joining.** However the pieces are spelled, the list with colons between them is
cut into the pieces in their order. -/
theorem splitList_of_spelled {ps ss : List (List Char)} (h : List.Forall₂ Spelled ps ss) :
    splitList listDelimiter (String.ofList (join listDelimiter ss)) = ps.map String.ofList := by
  have htrimmed : (ps.map trim).filter (· ≠ []) = ps := by
    induction h with
    | nil => rfl
    | cons hp _ ih =>
      rw [List.map_cons, hp.trim, List.filter_cons_of_pos (by simpa using hp.ne_nil), ih]
  unfold splitList splitChars
  rw [String.toList_ofList]
  cases h with
  | nil => rfl
  | cons hp hps => rw [cutList_of_spelled (.cons hp hps) (List.cons_ne_nil _ _), htrimmed]

theorem splitList_of_mixed_spellings :
    splitList listDelimiter "a b.jar:jar:File:/x y!/z:http://h:80/q:\"/odd:dir\"" =
      ["a b.jar", "jar:File:/x y!/z", "http://h:80/q", "/odd:dir"] :=
  @splitList_of_spelled
    ["a b.jar".toList, "jar:File:/x y!/z".toList, "http://h:80/q".toList, "/odd:dir".toList]
    ["a b.jar".toList, "jar:File:/x y!/z".toList, "http://h:80/q".toList, "\"/odd:dir\"".toList]
    (.cons (.plain (by decide) (by decide) (by decide) (by decide) (by decide))
      (.cons (@Spelled.located "jar:File".toList "x y!/z".toList (by decide) (by decide)
        (by decide) (by decide) (by decide))
        (.cons (@Spelled.hosted "http".toList "h:80".toList "q".toList (by decide) (by decide)
          (by decide) (by decide) (by decide) (by decide))
          (.cons (@Spelled.quoted "/odd:dir".toList (by decide) (by decide) (by decide)
            (by decide) nofun) .nil))))

/-- The text before the slashes is trimmed once more, so a blank behind a scheme is not seen. -/
theorem splitList_spaced_scheme_ne :
    let piece := "file ://x".toList
    (piece ≠ [] ∧ trim piece = piece ∧ '"' ∉ piece ∧ ¬IsChain piece ∧
      ∀ before after, breakAt [':', '/', '/'] piece = some (before, after) →
        IsChain before → '/' ∈ after) ∧
    Spelled ['b'] ['b'] ∧
    splitList listDelimiter "\"file ://x\":b" ≠ ["file ://x", "b"] := by
  refine ⟨⟨by decide, by decide, by decide, by decide, fun before after hb hchain => ?_⟩,
    .plain (by decide) (by decide) (by decide) (by decide) (by decide), by decide⟩
  cases hb
  exact absurd hchain (by decide)

end SearchPath.Path
