import SearchPath.Proofs.Path.Nested
import SearchPath.Proofs.Path.Normal

/-!
# Paths inside containers

A path inside a container, or inside an archive behind a mark, starts with no slash.

1. `IsEntry` says that a path is written as such a path; these are the paths that `entryChars`
   leaves as they are (`entryChars_eq_self_iff`, `entryPath_eq_self_iff`).
2. As a part behind a mark such a path stands as it is written (`nestedText_of_isEntry`).
3. Such a path is written in tidy segments, behind a drive if it has one (`entryChars_cases`), and
   these are written as such a path unless the first of them is read as a drive
   (`isEntry_join_iff`).
-/

namespace SearchPath.Path

open SearchPath.Text

/-- The path is written as a path inside a container: in normal form, without a slash at its start
and without backslashes. -/
structure IsEntry (path : List Char) : Prop where
  isNormal : IsNormal path
  head_ne_slash : path.head? ≠ some '/'
  no_backslash : '\\' ∉ path

instance (path : List Char) : Decidable (IsEntry path) :=
  decidable_of_iff (IsNormal path ∧ path.head? ≠ some '/' ∧ '\\' ∉ path)
    ⟨fun h => ⟨h.1, h.2.1, h.2.2⟩, fun h => ⟨h.1, h.2, h.3⟩⟩

variable {path : List Char}

theorem dropWhile_slash_eq_self (h : path.head? ≠ some '/') :
    path.dropWhile (· = '/') = path := by
  cases path with
  | nil => rfl
  | cons c path =>
    refine List.dropWhile_cons_of_neg ?_
    rw [decide_eq_true_eq]
    rintro rfl
    exact h rfl

theorem head?_dropWhile_slash (path : List Char) :
    (path.dropWhile (· = '/')).head? ≠ some '/' := by
  intro h
  have := head?_dropWhile_not (p := fun c => decide (c = '/')) h
  exact absurd rfl (of_decide_eq_false this)

theorem Tidy.head?_join_ne_slash {anchored : Bool} {segments : List (List Char)}
    (h : Tidy anchored segments) : (join '/' segments).head? ≠ some '/' := by
  intro he
  obtain ⟨s, hs, hc⟩ := exists_head?_of_join (fun s hs => (h.isSegment s hs).ne_nil) he
  exact (h.isSegment s hs).no_slash (List.mem_of_mem_head? hc)

/-- The normal form of a path starts with a slash only if the path does. -/
theorem head?_normalForm (h : path.head? ≠ some '/') : (normalForm path).head? ≠ some '/' := by
  have hdrive {c : Char} (hc : c.isAlpha = true) (rest : List Char) :
      (Anchor.text (.drive c.toUpper) ++ rest).head? ≠ some '/' := by
    intro he
    have hslash : c.toUpper = '/' := Option.some.inj he
    have hupper := isUpper_toUpper hc
    rw [hslash] at hupper
    cases hupper
  rcases splitAnchor_cases path with ⟨r, rfl, -⟩ | ⟨c, hc, -, he⟩ | ⟨c, r, hc, -, he⟩ | he
  · exact absurd rfl h
  · rw [normalForm, normalize_eq he]
    exact hdrive hc _
  · rw [normalForm, normalize_eq he]
    exact hdrive hc _
  · have hanchor : (normalize path).anchor = none := congrArg Prod.fst he
    have htidy := tidy_normalize path
    rw [normalForm, Normal.text, hanchor]
    dsimp only
    split_ifs
    · decide
    · exact htidy.head?_join_ne_slash

theorem head?_entryChars (path : List Char) : (entryChars path).head? ≠ some '/' := by
  unfold entryChars
  dsimp only
  split_ifs
  · exact (Option.some_ne_none '/').symm
  · exact head?_dropWhile_slash _

theorem not_mem_entryChars (path : List Char) : '\\' ∉ entryChars path := by
  unfold entryChars
  dsimp only
  split_ifs
  · exact List.not_mem_nil
  · exact fun hm =>
      not_mem_normalForm (not_mem_unify path) ((List.dropWhile_sublist _).subset hm)

/-! ## The segments of a path inside -/

theorem isSegment_drive {letter : Char} (h : letter.isAlpha = true) : IsSegment [letter, ':'] where
  ne_nil := List.cons_ne_nil _ _
  ne_here he := by cases he
  no_slash hm := by
    rcases List.mem_cons.1 hm with rfl | hm
    · cases h
    · exact absurd hm (by decide)

theorem Tidy.join_ne_nil {anchored : Bool} {segments : List (List Char)}
    (h : Tidy anchored segments) (hnil : segments ≠ []) : join '/' segments ≠ [] := by
  intro he
  have hpieces := pieces_join hnil fun s hs => (h.isSegment s hs).no_slash
  rw [he] at hpieces
  exact (h.isSegment [] (hpieces ▸ List.mem_cons_self)).ne_nil rfl

theorem Tidy.join_ne_here {anchored : Bool} {segments : List (List Char)}
    (h : Tidy anchored segments) : join '/' segments ≠ here := by
  intro he
  have hnil : segments ≠ [] := by
    rintro rfl
    cases he
  have hpieces := pieces_join hnil fun s hs => (h.isSegment s hs).no_slash
  rw [he] at hpieces
  exact (h.isSegment here (hpieces ▸ List.mem_cons_self)).ne_here rfl

theorem Tidy.dropWhile_join {anchored : Bool} {segments : List (List Char)}
    (h : Tidy anchored segments) : (join '/' segments).dropWhile (· = '/') = join '/' segments :=
  dropWhile_slash_eq_self h.head?_join_ne_slash

theorem upper_of_anchor {a : Anchor} (h : (normalize path).anchor = some a) : a.Upper := by
  have hsplit : splitAnchor path = (some a, (splitAnchor path).2) := Prod.ext h rfl
  exact upper_of_splitAnchor hsplit

/-- A path on a drive is written with the drive. -/
theorem entryChars_of_drive {letter : Char}
    (h : (normalize (unify path)).anchor = some (.drive letter)) :
    entryChars path =
      Anchor.text (.drive letter) ++ join '/' (normalize (unify path)).segments := by
  have hupper : letter.isUpper = true := upper_of_anchor h
  unfold entryChars normalForm Normal.text
  rw [h]
  dsimp only
  rw [dropWhile_slash_eq_self, if_neg]
  · intro he
    cases he
  · intro he
    cases he
    cases hupper

/-- Any other path is written in its segments alone. -/
theorem entryChars_of_no_drive
    (h : ∀ letter, (normalize (unify path)).anchor ≠ some (.drive letter)) :
    entryChars path = join '/' (normalize (unify path)).segments := by
  have htidy := tidy_normalize (unify path)
  rcases hs : (normalize (unify path)).anchor with _ | _ | letter
  all_goals
    unfold entryChars normalForm Normal.text
    rw [hs]
    dsimp only
  · by_cases hnil : (normalize (unify path)).segments = []
    · rw [if_pos hnil, hnil]
      rfl
    · rw [if_neg hnil, htidy.dropWhile_join, if_neg htidy.join_ne_here]
  · have hdrop : (Anchor.slash.text ++ join '/' (normalize (unify path)).segments).dropWhile
        (· = '/') = join '/' (normalize (unify path)).segments := htidy.dropWhile_join
    rw [hdrop, if_neg htidy.join_ne_here]
  · exact absurd hs (h letter)

/-- **How a path inside is written.** In segments between slashes, behind a drive if it has one. -/
theorem entryChars_cases (path : List Char) :
    (∃ segments, Tidy false segments ∧ entryChars path = join '/' segments) ∨
      ∃ letter segments, letter.isUpper = true ∧ Tidy true segments ∧
        entryChars path = Anchor.text (.drive letter) ++ join '/' segments := by
  have htidy := tidy_normalize (unify path)
  by_cases h : ∃ letter, (normalize (unify path)).anchor = some (.drive letter)
  · obtain ⟨letter, h⟩ := h
    rw [h] at htidy
    exact .inr ⟨letter, _, upper_of_anchor h, htidy, entryChars_of_drive h⟩
  · exact .inl ⟨_, htidy.unanchored, entryChars_of_no_drive (not_exists.1 h)⟩

/-- Behind a drive no `..` is left. -/
theorem Tidy.behind_drive {anchored : Bool} {letter : Char} {segments : List (List Char)}
    (h : Tidy anchored ([letter, ':'] :: segments)) : Tidy true segments where
  isSegment s hs := h.isSegment s (List.mem_cons_of_mem _ hs)
  above_first := (List.pairwise_cons.1 h.above_first).2
  no_above _ hm := by
    have hfirst : [letter, ':'] = above := (List.pairwise_cons.1 h.above_first).1 above hm rfl
    cases hfirst

/-- Segments written one after the other are a path inside as it stands, unless the first is read as
a drive: then its letter has to be in upper case, and something has to stand behind it. -/
theorem isEntry_join_iff {anchored : Bool} {segments : List (List Char)} (hnil : segments ≠ [])
    (h : Tidy anchored segments) :
    IsEntry (join '/' segments) ↔
      (∀ s ∈ segments, '\\' ∉ s) ∧
        ∀ letter rest, segments = [letter, ':'] :: rest → letter.isAlpha = true →
          letter.isUpper = true ∧ rest ≠ [] := by
  have hpieces := pieces_join hnil fun s hs => (h.isSegment s hs).no_slash
  constructor
  · intro he
    refine ⟨fun s hs hc => he.no_backslash (mem_join_of_mem hs hc),
      fun letter rest hsegments ha => ?_⟩
    subst hsegments
    by_cases hrest : rest = []
    · subst hrest
      have hform : normalForm [letter, ':'] = [letter, ':'] := he.isNormal.normalForm_eq
      rw [normalForm_bare ha] at hform
      exact absurd (congrArg List.length hform) (by simp)
    · have htext := he.isNormal.anchor (.drive letter.toUpper) (join '/' rest) (by
        rw [join_cons_ne_nil '/' _ hrest]
        exact splitAnchor_drive ha _)
      rw [join_cons_ne_nil '/' _ hrest] at htext
      have hletter : letter = letter.toUpper := (List.cons.inj htext).1
      exact ⟨hletter ▸ isUpper_toUpper ha, hrest⟩
  · rintro ⟨hback, hdrive⟩
    obtain ⟨s, rest, rfl⟩ := List.exists_cons_of_ne_nil hnil
    have hhead := h.head?_join_ne_slash
    refine ⟨?_, hhead, fun hm => ?_⟩
    · rcases splitAnchor_cases (join '/' (s :: rest)) with
        ⟨r, hp, -⟩ | ⟨c, hc, hp, -⟩ | ⟨c, r, hc, hp, -⟩ | hnone
      · rw [hp] at hhead
        exact absurd rfl hhead
      · rw [hp, pieces_eq_singleton (isSegment_drive hc).no_slash] at hpieces
        cases hpieces
        exact absurd rfl (hdrive c [] rfl hc).2
      · have hcut : pieces '/' (c :: ':' :: '/' :: r) = [c, ':'] :: pieces '/' r := by
          rw [show c :: ':' :: '/' :: r = [c, ':'] ++ '/' :: r from rfl, pieces_append,
            pieces_eq_singleton (isSegment_drive hc).no_slash]
          rfl
        rw [hp, hcut] at hpieces
        cases hpieces
        obtain ⟨hupper, hrest⟩ := hdrive c _ rfl hc
        rw [join_cons_ne_nil '/' _ hrest]
        exact isNormal_text (a := .drive c) hupper h.behind_drive
      · refine ⟨fun a r he => ?_, .inr ?_⟩
        · rw [hnone] at he
          cases he
        · rw [hnone]
          dsimp only
          rw [hpieces]
          exact h.unanchored
    · rcases mem_join hm with he | ⟨t, ht, hc⟩
      · exact absurd he (by decide)
      · exact hback t ht hc

/-! ## Paths that stand as they are -/

theorem IsEntry.dropWhile_normalForm (h : IsEntry path) :
    (normalForm path).dropWhile (· = '/') = path := by
  rw [h.isNormal.normalForm_eq, dropWhile_slash_eq_self h.head_ne_slash]

theorem IsEntry.ne_nil (h : IsEntry path) : path ≠ [] :=
  h.isNormal.ne_nil

/-- A part behind a mark stands as it is written where it is written as a path inside. -/
theorem nestedText_of_isEntry (h : IsEntry path) : nestedText path = '!' :: '/' :: path := by
  have hstands := h.dropWhile_normalForm
  rw [h.isNormal.normalForm_eq] at hstands
  unfold nestedText
  dsimp only
  rw [h.isNormal.normalForm_eq, if_neg (not_or.2 ⟨h.ne_nil, h.isNormal.ne_here⟩), hstands]

theorem entryChars_of_isEntry (h : IsEntry path) : entryChars path = path := by
  unfold entryChars
  dsimp only
  rw [unify_eq_self h.no_backslash, h.dropWhile_normalForm, if_neg h.isNormal.ne_here]

theorem isEntry_of_entryChars (h : entryChars path = path) (hne : path ≠ []) : IsEntry path := by
  have hslash : '\\' ∉ path := h ▸ not_mem_entryChars path
  unfold entryChars at h
  dsimp only at h
  split_ifs at h with hhere
  · exact absurd h.symm hne
  · have hhead : path.head? ≠ some '/' := h ▸ head?_dropWhile_slash (normalForm (unify path))
    rw [unify_eq_self hslash, dropWhile_slash_eq_self (head?_normalForm hhead)] at h hhere
    rw [h] at hhere
    exact ⟨isNormal_of_normalForm h hhere, hhead, hslash⟩

/-- **Written as a path inside a container.** These are the paths that `entryChars` leaves as they
are. -/
theorem entryChars_eq_self_iff (hne : path ≠ []) : entryChars path = path ↔ IsEntry path :=
  ⟨fun h => isEntry_of_entryChars h hne, entryChars_of_isEntry⟩

theorem entryPath_eq_self_iff {path : String} (hne : path ≠ "") :
    entryPath path = path ↔ IsEntry path.toList := by
  have hlist : path.toList ≠ [] := by simpa using hne
  rw [← entryChars_eq_self_iff hlist, entryPath, ← String.toList_inj,
    String.toList_ofList]

end SearchPath.Path
