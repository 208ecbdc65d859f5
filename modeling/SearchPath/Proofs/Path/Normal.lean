import SearchPath.Proofs.Path.Segments
import SearchPath.Proofs.Text.Letter

/-!
# Normal forms of paths

1. `Normal.descend` goes on from a normal form by a further path: normalizing `p/q` is going on from
   the normal form of `p` by `q` (`normalize_append`), also in several steps (`descend_append`).
2. The text of an absolute normal form has that normal form (`Absolute.normalize_text`), and what is
   reached from it is absolute (`Absolute.descend`).
3. `IsNormal` says of a text, without normalizing it, that it is written in normal form
   (`isNormal_iff`).
4. A normal form brings in no backslash (`not_mem_normalForm`) and is hardly ever longer than the
   path (`length_normalForm`).
-/

namespace SearchPath.Path

open SearchPath.Text

variable {anchored : Bool} {segments : List (List Char)} {s : List Char}

/-! ## Anchors -/

/-- The letter of a drive is in upper case. -/
def Anchor.Upper : Anchor → Prop
  | .slash => True
  | .drive letter => letter.isUpper = true

/-- The ways a path can start. -/
theorem splitAnchor_cases (path : List Char) :
    (∃ rest, path = '/' :: rest ∧ splitAnchor path = (some .slash, rest)) ∨
    (∃ c, c.isAlpha = true ∧ path = [c, ':'] ∧ splitAnchor path = (some (.drive c.toUpper), [])) ∨
    (∃ c rest, c.isAlpha = true ∧ path = c :: ':' :: '/' :: rest ∧
      splitAnchor path = (some (.drive c.toUpper), rest)) ∨
    splitAnchor path = (none, path) := by
  unfold splitAnchor
  split
  next rest => exact .inl ⟨rest, rfl, rfl⟩
  next c _ =>
    split_ifs with hc
    · exact .inr (.inl ⟨c, hc, rfl, rfl⟩)
    · exact .inr (.inr (.inr rfl))
  next c rest _ =>
    split_ifs with hc
    · exact .inr (.inr (.inl ⟨c, rest, hc, rfl, rfl⟩))
    · exact .inr (.inr (.inr rfl))
  next => exact .inr (.inr (.inr rfl))

theorem upper_of_splitAnchor {path rest : List Char} {a : Anchor}
    (h : splitAnchor path = (some a, rest)) : a.Upper := by
  rcases splitAnchor_cases path with ⟨r, -, he⟩ | ⟨c, hc, -, he⟩ | ⟨c, r, hc, -, he⟩ | he <;>
    rw [he] at h <;> cases h
  · trivial
  · exact isUpper_toUpper hc
  · exact isUpper_toUpper hc

theorem eq_of_splitAnchor_none {path rest : List Char} (h : splitAnchor path = (none, rest)) :
    rest = path := by
  rcases splitAnchor_cases path with ⟨r, -, he⟩ | ⟨c, hc, -, he⟩ | ⟨c, r, hc, -, he⟩ | he <;>
    rw [he] at h <;> cases h
  rfl

theorem splitAnchor_of_none {path : List Char} (h : (splitAnchor path).1 = none) :
    splitAnchor path = (none, path) :=
  Prod.ext h (eq_of_splitAnchor_none (Prod.ext h rfl))

theorem splitAnchor_drive {c : Char} (h : c.isAlpha = true) (rest : List Char) :
    splitAnchor (c :: ':' :: '/' :: rest) = (some (.drive c.toUpper), rest) := by
  unfold splitAnchor
  split
  next he => cases he; cases h
  next he => cases he
  next he => cases he; exact if_pos h
  next hno => exact absurd rfl (hno c rest)

theorem splitAnchor_bare {c : Char} (h : c.isAlpha = true) :
    splitAnchor [c, ':'] = (some (.drive c.toUpper), []) := by
  unfold splitAnchor
  split
  next he => cases he; cases h
  next he => cases he; exact if_pos h
  next he => cases he
  next hno _ => exact absurd rfl (hno c)

/-- An anchor in upper case is read as it is written. -/
theorem splitAnchor_text {a : Anchor} (h : a.Upper) (rest : List Char) :
    splitAnchor (a.text ++ rest) = (some a, rest) := by
  cases a with
  | slash => rfl
  | drive letter =>
    have hupper : letter.isUpper = true := h
    show splitAnchor (letter :: ':' :: '/' :: rest) = _
    rw [splitAnchor_drive (isAlpha_of_isUpper hupper), toUpper_of_isUpper hupper]

/-- A path without an anchor that is not empty does not get one from what follows a slash. -/
theorem splitAnchor_append_of_none {path : List Char} (hne : path ≠ [])
    (h : (splitAnchor path).1 = none) (q : List Char) :
    splitAnchor (path ++ '/' :: q) = (none, path ++ '/' :: q) := by
  rcases splitAnchor_cases (path ++ '/' :: q) with
    ⟨r, hp, -⟩ | ⟨c, hc, hp, -⟩ | ⟨c, r, hc, hp, -⟩ | he
  · obtain ⟨p, rfl⟩ : ∃ p, path = '/' :: p := by
      cases path with
      | nil => exact absurd rfl hne
      | cons d p => cases hp; exact ⟨p, rfl⟩
    cases h
  · match path, hne, hp with
    | [d], _, hp => cases hp
    | d :: e :: p, _, hp => simp at hp
  · match path, hne, hp, h with
    | [d], _, hp, _ => cases hp
    | [d, e], _, hp, h => cases hp; rw [splitAnchor_bare hc] at h; cases h
    | d :: e :: f :: p, _, hp, h => cases hp; rw [splitAnchor_drive hc] at h; cases h
  · exact he

/-! ## Going on from a normal form -/

/-- Where a path leads to from here. -/
def Normal.descend (n : Normal) (path : List Char) : Normal :=
  ⟨n.anchor, ((pieces '/' path).foldl (push n.anchor.isSome) n.segments.reverse).reverse⟩

namespace Normal

@[simp] theorem descend_nil (n : Normal) : n.descend [] = n := by
  unfold descend
  rw [pieces_nil, List.foldl_cons, List.foldl_nil, push_of_skipped _ _ (.inl rfl),
    List.reverse_reverse]

/-- Going on in two steps. -/
theorem descend_append (n : Normal) (p q : List Char) :
    n.descend (p ++ '/' :: q) = (n.descend p).descend q := by
  unfold descend
  rw [pieces_append, List.foldl_append, List.reverse_reverse]

end Normal

theorem normalize_eq {path rest : List Char} {a : Option Anchor}
    (h : splitAnchor path = (a, rest)) : normalize path = (⟨a, []⟩ : Normal).descend rest := by
  unfold normalize
  rw [h]
  rfl

/-- A drive without its slash gets one. -/
theorem normalForm_bare {c : Char} (h : c.isAlpha = true) :
    normalForm [c, ':'] = [c.toUpper, ':', '/'] := by
  rw [normalForm, normalize_eq (splitAnchor_bare h)]
  rfl

/-- **Normalizing step by step.** What follows a slash is gone on with from the normal form of what
stands before it. -/
theorem normalize_append {p : List Char} (hne : p ≠ []) (q : List Char) :
    normalize (p ++ '/' :: q) = (normalize p).descend q := by
  rcases splitAnchor_cases p with ⟨r, rfl, he⟩ | ⟨c, hc, rfl, he⟩ | ⟨c, r, hc, rfl, he⟩ | he
  · have hpq : splitAnchor ('/' :: (r ++ '/' :: q)) = (some .slash, r ++ '/' :: q) := rfl
    rw [List.cons_append, normalize_eq hpq, normalize_eq he, Normal.descend_append]
  · have hpq := splitAnchor_drive hc q
    show normalize (c :: ':' :: '/' :: q) = _
    rw [normalize_eq hpq, normalize_eq he, Normal.descend_nil]
  · have hpq := splitAnchor_drive hc (r ++ '/' :: q)
    show normalize (c :: ':' :: '/' :: (r ++ '/' :: q)) = _
    rw [normalize_eq hpq, normalize_eq he, Normal.descend_append]
  · have hpq := splitAnchor_append_of_none hne (congrArg Prod.fst he) q
    rw [normalize_eq hpq, normalize_eq he, Normal.descend_append]

/-- Every normal form is tidy. -/
theorem tidy_normalize (path : List Char) :
    Tidy (normalize path).anchor.isSome (normalize path).segments := by
  have hempty : Tidy (splitAnchor path).1.isSome ([] : List (List Char)).reverse :=
    tidy_nil (splitAnchor path).1.isSome
  exact hempty.pushAll fun _ => not_mem_of_mem_pieces

/-! ## Absolute paths -/

/-- An anchor in upper case and segments without `..`. -/
structure Normal.Absolute (n : Normal) : Prop where
  anchor : ∃ a, n.anchor = some a ∧ a.Upper
  tidy : Tidy true n.segments

namespace Normal.Absolute

variable {n : Normal}

theorem isSome_anchor (h : n.Absolute) : n.anchor.isSome = true := by
  obtain ⟨a, ha, -⟩ := h.anchor
  rw [ha]
  rfl

theorem of_splitAnchor {path : List Char} (h : (splitAnchor path).1.isSome = true) :
    (normalize path).Absolute := by
  obtain ⟨a, ha⟩ := Option.isSome_iff_exists.1 h
  obtain ⟨rest, hs⟩ : ∃ rest, splitAnchor path = (some a, rest) :=
    ⟨(splitAnchor path).2, Prod.ext ha rfl⟩
  have hanchor : (normalize path).anchor = some a := by rw [normalize_eq hs]; rfl
  refine ⟨⟨a, hanchor, upper_of_splitAnchor hs⟩, ?_⟩
  have := tidy_normalize path
  rwa [hanchor] at this

/-- What a path leads to from an absolute path is absolute. -/
theorem descend (h : n.Absolute) (path : List Char) : (n.descend path).Absolute where
  anchor := h.anchor
  tidy := by
    unfold Normal.descend
    rw [h.isSome_anchor]
    have hstack : Tidy true n.segments.reverse.reverse := by
      rw [List.reverse_reverse]
      exact h.tidy
    exact hstack.pushAll fun _ => not_mem_of_mem_pieces

/-- The text of an absolute path is its anchor and its segments between slashes. -/
theorem exists_text (h : n.Absolute) :
    ∃ a : Anchor, a.Upper ∧ n.anchor = some a ∧ n.text = a.text ++ join '/' n.segments := by
  obtain ⟨a, ha, hupper⟩ := h.anchor
  refine ⟨a, hupper, ha, ?_⟩
  unfold Normal.text
  rw [ha]

/-- **Reading again.** The text of an absolute path has that normal form. -/
theorem normalize_text (h : n.Absolute) : normalize n.text = n := by
  obtain ⟨a, hupper, ha, htext⟩ := h.exists_text
  have htidy : Tidy (some a).isSome n.segments := h.tidy
  rw [htext, normalize_eq (splitAnchor_text hupper _), Normal.descend, List.reverse_nil,
    foldl_push_join htidy, List.reverse_reverse, ← ha]

end Normal.Absolute

/-! ## Paths written in normal form -/

/-- The path is written in normal form: with its anchor in upper case, with proper segments between
single slashes, and with `..` at the start only, if there is no anchor. -/
structure IsNormal (path : List Char) : Prop where
  anchor : ∀ a rest, splitAnchor path = (some a, rest) → path = a.text ++ rest
  segments : (splitAnchor path).1.isSome ∧ (splitAnchor path).2 = [] ∨
    Tidy (splitAnchor path).1.isSome (pieces '/' (splitAnchor path).2)

theorem isNormal_text {a : Anchor} (hupper : a.Upper) (h : Tidy true segments) :
    IsNormal (a.text ++ join '/' segments) where
  anchor b rest hs := by
    rw [splitAnchor_text hupper] at hs
    cases hs
    rfl
  segments := by
    rw [splitAnchor_text hupper]
    by_cases hnil : segments = []
    · exact .inl ⟨rfl, by rw [hnil]; rfl⟩
    · right
      rw [pieces_join hnil fun s hs => (h.isSegment s hs).no_slash]
      exact h

/-- The text of an absolute path is written in normal form. -/
theorem Normal.Absolute.isNormal {n : Normal} (h : n.Absolute) : IsNormal n.text := by
  obtain ⟨a, hupper, -, htext⟩ := h.exists_text
  rw [htext]
  exact isNormal_text hupper h.tidy

theorem descend_of_tidy {anchor : Option Anchor} {rest : List Char}
    (h : Tidy anchor.isSome (pieces '/' rest)) :
    (⟨anchor, []⟩ : Normal).descend rest = ⟨anchor, pieces '/' rest⟩ := by
  have htidy : Tidy anchor.isSome (([] : List (List Char)).reverse ++ pieces '/' rest) := h
  rw [Normal.descend, List.reverse_nil, foldl_push_of_tidy htidy, List.append_nil,
    List.reverse_reverse]

theorem IsNormal.normalForm_eq {path : List Char} (h : IsNormal path) : normalForm path = path := by
  rcases hs : splitAnchor path with ⟨anchor, rest⟩
  have hsegments := h.segments
  have hanchor := h.anchor
  rw [hs] at hsegments hanchor
  rw [normalForm, normalize_eq hs]
  rcases hsegments with ⟨hsome, hnil⟩ | htidy
  · obtain ⟨a, rfl⟩ := Option.isSome_iff_exists.1 hsome
    dsimp only at hnil
    subst hnil
    rw [Normal.descend_nil]
    exact (hanchor a [] rfl).symm
  · rw [descend_of_tidy htidy]
    cases anchor with
    | none =>
      rw [Normal.text, if_neg (pieces_ne_nil '/' rest), join_pieces]
      exact eq_of_splitAnchor_none hs
    | some a =>
      rw [Normal.text, join_pieces]
      exact (hanchor a rest rfl).symm

theorem IsNormal.ne_here {path : List Char} (h : IsNormal path) : path ≠ here := by
  rintro rfl
  rcases h.segments with ⟨hsome, -⟩ | htidy
  · cases hsome
  · exact (htidy.isSegment here (by decide)).ne_here rfl

theorem IsNormal.ne_nil {path : List Char} (h : IsNormal path) : path ≠ [] := by
  rintro rfl
  rcases h.segments with ⟨hsome, -⟩ | htidy
  · cases hsome
  · exact (htidy.isSegment [] (by decide)).ne_nil rfl

theorem isNormal_of_normalForm {path : List Char} (h : normalForm path = path)
    (hne : path ≠ here) : IsNormal path := by
  rcases hs : splitAnchor path with ⟨_ | a, rest⟩
  · have htidy := tidy_normalize path
    have hanchor : (normalize path).anchor = none := congrArg Prod.fst hs
    rw [hanchor] at htidy
    rw [normalForm, Normal.text, hanchor] at h
    dsimp only at h
    have hnil : (normalize path).segments ≠ [] := by
      intro he
      rw [if_pos he] at h
      exact hne h.symm
    rw [if_neg hnil] at h
    have hpieces := pieces_join hnil fun s hm => (htidy.isSegment s hm).no_slash
    rw [h] at hpieces
    refine ⟨fun a rest he => ?_, .inr ?_⟩
    · rw [hs] at he
      cases he
    · rw [hs, eq_of_splitAnchor_none hs, hpieces]
      exact htidy
  · have habs : (normalize path).Absolute := .of_splitAnchor (by rw [hs]; rfl)
    have htext : (normalize path).text = path := h
    rw [← htext]
    exact habs.isNormal

/-- An absolute path written in normal form is an anchor and tidy segments. -/
theorem IsNormal.exists_text {path : List Char} (h : IsNormal path)
    (ha : (splitAnchor path).1.isSome = true) :
    ∃ (a : Anchor) (segments : List (List Char)),
      a.Upper ∧ Tidy true segments ∧ path = a.text ++ join '/' segments := by
  obtain ⟨a, hanchor⟩ := Option.isSome_iff_exists.1 ha
  have hs : splitAnchor path = (some a, (splitAnchor path).2) := Prod.ext hanchor rfl
  have htext := h.anchor a _ hs
  rcases h.segments with ⟨-, hnil⟩ | htidy
  · refine ⟨a, [], upper_of_splitAnchor hs, tidy_nil true, ?_⟩
    rw [hnil] at htext
    exact htext
  · rw [ha] at htidy
    exact ⟨a, pieces '/' (splitAnchor path).2, upper_of_splitAnchor hs, htidy,
      by rw [join_pieces]; exact htext⟩

/-- **Written in normal form.** These are the paths that are their own normal form, but for `.`,
which stands for a path without segments. -/
theorem isNormal_iff {path : List Char} :
    IsNormal path ↔ normalForm path = path ∧ path ≠ here :=
  ⟨fun h => ⟨h.normalForm_eq, h.ne_here⟩, fun h => isNormal_of_normalForm h.1 h.2⟩

instance (path : List Char) : Decidable (IsNormal path) :=
  decidable_of_iff _ isNormal_iff.symm

/-! ## Characters and length of a normal form -/

/-- What stands behind the anchor ends the path. -/
theorem splitAnchor_suffix (path : List Char) : (splitAnchor path).2 <:+ path := by
  rcases splitAnchor_cases path with ⟨r, hp, he⟩ | ⟨d, -, -, he⟩ | ⟨d, r, -, hp, he⟩ | he
  · rw [he]
    exact ⟨['/'], hp.symm⟩
  · rw [he]
    exact List.nil_suffix
  · rw [he]
    exact ⟨[d, ':', '/'], hp.symm⟩
  · have hall : (splitAnchor path).2 = path := congrArg Prod.snd he
    exact ⟨[], hall⟩

/-- A normal form has no backslash that the path does not have. -/
theorem not_mem_normalForm {path : List Char} (h : '\\' ∉ path) : '\\' ∉ normalForm path := by
  have hjoin : '\\' ∉ join '/' (normalize path).segments := by
    intro hm
    rcases mem_join hm with he | ⟨s, hs, hc⟩
    · exact absurd he (by decide)
    · rcases mem_foldl_push (List.mem_reverse.1 hs) with hs | hs
      · exact absurd hs List.not_mem_nil
      · exact h ((splitAnchor_suffix path).subset (mem_of_mem_pieces hs hc))
  rcases hs : splitAnchor path with ⟨_ | a, rest⟩
  · have hanchor : (normalize path).anchor = none := congrArg Prod.fst hs
    rw [normalForm, Normal.text, hanchor]
    dsimp only
    split_ifs
    · decide
    · exact hjoin
  · have hanchor : (normalize path).anchor = some a := congrArg Prod.fst hs
    rw [normalForm, Normal.text, hanchor]
    intro hm
    rcases List.mem_append.1 hm with hm | hm
    · have hupper := upper_of_splitAnchor hs
      cases a with
      | slash => exact absurd hm (by decide)
      | drive letter =>
        have hletter : letter = '\\' := by
          rcases List.mem_cons.1 hm with he | hm
          · exact he.symm
          · exact absurd hm (by decide)
        subst hletter
        cases hupper
    · exact hjoin hm

/-- **Length.** A normal form is as long as the path at most, but for the empty path, which is
written `.`, and for a drive without its slash. -/
theorem length_normalForm (path : List Char) :
    path = [] ∨ (∃ c, c.isAlpha = true ∧ path = [c, ':']) ∨
      (normalForm path).length ≤ path.length := by
  rcases hs : splitAnchor path with ⟨anchor, rest⟩
  have hjoin : (join '/' (normalize path).segments).length ≤ rest.length := by
    have hweight : weight (normalize path).segments ≤ rest.length + 1 := by
      rw [normalize_eq hs, Normal.descend, weight_reverse]
      have hfold := weight_foldl_push_le anchor.isSome [] (pieces '/' rest)
      rwa [weight_pieces, weight_nil, Nat.zero_add] at hfold
    have hle := length_join_le_weight '/' (normalize path).segments
    omega
  have hanchor : (normalize path).anchor = anchor := congrArg Prod.fst hs
  rcases splitAnchor_cases path with ⟨r, rfl, he⟩ | ⟨c, hc, rfl, he⟩ | ⟨c, r, hc, rfl, he⟩ | he <;>
    rw [he] at hs <;> cases hs
  · right; right
    rw [normalForm, Normal.text, hanchor]
    simp only [Anchor.text, List.length_append, List.length_cons, List.length_nil]
    omega
  · exact .inr (.inl ⟨c, hc, rfl⟩)
  · right; right
    rw [normalForm, Normal.text, hanchor]
    simp only [Anchor.text, List.length_append, List.length_cons, List.length_nil]
    omega
  · rw [normalForm, Normal.text, hanchor]
    dsimp only
    split_ifs with hnil
    · cases path with
      | nil => exact .inl rfl
      | cons c path => exact .inr (.inr (Nat.succ_le_succ (Nat.zero_le _)))
    · exact .inr (.inr hjoin)

end SearchPath.Path
