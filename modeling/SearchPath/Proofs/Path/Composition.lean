import SearchPath.Proofs.Path.Nested
import SearchPath.Proofs.Path.Normal

/-!
# Paths step by step

1. Below a rooted base directory a plain path without marks has a place (`locate`), which is
   absolute (`absolute_locate`) and whose text is the canonical form (`anchorAt_eq`).
2. What stands behind a slash is located from the place of what stands before it
   (`locate_append`, `locate_text`).
3. Main result (`canonicalPlain_composes`): the canonical form can be taken step by step, it is an
   anchor and segments without `..`, and the base directory counts only for its own normal form.
-/

namespace SearchPath.Path

open SearchPath.Text

/-- The path starts with a slash or with a drive, where a backslash counts as a slash. -/
def Rooted (path : List Char) : Prop :=
  (splitAnchor (unify path)).1.isSome = true

instance (path : List Char) : Decidable (Rooted path) :=
  inferInstanceAs (Decidable ((splitAnchor (unify path)).1.isSome = true))

variable {base path p q : List Char}

theorem Rooted.unify_ne_nil (h : Rooted base) : unify base ≠ [] := by
  intro he
  unfold Rooted at h
  rw [he] at h
  cases h

theorem unify_append (s t : List Char) : unify (s ++ t) = unify s ++ unify t :=
  List.map_append

/-! ## Places -/

/-- The place of a path: its own one if it has an anchor, else the one below the base directory. -/
def locate (base path : List Char) : Normal :=
  if (splitAnchor path).1.isSome then normalize path else (normalize (unify base)).descend path

theorem locate_of_anchor (base : List Char) (h : (splitAnchor path).1.isSome = true) :
    locate base path = normalize path :=
  if_pos h

theorem locate_of_no_anchor (base : List Char) (h : (splitAnchor path).1.isSome ≠ true) :
    locate base path = (normalize (unify base)).descend path :=
  if_neg h

theorem anchorAt_of_anchor (base : List Char) (h : (splitAnchor path).1.isSome = true) :
    anchorAt base path = normalForm path :=
  if_pos h

/-- Below a rooted base directory the place of a path is what is anchored there. -/
theorem anchorAt_eq (hb : Rooted base) (path : List Char) :
    anchorAt base path = (locate base path).text := by
  by_cases ha : (splitAnchor path).1.isSome = true
  · rw [anchorAt_of_anchor base ha, locate_of_anchor base ha]
    rfl
  · unfold anchorAt
    rw [if_neg ha, locate_of_no_anchor base ha]
    dsimp only
    rw [if_neg hb.unify_ne_nil]
    split_ifs with hnil
    · rw [hnil, Normal.descend_nil]
      rfl
    · rw [normalForm, normalize_append hb.unify_ne_nil]

theorem absolute_locate (hb : Rooted base) (path : List Char) : (locate base path).Absolute := by
  by_cases ha : (splitAnchor path).1.isSome = true
  · rw [locate_of_anchor base ha]
    exact .of_splitAnchor ha
  · rw [locate_of_no_anchor base ha]
    exact (Normal.Absolute.of_splitAnchor hb).descend path

/-- **A further step.** What stands behind a slash is gone on with from the place of what stands
before it. -/
theorem locate_append (base : List Char) (hp : p ≠ []) (q : List Char) :
    locate base (p ++ '/' :: q) = (locate base p).descend q := by
  have hanchor : (splitAnchor (p ++ '/' :: q)).1 = (splitAnchor p).1 :=
    congrArg Normal.anchor (normalize_append hp q)
  by_cases ha : (splitAnchor p).1.isSome = true
  · rw [locate_of_anchor base ha, locate_of_anchor base (by rwa [hanchor]), normalize_append hp]
  · rw [locate_of_no_anchor base ha, locate_of_no_anchor base (by rwa [hanchor]),
      Normal.descend_append]

/-- Below a place with this text a path without an anchor leads where it leads from the place. -/
theorem locate_text {n : Normal} (hn : n.Absolute) (hslash : '\\' ∉ n.text)
    (hq : (splitAnchor q).1.isSome ≠ true) : locate n.text q = n.descend q := by
  rw [locate_of_no_anchor _ hq, unify_eq_self hslash, hn.normalize_text]

theorem not_mem_anchorAt (base : List Char) (h : '\\' ∉ path) : '\\' ∉ anchorAt base path := by
  unfold anchorAt
  dsimp only
  split_ifs
  · exact not_mem_normalForm h
  · exact not_mem_normalForm h
  · exact not_mem_normalForm (not_mem_unify base)
  · refine not_mem_normalForm fun hm => ?_
    rcases List.mem_append.1 hm with hm | hm
    · exact not_mem_unify base hm
    · rcases List.mem_cons.1 hm with he | hm
      · exact absurd he (by decide)
      · exact h hm

theorem normalize_eq_of_normalForm_eq {a b : List Char} (ha : (splitAnchor a).1.isSome = true)
    (hb : (splitAnchor b).1.isSome = true) (h : normalForm a = normalForm b) :
    normalize a = normalize b := by
  rw [← (Normal.Absolute.of_splitAnchor ha).normalize_text,
    ← (Normal.Absolute.of_splitAnchor hb).normalize_text]
  exact congrArg normalize h

/-- Where segments without slashes stand at the end no slash does. -/
theorem getLast?_join_ne_slash (start : List Char) {segments : List (List Char)}
    (hne : segments ≠ []) (h : ∀ s ∈ segments, s ≠ [] ∧ '/' ∉ s) :
    (start ++ join '/' segments).getLast? ≠ some '/' := by
  obtain ⟨before, last, rfl⟩ : ∃ before last, segments = before ++ [last] :=
    ⟨_, _, (List.dropLast_concat_getLast hne).symm⟩
  obtain ⟨hlast, hslash⟩ := h last (List.mem_append_right before List.mem_cons_self)
  have hend : ∃ start', start ++ join '/' (before ++ [last]) = start' ++ last := by
    by_cases hb : before = []
    · exact ⟨start, by rw [hb]; rfl⟩
    · refine ⟨start ++ join '/' before ++ ['/'], ?_⟩
      rw [join_append '/' hb (List.cons_ne_nil last [])]
      simp [join]
  obtain ⟨start', he⟩ := hend
  rw [he, List.getLast?_append_of_ne_nil _ hlast]
  exact fun hc => hslash (List.mem_of_getLast? hc)

/-! ## The canonical form -/

variable {path : List Char}

theorem canonicalPlain_eq_locate (hb : Rooted base) (hm : ¬ Nests (unify path)) :
    canonicalPlain base path = (locate base (unify path)).text := by
  rw [canonicalPlain_of_not_nests base hm, anchorAt_eq hb]

theorem canonicalPlain_append (hb : Rooted base) (hp : p ≠ []) (hq : ¬ Rooted q)
    (hm : ¬ Nests (unify (p ++ '/' :: q))) :
    canonicalPlain base (p ++ '/' :: q) = canonicalPlain (canonicalPlain base p) q := by
  have hcut : unify (p ++ '/' :: q) = unify p ++ '/' :: unify q := unify_append p ('/' :: q)
  have hmp : ¬ Nests (unify p) := fun h =>
    hm (h.trans (hcut ▸ (List.prefix_append (unify p) ('/' :: unify q)).isInfix))
  have hmq : ¬ Nests (unify q) := fun h =>
    hm (h.trans ⟨unify p ++ ['/'], [], by simp [hcut]⟩)
  have hpu : unify p ≠ [] := fun he => hp (List.map_eq_nil_iff.1 he)
  have habs := absolute_locate hb (unify p)
  have hslash : '\\' ∉ (locate base (unify p)).text :=
    anchorAt_eq hb (unify p) ▸ not_mem_anchorAt base (not_mem_unify p)
  have hroot : Rooted (locate base (unify p)).text := by
    unfold Rooted
    rw [unify_eq_self hslash]
    exact congrArg (·.anchor.isSome) habs.normalize_text ▸ habs.isSome_anchor
  calc canonicalPlain base (p ++ '/' :: q)
      = (locate base (unify p ++ '/' :: unify q)).text := by
        rw [canonicalPlain_eq_locate hb hm, hcut]
    _ = ((locate base (unify p)).descend (unify q)).text := by rw [locate_append base hpu]
    _ = (locate (locate base (unify p)).text (unify q)).text := by
        rw [locate_text habs hslash hq]
    _ = canonicalPlain (canonicalPlain base p) q := by
        rw [canonicalPlain_eq_locate hb hmp, canonicalPlain_eq_locate hroot hmq]

/-- **Composition.** Below a rooted base directory a path can be followed step by step. Where it
leads to is written as an anchor and segments, and it depends on the base directory only if the
path has no anchor, and then only on what the base directory comes to. -/
theorem canonicalPlain_composes (base : List Char) (hb : Rooted base) :
    (∀ p q : List Char, p ≠ [] → ¬ Rooted q → ¬ Nests (unify (p ++ '/' :: q)) →
      canonicalPlain base (p ++ '/' :: q) = canonicalPlain (canonicalPlain base p) q) ∧
    ∀ path : List Char, ¬ Nests (unify path) →
      (∃ (a : Anchor) (segments : List (List Char)), a.Upper ∧
        canonicalPlain base path = a.text ++ join '/' segments ∧
        (∀ s ∈ segments, s ≠ [] ∧ s ≠ here ∧ s ≠ above ∧ '/' ∉ s) ∧
        ((canonicalPlain base path).getLast? = some '/' → segments = [])) ∧
      (Rooted path → ∀ other, canonicalPlain other path = canonicalPlain base path) ∧
      ∀ other, Rooted other → normalForm (unify other) = normalForm (unify base) →
        canonicalPlain other path = canonicalPlain base path := by
  refine ⟨fun p q hp hq hm => canonicalPlain_append hb hp hq hm, fun path hm => ⟨?_, ?_, ?_⟩⟩
  · have habs := absolute_locate hb (unify path)
    obtain ⟨a, hupper, -, htext⟩ := habs.exists_text
    have hsegments : ∀ s ∈ (locate base (unify path)).segments,
        s ≠ [] ∧ s ≠ here ∧ s ≠ above ∧ '/' ∉ s := fun s hs =>
      have hseg := habs.tidy.isSegment s hs
      ⟨hseg.ne_nil, hseg.ne_here, fun he => habs.tidy.no_above rfl (he ▸ hs), hseg.no_slash⟩
    rw [canonicalPlain_eq_locate hb hm, htext]
    refine ⟨a, _, hupper, rfl, hsegments, fun hlast => ?_⟩
    by_contra hne
    exact getLast?_join_ne_slash a.text hne
      (fun s hs => ⟨(hsegments s hs).1, (hsegments s hs).2.2.2⟩) hlast
  · intro hr other
    rw [canonicalPlain_of_not_nests other hm, canonicalPlain_of_not_nests base hm,
      anchorAt_of_anchor other hr, anchorAt_of_anchor base hr]
  · intro other ho he
    rw [canonicalPlain_eq_locate hb hm, canonicalPlain_eq_locate ho hm, locate, locate,
      normalize_eq_of_normalForm_eq ho hb he]

/-- A drive as base directory, backslashes, empty segments and steps up. -/
theorem canonicalPlain_composes_on_drive :
    let base := "c:\\work\\..\\lib".toList
    let p := "a/.\\b".toList
    let q := "..//../../../d/".toList
    (Rooted base ∧ p ≠ [] ∧ ¬ Rooted q ∧ ¬ Nests (unify (p ++ '/' :: q))) ∧
      canonicalPlain base (p ++ '/' :: q) = canonicalPlain (canonicalPlain base p) q ∧
      canonicalPlain base (p ++ '/' :: q) = "C:/d".toList := by
  intro base p q
  have hb : Rooted base := by decide
  have hp : p ≠ [] := by decide
  have hq : ¬ Rooted q := by decide
  have hm : ¬ Nests (unify (p ++ '/' :: q)) := by decide
  exact ⟨⟨hb, hp, hq, hm⟩, (canonicalPlain_composes base hb).1 p q hp hq hm, by decide⟩

end SearchPath.Path
