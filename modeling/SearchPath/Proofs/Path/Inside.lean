import Mathlib.Data.List.Infix
import SearchPath.Proofs.Path.Entry

/-!
# What a path inside a container comes to

`entryPath` is to give names between slashes that lead to something in the container, and to leave
what it gave as it is.

1. `ClimbsOut` says of segments that they go up more often than down somewhere on the way; exactly
   then a `..` is left of them where no anchor stops it (`above_mem_foldl_push_iff`,
   `above_mem_normalize_iff`).
2. Tidy segments are written as names inside if no `..` is among them (`Tidy.isInside_join_iff`).
   What is written on a drive is read as it stands (`entryChars_of_anchor_drive`).
3. Main result (`entryPath_inside_iff`): which paths come to names inside, and which of them come to
   something else when they are read once more.
-/

namespace SearchPath.Path

open SearchPath.Text

variable {path : List Char} {anchored : Bool} {stack segments rest : List (List Char)}
  {s : List Char} {depth : Nat}

/-! ## Climbing out -/

/-- Whether the segment is the name of something, and so leads one step down. -/
def leadsDown (s : List Char) : Bool :=
  s ≠ [] ∧ s ≠ here ∧ s ≠ above

/-- Started this many steps down, the path is at some point one step above where it may go. -/
def ClimbsOut (depth : Nat) (segments : List (List Char)) : Prop :=
  ∃ before, before <+: segments ∧ depth + before.countP leadsDown < before.count above

instance (depth : Nat) (segments : List (List Char)) : Decidable (ClimbsOut depth segments) :=
  decidable_of_iff
    (∃ before ∈ segments.inits, depth + before.countP leadsDown < before.count above)
    (exists_congr fun before => and_congr_left fun _ => List.mem_inits before segments)

theorem not_climbsOut_nil (depth : Nat) : ¬ClimbsOut depth [] := by
  rintro ⟨before, hb, hlt⟩
  rw [List.prefix_nil.1 hb] at hlt
  simp at hlt

/-- The first segment is taken first, and what counts then is where it leads. -/
theorem climbsOut_cons : ClimbsOut depth (s :: rest) ↔
    ∃ before, before <+: rest ∧
      depth + (s :: before).countP leadsDown < (s :: before).count above := by
  constructor
  · rintro ⟨before, hb, hlt⟩
    rcases List.prefix_cons_iff.1 hb with rfl | ⟨before, rfl, hrest⟩
    · simp at hlt
    · exact ⟨before, hrest, hlt⟩
  · rintro ⟨before, hb, hlt⟩
    exact ⟨s :: before, List.prefix_cons_iff.2 (.inr ⟨before, rfl, hb⟩), hlt⟩

theorem climbsOut_cons_of_skipped (h : s = [] ∨ s = here) :
    ClimbsOut depth (s :: rest) ↔ ClimbsOut depth rest := by
  have hdown : leadsDown s = false := by rcases h with rfl | rfl <;> rfl
  have habove : s ≠ above := by rcases h with rfl | rfl <;> decide
  rw [climbsOut_cons]
  simp [ClimbsOut, hdown, habove]

theorem climbsOut_cons_of_name (h : ¬(s = [] ∨ s = here)) (ha : s ≠ above) :
    ClimbsOut depth (s :: rest) ↔ ClimbsOut (depth + 1) rest := by
  obtain ⟨hnil, hhere⟩ := not_or.1 h
  have hdown : leadsDown s = true := by simp [leadsDown, hnil, hhere, ha]
  rw [climbsOut_cons]
  refine exists_congr fun before => and_congr_right fun _ => ?_
  rw [List.countP_cons_of_pos hdown, List.count_cons_of_ne ha]
  omega

theorem climbsOut_zero_above : ClimbsOut 0 (above :: rest) :=
  climbsOut_cons.2 ⟨[], List.nil_prefix, by decide⟩

theorem climbsOut_succ_above : ClimbsOut (depth + 1) (above :: rest) ↔ ClimbsOut depth rest := by
  have hdown : ¬leadsDown above = true := by decide
  rw [climbsOut_cons]
  refine exists_congr fun before => and_congr_right fun _ => ?_
  rw [List.countP_cons_of_neg hdown, List.count_cons_self]
  omega

/-! ### The stack -/

/-- Once a `..` is on the stack it stays there, where no anchor stops it. -/
theorem above_mem_push (h : above ∈ stack) : above ∈ push false stack s := by
  by_cases hskip : s = [] ∨ s = here
  · rwa [push_of_skipped false stack hskip]
  by_cases habove : s = above
  · subst habove
    cases stack with
    | nil => exact absurd h List.not_mem_nil
    | cons last rest =>
      rw [push_above_cons]
      by_cases hlast : last = above
      · rw [if_neg (not_not.2 hlast), if_neg Bool.false_ne_true]
        exact List.mem_cons_self
      · rw [if_pos hlast]
        exact (List.mem_cons.1 h).resolve_left (Ne.symm hlast)
  · rw [push_of_segment false stack hskip habove]
    exact List.mem_cons_of_mem s h

theorem above_mem_foldl_push (h : above ∈ stack) :
    above ∈ segments.foldl (push false) stack := by
  induction segments generalizing stack with
  | nil => exact h
  | cons s rest ih => exact ih (above_mem_push h)

/-- **Climbing out.** From a stack of names a `..` is left exactly if the segments go up more often
than down somewhere on the way. -/
theorem above_mem_foldl_push_iff (h : above ∉ stack) :
    above ∈ segments.foldl (push false) stack ↔ ClimbsOut stack.length segments := by
  induction segments generalizing stack with
  | nil => exact iff_of_false h (not_climbsOut_nil _)
  | cons s rest ih =>
    rw [List.foldl_cons]
    by_cases hskip : s = [] ∨ s = here
    · rw [push_of_skipped false stack hskip, climbsOut_cons_of_skipped hskip]
      exact ih h
    by_cases habove : s = above
    · subst habove
      cases stack with
      | nil =>
        exact iff_of_true (above_mem_foldl_push List.mem_cons_self) climbsOut_zero_above
      | cons last below =>
        have hlast : last ≠ above := fun he => h (he ▸ List.mem_cons_self)
        rw [push_above_cons, if_pos hlast, List.length_cons, climbsOut_succ_above]
        exact ih fun hm => h (List.mem_cons_of_mem last hm)
    · rw [push_of_segment false stack hskip habove, climbsOut_cons_of_name hskip habove]
      refine ih fun hm => ?_
      rcases List.mem_cons.1 hm with he | hm
      · exact habove he.symm
      · exact h hm

/-- The path has no anchor, and goes up more often than down somewhere on the way. -/
def LeadsOut (path : List Char) : Prop :=
  (splitAnchor path).1 = none ∧ ClimbsOut 0 (pieces '/' path)

instance (path : List Char) : Decidable (LeadsOut path) :=
  inferInstanceAs (Decidable (_ ∧ _))

theorem above_mem_normalize_iff (path : List Char) :
    above ∈ (normalize path).segments ↔ LeadsOut path := by
  rcases hs : splitAnchor path with ⟨_ | a, rest⟩
  · have hrest := eq_of_splitAnchor_none hs
    subst hrest
    have hfold : above ∈ (pieces '/' rest).foldl (push false) [] ↔ ClimbsOut 0 (pieces '/' rest) :=
      above_mem_foldl_push_iff List.not_mem_nil
    simpa [LeadsOut, normalize, hs] using hfold
  · have htidy := tidy_normalize path
    have hanchor : (normalize path).anchor = some a := congrArg Prod.fst hs
    rw [hanchor] at htidy
    refine iff_of_false (htidy.no_above rfl) fun hl => ?_
    rw [LeadsOut, hs] at hl
    cases hl.1

/-! ## Names inside -/

/-- The path is empty or consists of names between slashes: it starts and ends with no slash, and
none of its segments is empty, `.` or `..`. -/
structure IsInside (path : List Char) : Prop where
  names : path = [] ∨ ∀ s ∈ pieces '/' path, s ≠ [] ∧ s ≠ here ∧ s ≠ above
  head_ne_slash : path.head? ≠ some '/'
  last_ne_slash : path.getLast? ≠ some '/'

/-- Tidy segments are names inside if no `..` is among them. -/
theorem Tidy.isInside_join_iff (h : Tidy anchored segments) :
    IsInside (join '/' segments) ↔ above ∉ segments := by
  by_cases hnil : segments = []
  · subst hnil
    exact iff_of_true ⟨.inl rfl, by decide, by decide⟩ List.not_mem_nil
  have hpieces := pieces_join hnil fun s hs => (h.isSegment s hs).no_slash
  constructor
  · intro hi hm
    have hnames := hi.names.resolve_left (h.join_ne_nil hnil)
    rw [hpieces] at hnames
    exact (hnames above hm).2.2 rfl
  · intro ha
    refine ⟨.inr fun s hs => ?_, h.head?_join_ne_slash, fun he => ?_⟩
    · rw [hpieces] at hs
      have hseg := h.isSegment s hs
      exact ⟨hseg.ne_nil, hseg.ne_here, fun hs' => ha (hs' ▸ hs)⟩
    · obtain ⟨s, hs, hc⟩ := exists_getLast?_of_join (fun s hs => (h.isSegment s hs).ne_nil) he
      exact (h.isSegment s hs).no_slash (List.mem_of_mem_getLast? hc)

/-- A drive in front of tidy segments is one more of them. -/
theorem Tidy.cons_drive {letter : Char} (h : Tidy true segments) (ha : letter.isAlpha = true) :
    Tidy true ([letter, ':'] :: segments) where
  isSegment s hs := by
    rcases List.mem_cons.1 hs with rfl | hs
    · exact isSegment_drive ha
    · exact h.isSegment s hs
  above_first :=
    List.pairwise_cons.2 ⟨fun s hs he => absurd (he ▸ hs) (h.no_above rfl), h.above_first⟩
  no_above _ hm := by
    rcases List.mem_cons.1 hm with he | hm
    · cases he
    · exact h.no_above rfl hm

/-- On a drive there are names inside if there is more than the drive. -/
theorem isInside_drive_iff {letter : Char} (h : Tidy true segments) (ha : letter.isAlpha = true) :
    IsInside (Anchor.text (.drive letter) ++ join '/' segments) ↔ segments ≠ [] := by
  constructor
  · rintro hi rfl
    exact hi.last_ne_slash rfl
  · intro hnil
    have htidy := h.cons_drive ha
    have hjoin : Anchor.text (.drive letter) ++ join '/' segments =
        join '/' ([letter, ':'] :: segments) := (join_cons_ne_nil '/' [letter, ':'] hnil).symm
    rw [hjoin]
    exact htidy.isInside_join_iff.2 (htidy.no_above rfl)

/-- The path is that of a drive, with nothing behind it. -/
def IsDriveAlone (path : List Char) : Prop :=
  ∃ letter, normalize path = ⟨some (.drive letter), []⟩

/-- **Names inside.** A path comes to names inside unless it leads out or to a drive alone. -/
theorem isInside_entryChars_iff (path : List Char) :
    IsInside (entryChars path) ↔ ¬LeadsOut (unify path) ∧ ¬IsDriveAlone (unify path) := by
  have htidy := tidy_normalize (unify path)
  rw [← above_mem_normalize_iff]
  by_cases hdrive : ∃ letter, (normalize (unify path)).anchor = some (.drive letter)
  · obtain ⟨letter, hdrive⟩ := hdrive
    have hupper : letter.isUpper = true := upper_of_anchor hdrive
    have halone : IsDriveAlone (unify path) ↔ (normalize (unify path)).segments = [] := by
      constructor
      · rintro ⟨other, he⟩
        exact congrArg Normal.segments he
      · intro hnil
        exact ⟨letter, by rw [← hdrive, ← hnil]⟩
    rw [hdrive] at htidy
    rw [entryChars_of_drive hdrive, isInside_drive_iff htidy (isAlpha_of_isUpper hupper), halone]
    exact (and_iff_right (htidy.no_above rfl)).symm
  · have hnone := not_exists.1 hdrive
    rw [entryChars_of_no_drive hnone, htidy.isInside_join_iff]
    refine (and_iff_left ?_).symm
    rintro ⟨letter, he⟩
    exact hnone letter (congrArg Normal.anchor he)

/-! ## Reading once more -/

/-- The path is on no drive, but the first name that is left of it is spelled like one: like one in
lower case, or with nothing behind it. -/
def UncoversDrive (path : List Char) : Prop :=
  (∀ letter, (normalize path).anchor ≠ some (.drive letter)) ∧
    ∃ letter rest, (normalize path).segments = [letter, ':'] :: rest ∧ letter.isAlpha = true ∧
      (letter.isUpper = true → rest = [])

/-- What is written on a drive is left as it is. -/
theorem entryChars_of_anchor_drive {letter : Char}
    (h : (normalize (unify path)).anchor = some (.drive letter)) :
    entryChars (entryChars path) = entryChars path := by
  have hupper : letter.isUpper = true := upper_of_anchor h
  have htidy := tidy_normalize (unify path)
  have hback := not_mem_entryChars path
  have hhead := head?_entryChars path
  rw [h] at htidy
  rw [entryChars_of_drive h] at hback hhead ⊢
  exact entryChars_of_isEntry ⟨isNormal_text (a := .drive letter) hupper htidy, hhead, hback⟩

/-- A path whose first name is spelled like a drive is read as one on that drive. -/
theorem anchor_of_first_name {letter : Char} (ha : letter.isAlpha = true) :
    (normalize (join '/' ([letter, ':'] :: rest))).anchor = some (.drive letter.toUpper) := by
  by_cases hrest : rest = []
  · subst hrest
    exact congrArg Prod.fst (splitAnchor_bare ha)
  · rw [join_cons_ne_nil '/' _ hrest]
    exact congrArg Prod.fst (splitAnchor_drive ha (join '/' rest))

theorem unify_entryChars (path : List Char) : unify (entryChars path) = entryChars path :=
  unify_eq_self (not_mem_entryChars path)

/-- **Reading once more.** A path inside is left as it is unless it uncovers a drive. -/
theorem entryChars_entryChars_iff (path : List Char) :
    entryChars (entryChars path) = entryChars path ↔ ¬UncoversDrive (unify path) := by
  by_cases hdrive : ∃ letter, (normalize (unify path)).anchor = some (.drive letter)
  · obtain ⟨letter, hdrive⟩ := hdrive
    exact iff_of_true (entryChars_of_anchor_drive hdrive) fun hu => hu.1 letter hdrive
  have hnone := not_exists.1 hdrive
  have htidy := tidy_normalize (unify path)
  have hpath := entryChars_of_no_drive hnone
  by_cases hnil : (normalize (unify path)).segments = []
  · rw [hnil] at hpath
    rw [hpath]
    refine iff_of_true rfl ?_
    rintro ⟨-, letter, rest, he, -⟩
    rw [hnil] at he
    cases he
  have hne : entryChars path ≠ [] := hpath ▸ htidy.join_ne_nil hnil
  have hback : ∀ s ∈ (normalize (unify path)).segments, '\\' ∉ s := fun s hs hc =>
    not_mem_entryChars path (hpath ▸ mem_join_of_mem hs hc)
  rw [entryChars_eq_self_iff hne, hpath, isEntry_join_iff hnil htidy]
  constructor
  · rintro ⟨-, hstands⟩ ⟨-, letter, rest, he, ha, hrest⟩
    obtain ⟨hupper, hbehind⟩ := hstands letter rest he ha
    exact hbehind (hrest hupper)
  · intro hu
    refine ⟨hback, fun letter rest he ha => ?_⟩
    by_contra hnot
    refine hu ⟨hnone, letter, rest, he, ha, fun hupper => ?_⟩
    by_contra hrest
    exact hnot ⟨hupper, hrest⟩

theorem toList_entryPath (path : String) : (entryPath path).toList = entryChars path.toList :=
  String.toList_ofList

/-- **Paths inside.** What a path comes to is empty or consists of names between slashes, unless it
leads out of the container or to a drive alone; and it comes to the same once more unless it
uncovers a drive. What it comes to in two steps stays. -/
theorem entryPath_inside_iff (path : String) :
    (IsInside (entryPath path).toList ↔
      ¬LeadsOut (unify path.toList) ∧ ¬IsDriveAlone (unify path.toList)) ∧
    (entryPath (entryPath path) = entryPath path ↔ ¬UncoversDrive (unify path.toList)) ∧
    entryPath (entryPath (entryPath path)) = entryPath (entryPath path) := by
  have hagain (path : String) : entryPath (entryPath path) = entryPath path ↔
      ¬UncoversDrive (unify path.toList) := by
    rw [← entryChars_entryChars_iff, ← String.toList_inj, toList_entryPath, toList_entryPath]
  refine ⟨?_, hagain path, ?_⟩
  · rw [toList_entryPath]
    exact isInside_entryChars_iff path.toList
  · by_cases hu : UncoversDrive (unify path.toList)
    · -- what uncovers a drive comes to a path on that drive
      rw [hagain]
      rintro ⟨hnone, -⟩
      obtain ⟨letter, rest, he, ha, -⟩ := hu.2
      rw [toList_entryPath, unify_entryChars, entryChars_of_no_drive hu.1, he] at hnone
      exact hnone _ (anchor_of_first_name ha)
    · have hstays := (hagain path).2 hu
      rw [hstays, hstays]

/-- A path that leads out, a drive alone, and a path that uncovers a drive, with what it comes to
once more. -/
example : entryPath "a/../../b" = "../b" ∧ entryPath "C:" = "C:/" ∧ entryPath "/c:/x" = "c:/x" ∧
    entryPath "c:/x" = "C:/x" := by
  decide

end SearchPath.Path
