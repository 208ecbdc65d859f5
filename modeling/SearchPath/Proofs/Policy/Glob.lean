import SearchPath.Policy.Glob

/-!
# What a pattern matches

1. `Fills` says without any matching when a text is a pattern with its stars filled in. It takes
   the pattern one character after the other (`fills_nil_iff`, `fills_star_iff`,
   `fills_literal_iff`); without a star only the pattern itself fills it (`fills_iff_eq`).
2. The expression written for a pattern is read as one part for each of its characters, a line for
   a star and any other as itself, quoted or not (`readExpression_expressionOf`). So every pattern
   is read (`parse_eq`).
3. The verdict on a path follows the same rules (`verdict_nil_iff`, `verdict_line_iff`,
   `verdict_char_iff`), because the verdicts on its suffixes stand behind it (`verdicts_cons`).
   So both agree (`verdict_partsOf_iff`).
4. Main result (`globs_decide`): rules reject and ask for exactly the paths that their patterns
   describe.
-/

namespace SearchPath.Policy

open SearchPath.Text

variable {pattern path : List Char} {parts : List Part} {c : Char}

/-! ## Filled patterns -/

/-- The path is the pattern with a text on one line in place of each star: the pattern is a literal
text and then, any number of times, a star and a literal text behind it, and the path is the same
literal texts with what stands for the stars between them. -/
def Fills (pattern path : List Char) : Prop :=
  ∃ (start : List Char) (gaps : List (List Char × List Char)),
    pattern = start ++ gaps.flatMap (fun gap => '*' :: gap.2) ∧
    path = start ++ gaps.flatMap (fun gap => gap.1 ++ gap.2) ∧
    '*' ∉ start ∧ ∀ gap ∈ gaps, '\n' ∉ gap.1 ∧ '*' ∉ gap.2

/-- An empty pattern leaves nothing open. -/
theorem fills_nil_iff : Fills [] path ↔ path = [] := by
  constructor
  · rintro ⟨start, gaps, hpattern, rfl, -, -⟩
    obtain ⟨rfl, hgaps⟩ := List.append_eq_nil_iff.1 hpattern.symm
    cases gaps with
    | nil => rfl
    | cons gap gaps => simp at hgaps
  · rintro rfl
    exact ⟨[], [], rfl, rfl, by simp, by simp⟩

/-- A star stands for any text on one line. -/
theorem fills_star_iff :
    Fills ('*' :: pattern) path ↔
      ∃ gap rest, path = gap ++ rest ∧ '\n' ∉ gap ∧ Fills pattern rest := by
  constructor
  · rintro ⟨start, gaps, hpattern, rfl, hstart, hgaps⟩
    cases start with
    | cons d start =>
      have hd : '*' = d := (List.cons.inj hpattern).1
      exact absurd (hd ▸ List.mem_cons_self) hstart
    | nil =>
      cases gaps with
      | nil => simp at hpattern
      | cons gap gaps =>
        have hfirst := hgaps gap List.mem_cons_self
        -- the literal text behind the star starts what is left of the pattern
        refine ⟨gap.1, gap.2 ++ gaps.flatMap (fun gap => gap.1 ++ gap.2), by simp, hfirst.1,
          gap.2, gaps, by simpa using hpattern, rfl, hfirst.2, ?_⟩
        intro other ho
        exact hgaps other (List.mem_cons_of_mem gap ho)
  · rintro ⟨gap, rest, rfl, hgap, start, gaps, rfl, rfl, hstart, hgaps⟩
    refine ⟨[], (gap, start) :: gaps, by simp, by simp, by simp, ?_⟩
    intro other ho
    rcases List.mem_cons.1 ho with rfl | ho
    · exact ⟨hgap, hstart⟩
    · exact hgaps other ho

/-- Any other character stands for itself. -/
theorem fills_literal_iff (hc : c ≠ '*') :
    Fills (c :: pattern) path ↔ ∃ rest, path = c :: rest ∧ Fills pattern rest := by
  constructor
  · rintro ⟨start, gaps, hpattern, rfl, hstart, hgaps⟩
    cases start with
    | nil =>
      cases gaps with
      | nil => simp at hpattern
      | cons gap gaps => exact absurd (List.cons.inj hpattern).1 hc
    | cons d start =>
      rw [List.cons_append, List.cons.injEq] at hpattern
      obtain ⟨rfl, hpattern⟩ := hpattern
      have hrest : '*' ∉ start := fun hm => hstart (List.mem_cons_of_mem c hm)
      exact ⟨_, rfl, start, gaps, hpattern, rfl, hrest, hgaps⟩
  · rintro ⟨rest, rfl, start, gaps, rfl, rfl, hstart, hgaps⟩
    refine ⟨c :: start, gaps, rfl, rfl, ?_, hgaps⟩
    simp [hstart, Ne.symm hc]

/-- A pattern without a star describes one path. -/
theorem fills_iff_eq (h : '*' ∉ pattern) : Fills pattern path ↔ path = pattern := by
  induction pattern generalizing path with
  | nil => exact fills_nil_iff
  | cons c pattern ih =>
    simp only [List.mem_cons, not_or] at h
    simp only [fills_literal_iff (Ne.symm h.1), ih h.2, exists_eq_right]

/-! ## Expressions -/

/-- What the expression of a pattern is made of. -/
def partsOf (pattern : List Char) : List Part :=
  pattern.map fun c => if c = '*' then .line else .char c

theorem partsOf_star (pattern : List Char) :
    partsOf ('*' :: pattern) = .line :: partsOf pattern := rfl

theorem partsOf_literal (hc : c ≠ '*') (pattern : List Char) :
    partsOf (c :: pattern) = .char c :: partsOf pattern := by
  rw [partsOf, List.map_cons, if_neg hc]
  rfl

theorem readParts_line (text : List Char) :
    readParts ('.' :: '*' :: text) = (readParts text).map (.line :: ·) := rfl

/-- A quoted character is read as itself, whether or not it means something in an expression. -/
theorem readParts_quote_cons (c : Char) (s text : List Char) :
    readParts (quote (c :: s) ++ text) = (readParts (quote s ++ text)).map (.char c :: ·) := by
  rw [quote, List.flatMap_cons, List.append_assoc]
  split
  next hc =>
    rw [List.cons_append, List.cons_append, List.nil_append, readParts, if_pos hc]
    rfl
  next hc =>
    -- the forms that start with a dot, a backslash or the mark of the end all start with such
    -- a character
    have hother : ∀ d ∈ metaCharacters, c ≠ d := by
      rintro d hd rfl
      exact hc (List.contains_iff_mem.2 hd)
    rw [List.singleton_append, readParts.eq_5, if_neg hc]
    · rfl
    · exact fun e => absurd e (hother '$' (by decide))
    · exact fun rest e => absurd e (hother '.' (by decide))
    · exact fun d rest e => absurd e (hother '\\' (by decide))

/-- Joined texts start with the first one, whichever that is. -/
theorem exists_intercalate_cons (mark : List Char) (texts : List (List Char)) :
    ∃ behind, ∀ first, List.intercalate mark (first :: texts) = first ++ behind := by
  cases texts with
  | nil => exact ⟨[], fun first => by simp⟩
  | cons text texts =>
    exact ⟨mark ++ List.intercalate mark (text :: texts), fun first => by simp⟩

/-- **Reading what is written.** The expression of a pattern is read as the pattern says. -/
theorem readExpression_expressionOf (pattern : List Char) :
    readExpression (expressionOf pattern) = some (partsOf pattern) := by
  show readParts (List.intercalate ['.', '*'] ((pieces '*' pattern).map quote) ++ ['$']) =
    some (partsOf pattern)
  induction pattern with
  | nil => rfl
  | cons c pattern ih =>
    obtain ⟨p, ps, hp⟩ := pieces_eq_cons '*' pattern
    rw [hp, List.map_cons] at ih
    obtain ⟨behind, hbehind⟩ := exists_intercalate_cons ['.', '*'] (ps.map quote)
    by_cases hc : c = '*'
    · subst hc
      rw [pieces, if_pos rfl, hp, List.map_cons, List.map_cons, List.intercalate_cons_cons,
        List.append_assoc, List.append_assoc]
      exact (readParts_line _).trans (congrArg _ ih)
    · rw [hbehind, List.append_assoc] at ih
      rw [pieces, if_neg hc, hp, List.modifyHead_cons, List.map_cons, hbehind, List.append_assoc,
        readParts_quote_cons, ih, Option.map_some, partsOf_literal hc]

/-! ## Verdicts -/

/-- The verdict on the whole path, the first of those on its suffixes. -/
def verdict (path : List Char) (parts : List Part) : Bool :=
  (verdicts path parts).headD false

/-- **Suffixes.** Behind the verdict on a path stand those on the path without its first
character. -/
theorem verdicts_cons (d : Char) (path : List Char) (parts : List Part) :
    verdicts (d :: path) parts = verdict (d :: path) parts :: verdicts path parts := by
  -- first only that they stand there, whatever the verdict before them is
  have hshape : ∃ v, verdicts (d :: path) parts = v :: verdicts path parts := by
    induction parts with
    | nil => exact ⟨false, rfl⟩
    | cons part parts ih =>
      obtain ⟨v, hv⟩ := ih
      cases part with
      | line =>
        rw [verdicts, verdicts, hv]
        exact ⟨_, rfl⟩
      | char c =>
        rw [verdicts, verdicts, hv]
        exact ⟨_, rfl⟩
  obtain ⟨v, hv⟩ := hshape
  rw [verdict, hv]
  rfl

theorem verdict_nil_iff : verdict path [] = true ↔ path = [] := by
  cases path with
  | nil => exact ⟨fun _ => rfl, fun _ => rfl⟩
  | cons d path => exact ⟨fun h => Bool.noConfusion h, fun h => absurd h (List.cons_ne_nil d path)⟩

/-- At the end of the path a line is empty. -/
theorem verdict_line_nil (parts : List Part) : verdict [] (.line :: parts) = verdict [] parts := by
  unfold verdict
  rw [verdicts, lineVerdicts]
  simp

/-- A line ends here, or takes one more character. -/
theorem verdict_line_cons (d : Char) (path : List Char) (parts : List Part) :
    verdict (d :: path) (.line :: parts) =
      (verdict (d :: path) parts || (d != '\n' && verdict path (.line :: parts))) := by
  rw [verdict, verdicts, verdicts_cons]
  rfl

theorem verdict_char_nil (c : Char) (parts : List Part) :
    verdict [] (.char c :: parts) = false := by
  rw [verdict, verdicts, charVerdicts]
  · cases verdicts [] parts <;> rfl
  · simp

theorem verdict_char_cons (c d : Char) (path : List Char) (parts : List Part) :
    verdict (d :: path) (.char c :: parts) = (c == d && verdict path parts) := by
  rw [verdict, verdicts, verdicts_cons]
  rfl

theorem verdict_line_iff : verdict path (.line :: parts) = true ↔
    ∃ gap rest, path = gap ++ rest ∧ '\n' ∉ gap ∧ verdict rest parts = true := by
  induction path with
  | nil =>
    rw [verdict_line_nil]
    constructor
    · intro h
      exact ⟨[], [], rfl, by simp, h⟩
    · rintro ⟨gap, rest, he, -, h⟩
      obtain ⟨rfl, rfl⟩ := List.append_eq_nil_iff.1 he.symm
      exact h
  | cons d path ih =>
    rw [verdict_line_cons, Bool.or_eq_true, Bool.and_eq_true, bne_iff_ne, ih]
    constructor
    · rintro (h | ⟨hd, gap, rest, rfl, hgap, h⟩)
      · exact ⟨[], d :: path, rfl, by simp, h⟩
      · exact ⟨d :: gap, rest, rfl, by simp [hgap, Ne.symm hd], h⟩
    · rintro ⟨gap, rest, he, hgap, h⟩
      cases gap with
      | nil => exact .inl (he ▸ h)
      | cons e gap =>
        obtain ⟨rfl, rfl⟩ := List.cons.inj he
        simp only [List.mem_cons, not_or] at hgap
        exact .inr ⟨Ne.symm hgap.1, gap, rest, rfl, hgap.2, h⟩

theorem verdict_char_iff : verdict path (.char c :: parts) = true ↔
    ∃ rest, path = c :: rest ∧ verdict rest parts = true := by
  cases path with
  | nil => simp [verdict_char_nil]
  | cons d path =>
    rw [verdict_char_cons, Bool.and_eq_true, beq_iff_eq]
    constructor
    · rintro ⟨rfl, h⟩
      exact ⟨path, rfl, h⟩
    · rintro ⟨rest, he, h⟩
      obtain ⟨rfl, rfl⟩ := List.cons.inj he
      exact ⟨rfl, h⟩

/-- **Matching.** The verdict on a path says whether it fills the pattern. -/
theorem verdict_partsOf_iff : verdict path (partsOf pattern) = true ↔ Fills pattern path := by
  induction pattern generalizing path with
  | nil => exact verdict_nil_iff.trans fills_nil_iff.symm
  | cons c pattern ih =>
    by_cases hc : c = '*'
    · subst hc
      rw [partsOf_star, verdict_line_iff, fills_star_iff]
      simp only [ih]
    · rw [partsOf_literal hc, verdict_char_iff, fills_literal_iff hc]
      simp only [ih]

/-! ## Rules -/

/-- Every pattern is read: one without a star as itself, any other as its parts. -/
theorem parse_eq (pattern : String) :
    PathRule.parse pattern =
      some (if '*' ∈ pattern.toList then .expression (partsOf pattern.toList)
        else .plain pattern) := by
  simp only [PathRule.parse, List.contains_iff_mem, readExpression_expressionOf]
  split <;> rfl

theorem globMatches_iff_fills {pattern path : String} :
    globMatches pattern path = true ↔ Fills pattern.toList path.toList := by
  rw [globMatches, parse_eq, Option.any_some]
  split
  · exact verdict_partsOf_iff
  next h => rw [PathRule.fits, beq_iff_eq, fills_iff_eq h, eq_comm, String.toList_inj]

theorem any_globMatches_iff {patterns : List String} {path : String} :
    patterns.any (globMatches · path) = true ↔
      ∃ pattern ∈ patterns, Fills pattern.toList path.toList := by
  simp only [List.any_eq_true, globMatches_iff_fills]

/-- **Rules on paths.** A path is rejected exactly if it fills a pattern that rejects, and asked
for exactly if it fills a pattern that accepts and none that rejects. -/
theorem globs_decide (globs : GlobRules) (path : String) :
    (globs.rejects path = true ↔ ∃ pattern ∈ globs.reject, Fills pattern.toList path.toList) ∧
      (globs.requests path = true ↔
        (∃ pattern ∈ globs.accept, Fills pattern.toList path.toList) ∧
          ¬∃ pattern ∈ globs.reject, Fills pattern.toList path.toList) := by
  have hrejects : globs.rejects path = true ↔
      ∃ pattern ∈ globs.reject, Fills pattern.toList path.toList := any_globMatches_iff
  refine ⟨hrejects, ?_⟩
  rw [GlobRules.requests, Bool.and_eq_true, any_globMatches_iff, Bool.not_eq_true',
    Bool.eq_false_iff, ne_eq, hrejects]

example : globMatches "*ab*b" "aabb" = true := by decide

end SearchPath.Policy
