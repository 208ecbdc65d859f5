import SearchPath.Proofs.Json.Grammar
import SearchPath.Proofs.Text.First

/-!
# Reading texts, numbers and words

1. A text is read up to its last quote exactly if it is spelled there (`readText_of_spells`,
   `spells_of_readText`).
2. A number is read as far as it goes: what is spelled is read if nothing behind it continues it
   (`readNumber_of_isNumber`), and what is read is a number (`isNumber_of_readNumber`).
3. Words are read where they stand, and anything else as a number (`readScalar_of_isNumber`,
   `spells_of_readScalar`).
-/

namespace SearchPath.Json

open SearchPath.Text

/-! ## Texts -/

/-- A letter behind a backslash stands for one character only, and `u` for none. -/
theorem lookup_escapes {c : Char} {n : Nat} (h : (c, n) ∈ escapes) :
    escapes.lookup c = some n ∧ c ≠ 'u' := by
  have hall : ∀ e ∈ escapes, escapes.lookup e.1 = some e.2 ∧ e.1 ≠ 'u' := by decide
  exact hall (c, n) h

theorem readText_of_spells {s : List Char} {points : List Nat} (h : SpellsPoints s points)
    (rest : List Char) : readText (s ++ '"' :: rest) = some (points, rest) := by
  induction h with
  | nil => rfl
  | char hcontrol hquote hslash _ ih =>
    rw [List.cons_append, readText]
    · simp [ih, hslash, Nat.not_lt.2 hcontrol]
    all_goals simp_all
  | @escape c n s points hc _ ih =>
    obtain ⟨hlookup, hu⟩ := lookup_escapes hc
    rw [List.cons_append, List.cons_append, readText]
    · simp [hlookup, ih]
    · simp_all
  | unit hn _ ih =>
    simp only [List.cons_append, readText, hn, ih]
    rfl

theorem mem_escapes_of_lookup {c : Char} {n : Nat} (h : escapes.lookup c = some n) :
    (c, n) ∈ escapes := by
  obtain ⟨before, after, he, -⟩ := List.lookup_eq_some_iff.1 h
  rw [he]
  simp

theorem spells_of_readText {s left : List Char} {points : List Nat}
    (h : readText s = some (points, left)) : ∃ t, s = t ++ '"' :: left ∧ SpellsPoints t points := by
  fun_induction readText s generalizing points left with
  | case1 => cases h
  | case2 rest =>
    cases h
    exact ⟨[], rfl, .nil⟩
  | case3 a b c d rest ih =>
    simp only [Option.bind_eq_bind, Option.bind_eq_some_iff] at h
    obtain ⟨n, hn, ⟨more, left⟩, hmore, h⟩ := h
    cases h
    obtain ⟨t, rfl, ht⟩ := ih hmore
    exact ⟨_, rfl, .unit hn ht⟩
  | case4 c rest _ ih =>
    simp only [Option.bind_eq_bind, Option.bind_eq_some_iff] at h
    obtain ⟨n, hn, ⟨more, left⟩, hmore, h⟩ := h
    cases h
    obtain ⟨t, rfl, ht⟩ := ih hmore
    exact ⟨_, rfl, .escape (mem_escapes_of_lookup hn) ht⟩
  | case5 => cases h
  | case6 c rest hquote _ _ hc ih =>
    simp only [Option.bind_eq_bind, Option.bind_eq_some_iff] at h
    obtain ⟨⟨more, left⟩, hmore, h⟩ := h
    cases h
    obtain ⟨t, rfl, ht⟩ := ih hmore
    obtain ⟨hcontrol, hslash⟩ := not_or.1 hc
    exact ⟨_, rfl, .char (Nat.not_lt.1 hcontrol) hquote hslash ht⟩

/-! ## The parts of a number -/

/-- No digit stands at the start of the text. -/
def NoDigit (rest : List Char) : Prop :=
  ∀ c, rest.head? = some c → c.isDigit = false

theorem span_of_isRun {s rest : List Char} (h : IsRun s) (hrest : NoDigit rest) :
    (s ++ rest).span Char.isDigit = (s, rest) := by
  cases rest with
  | nil =>
    rw [List.append_nil]
    exact span_all h.digits
  | cons c rest => exact span_first h.digits (hrest c rfl) rest

theorem readRun_of_isRun {s rest : List Char} (h : IsRun s)
    (hrest : NoDigit rest) : readRun (s ++ rest) = some (s, rest) := by
  unfold readRun
  rw [span_of_isRun h hrest]
  split
  next heq => exact absurd (congrArg Prod.fst heq) h.ne_nil
  next => rfl

theorem readWhole_of_isRun {s rest : List Char} (h : IsRun s)
    (hzero : s.head? = some '0' → s = ['0']) (hrest : NoDigit rest) :
    readWhole (s ++ rest) = some (s, rest) := by
  unfold readWhole
  rw [readRun_of_isRun h hrest]
  split
  next heq =>
    simp only [Option.some.injEq, Prod.mk.injEq] at heq
    rw [heq.1] at hzero
    simp at hzero
  next => rfl

theorem readFraction_of_isFraction {s rest : List Char} (h : IsFraction s)
    (hrest : ∀ c, rest.head? = some c → c.isDigit = false ∧ c ≠ '.') :
    readFraction (s ++ rest) = some (s, rest) := by
  cases h with
  | absent =>
    rw [List.nil_append]
    unfold readFraction
    split
    · exact absurd rfl (hrest '.' rfl).2
    · rfl
  | present h =>
    rw [List.cons_append, readFraction, readRun_of_isRun h fun c hc => (hrest c hc).1]
    rfl

theorem readExponent_plain {e d : Char} (he : e = 'e' ∨ e = 'E') (hd : ¬(d = '+' ∨ d = '-'))
    (s : List Char) : readExponent (e :: d :: s) =
      (readRun (d :: s)).map fun (digits, left) => (e :: digits, left) :=
  (if_pos he).trans (if_neg hd)

theorem readExponent_signed {e sign : Char} (he : e = 'e' ∨ e = 'E')
    (hsign : sign = '+' ∨ sign = '-') (s : List Char) : readExponent (e :: sign :: s) =
      (readRun s).map fun (digits, left) => (e :: sign :: digits, left) :=
  (if_pos he).trans (if_pos hsign)

theorem readExponent_of_isExponent {s rest : List Char} (h : IsExponent s)
    (hrest : ∀ c, rest.head? = some c → c.isDigit = false ∧ c ≠ 'e' ∧ c ≠ 'E') :
    readExponent (s ++ rest) = some (s, rest) := by
  have hdigit : NoDigit rest := fun c hc => (hrest c hc).1
  cases h with
  | absent =>
    cases rest with
    | nil => rfl
    | cons c rest => exact if_neg (not_or.2 (hrest c rfl).2)
  | @plain e s he h =>
    obtain ⟨d, s, rfl⟩ := List.exists_cons_of_ne_nil h.ne_nil
    -- the first digit is no sign
    have hsign : ¬(d = '+' ∨ d = '-') := by
      have hd := h.digits d List.mem_cons_self
      rintro (rfl | rfl) <;> cases hd
    rw [List.cons_append, List.cons_append, readExponent_plain he hsign, ← List.cons_append,
      readRun_of_isRun h hdigit]
    rfl
  | @signed e sign s he hsign h =>
    rw [List.cons_append, List.cons_append, readExponent_signed he hsign,
      readRun_of_isRun h hdigit]
    rfl

theorem isRun_of_readRun {s digits left : List Char} (h : readRun s = some (digits, left)) :
    s = digits ++ left ∧ IsRun digits := by
  have hspan := List.span_eq_takeWhile_dropWhile Char.isDigit s
  unfold readRun at h
  split at h
  next => cases h
  next hne =>
    obtain ⟨rfl, rfl⟩ := Prod.mk.inj (hspan.symm.trans (Option.some.inj h))
    refine ⟨List.takeWhile_append_dropWhile.symm, fun hnil => ?_, fun c => List.mem_takeWhile_imp⟩
    exact hne _ (hspan.trans (by rw [hnil]))

theorem isRun_of_readWhole {s digits left : List Char} (h : readWhole s = some (digits, left)) :
    s = digits ++ left ∧ IsRun digits ∧ (digits.head? = some '0' → digits = ['0']) := by
  unfold readWhole at h
  split at h
  next => cases h
  next hzero =>
    obtain ⟨hs, hrun⟩ := isRun_of_readRun h
    refine ⟨hs, hrun, fun hhead => ?_⟩
    obtain ⟨more, rfl⟩ := List.head?_eq_some_iff.1 hhead
    cases more with
    | nil => rfl
    | cons c more => exact absurd h (hzero c more left)

theorem isFraction_of_readFraction {s fraction left : List Char}
    (h : readFraction s = some (fraction, left)) : s = fraction ++ left ∧ IsFraction fraction := by
  unfold readFraction at h
  split at h
  next rest =>
    obtain ⟨⟨digits, left⟩, hrun, h⟩ := Option.map_eq_some_iff.1 h
    cases h
    obtain ⟨rfl, hdigits⟩ := isRun_of_readRun hrun
    exact ⟨rfl, .present hdigits⟩
  next =>
    cases h
    exact ⟨rfl, .absent⟩

theorem isExponent_of_readExponent {s exponent left : List Char}
    (h : readExponent s = some (exponent, left)) : s = exponent ++ left ∧ IsExponent exponent := by
  unfold readExponent at h
  split at h
  next e rest =>
    split at h
    next he =>
      split at h
      next sign digits =>
        split at h
        next hsign =>
          obtain ⟨⟨run, left⟩, hrun, h⟩ := Option.map_eq_some_iff.1 h
          cases h
          obtain ⟨rfl, hdigits⟩ := isRun_of_readRun hrun
          exact ⟨rfl, .signed he hsign hdigits⟩
        next =>
          obtain ⟨⟨run, left⟩, hrun, h⟩ := Option.map_eq_some_iff.1 h
          cases h
          obtain ⟨hs, hdigits⟩ := isRun_of_readRun hrun
          exact ⟨congrArg (e :: ·) hs, .plain he hdigits⟩
      next => cases h
    next =>
      cases h
      exact ⟨rfl, .absent⟩
  next =>
    cases h
    exact ⟨rfl, .absent⟩

/-! ## Numbers -/

/-- What may stand behind a number: the end of the text, a space, or a mark between values. -/
def Ends (rest : List Char) : Prop :=
  ∀ c, rest.head? = some c → c ∈ [' ', '\n', '\t', '\r', ',', ']', '\x7d']

/-- What may stand behind a number does not continue it. -/
theorem Ends.ne_part {rest : List Char} (h : Ends rest) :
    ∀ c, rest.head? = some c → c.isDigit = false ∧ c ≠ '.' ∧ c ≠ 'e' ∧ c ≠ 'E' := by
  intro c hc
  have hall : [' ', '\n', '\t', '\r', ',', ']', '\x7d'].all fun c =>
      c.isDigit = false ∧ c ≠ '.' ∧ c ≠ 'e' ∧ c ≠ 'E' := by decide
  exact of_decide_eq_true (List.all_eq_true.1 hall c (h c hc))

theorem IsExponent.head {s rest : List Char} (h : IsExponent s) (hrest : Ends rest) :
    ∀ c, (s ++ rest).head? = some c → c.isDigit = false ∧ c ≠ '.' := by
  intro c hc
  cases h with
  | absent =>
    obtain ⟨hdigit, hpoint, -⟩ := hrest.ne_part c hc
    exact ⟨hdigit, hpoint⟩
  | plain he _ | signed he _ _ =>
    obtain rfl := Option.some.inj hc
    rcases he with rfl | rfl <;> decide

theorem IsFraction.head {s rest : List Char} (h : IsFraction s)
    (hrest : ∀ c, rest.head? = some c → c.isDigit = false ∧ c ≠ '.') : NoDigit (s ++ rest) := by
  intro c hc
  cases h with
  | absent => exact (hrest c hc).1
  | present _ =>
    obtain rfl := Option.some.inj hc
    rfl

theorem Ends.append {s rest : List Char} (hs : Spaces s) (h : Ends rest) : Ends (s ++ rest) := by
  cases s with
  | nil => exact h
  | cons c s =>
    intro d hd
    obtain rfl := Option.some.inj hd
    have hspace := hs c List.mem_cons_self
    simp only [isSpace, Bool.or_eq_true, beq_iff_eq] at hspace
    rcases hspace with ((rfl | rfl) | rfl) | rfl <;> decide

theorem Ends.of_mem {c : Char} (h : c ∈ [',', ']', '\x7d']) (s : List Char) : Ends (c :: s) := by
  intro d hd
  obtain rfl := Option.some.inj hd
  exact List.mem_append_right [' ', '\n', '\t', '\r'] h

/-- The parts of a number behind its sign. -/
def readParts (sign s : List Char) : Option (List Char × List Char) := do
  let (whole, s) ← readWhole s
  let (fraction, s) ← readFraction s
  let (exponent, s) ← readExponent s
  return (sign ++ whole ++ fraction ++ exponent, s)

theorem readNumber_minus (s : List Char) : readNumber ('-' :: s) = readParts ['-'] s := rfl

theorem readNumber_of_ne {s : List Char} (h : s.head? ≠ some '-') :
    readNumber s = readParts [] s := by
  unfold readNumber
  split
  next heq =>
    split at heq
    · exact absurd rfl h
    · cases heq
      rfl

theorem readNumber_of_isNumber {s rest : List Char} (h : IsNumber s) (hrest : Ends rest) :
    readNumber (s ++ rest) = some (s, rest) := by
  obtain @⟨sign, whole, fraction, exponent, hsign, hwhole, hzero, hfraction, hexponent⟩ := h
  have hparts : readParts sign (whole ++ (fraction ++ (exponent ++ rest))) =
      some (sign ++ whole ++ fraction ++ exponent, rest) := by
    unfold readParts
    rw [readWhole_of_isRun hwhole hzero (hfraction.head (hexponent.head hrest))]
    dsimp only [bind, Option.bind]
    rw [readFraction_of_isFraction hfraction (hexponent.head hrest)]
    dsimp only
    rw [readExponent_of_isExponent hexponent fun c hc =>
      ⟨(hrest.ne_part c hc).1, (hrest.ne_part c hc).2.2⟩]
    rfl
  have hminus : (whole ++ (fraction ++ (exponent ++ rest))).head? ≠ some '-' := by
    obtain ⟨d, whole, rfl⟩ := List.exists_cons_of_ne_nil hwhole.ne_nil
    intro hd
    obtain rfl := Option.some.inj hd
    cases hwhole.digits '-' List.mem_cons_self
  have happend : sign ++ whole ++ fraction ++ exponent ++ rest =
      sign ++ (whole ++ (fraction ++ (exponent ++ rest))) := by
    simp only [List.append_assoc]
  rw [happend, ← hparts]
  rcases hsign with rfl | rfl
  · exact readNumber_of_ne hminus
  · exact readNumber_minus _

theorem isNumber_of_readParts {sign s literal left : List Char} (hsign : sign = [] ∨ sign = ['-'])
    (h : readParts sign s = some (literal, left)) :
    sign ++ s = literal ++ left ∧ IsNumber literal := by
  simp only [readParts, Option.bind_eq_bind, Option.bind_eq_some_iff] at h
  obtain ⟨⟨whole, s₁⟩, hwhole, ⟨fraction, s₂⟩, hfraction, ⟨exponent, s₃⟩, hexponent, h⟩ := h
  cases h
  obtain ⟨rfl, hrun, hzero⟩ := isRun_of_readWhole hwhole
  obtain ⟨rfl, hpoint⟩ := isFraction_of_readFraction hfraction
  obtain ⟨rfl, hpower⟩ := isExponent_of_readExponent hexponent
  exact ⟨by simp only [List.append_assoc], .mk hsign hrun hzero hpoint hpower⟩

theorem isNumber_of_readNumber {s literal left : List Char}
    (h : readNumber s = some (literal, left)) : s = literal ++ left ∧ IsNumber literal := by
  by_cases hminus : s.head? = some '-'
  · obtain ⟨rest, rfl⟩ := List.head?_eq_some_iff.1 hminus
    exact isNumber_of_readParts (.inr rfl) h
  · rw [readNumber_of_ne hminus] at h
    exact isNumber_of_readParts (.inl rfl) h

/-! ## Words and numbers -/

/-- What starts with no letter is read as a number. -/
theorem readScalar_of_head {c : Char} (hc : c ∉ ['n', 't', 'f']) (s : List Char) :
    readScalar (c :: s) =
      (readNumber (c :: s)).map fun (literal, rest) => (.number literal, rest) := by
  have hword : ∀ d ∈ ['n', 't', 'f'], ∀ word, stripStart (d :: word) (c :: s) = none := by
    intro d hd word
    have hne : d ≠ c := by
      rintro rfl
      exact hc hd
    refine if_neg ?_
    simp [List.isPrefixOf, hne]
  have hnull : stripStart "null".toList (c :: s) = none := hword 'n' (by decide) _
  have htrue : stripStart "true".toList (c :: s) = none := hword 't' (by decide) _
  have hfalse : stripStart "false".toList (c :: s) = none := hword 'f' (by decide) _
  unfold readScalar
  rw [hnull, htrue, hfalse]

theorem readScalar_of_isNumber {s rest : List Char} (h : IsNumber s) (hrest : Ends rest) :
    readScalar (s ++ rest) = some (.number s, rest) := by
  have hnumber := readNumber_of_isNumber h hrest
  obtain ⟨c, t, rfl, hc⟩ := h.exists_head
  rw [List.cons_append] at hnumber ⊢
  rw [readScalar_of_head (not_mem_of_numeral hc (by decide)), hnumber]
  rfl

theorem spells_of_readScalar {s left : List Char} {value : Value}
    (h : readScalar s = some (value, left)) : ∃ t, s = t ++ left ∧ Spells t value := by
  unfold readScalar at h
  split at h
  next hnull =>
    cases h
    exact ⟨_, stripStart_eq_some_iff.1 hnull, .wordNull⟩
  next htrue _ =>
    cases h
    exact ⟨_, stripStart_eq_some_iff.1 htrue, .wordTrue⟩
  next hfalse _ _ =>
    cases h
    exact ⟨_, stripStart_eq_some_iff.1 hfalse, .wordFalse⟩
  next =>
    obtain ⟨⟨literal, left⟩, hnumber, h⟩ := Option.map_eq_some_iff.1 h
    cases h
    obtain ⟨rfl, hliteral⟩ := isNumber_of_readNumber hnumber
    exact ⟨literal, rfl, .number hliteral⟩

end SearchPath.Json
