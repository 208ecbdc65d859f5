import SearchPath.Proofs.Text.First
import SearchPath.Proofs.Url.Escaped

/-!
# Paths behind a URL

1. A literal path holds no character that means something in a URL. It is read name by name into
   what stands before it: segments (`readPath_append`), a query or a fragment (`tailAppend`).
2. A URL is extended by a path in its last part. Main result (`text_extend`): the path is written
   behind the URL, escaped as that part takes it, and no other path is written like that
   (`eq_of_percentEncode_eq`).
-/

namespace SearchPath.Url

open SearchPath.Text

/-! ## Text without percent signs -/

/-- The escape set holds everything outside ASCII. -/
def CoversBeyondAscii (escapes : Char → Bool) : Prop :=
  ∀ c, escapes c = false → c.toNat < 0x80

theorem coversBeyondAscii_of_isControl {escapes : Char → Bool}
    (h : ∀ c, isControl c = true → escapes c = true) : CoversBeyondAscii escapes := by
  intro c hc
  by_contra hlt
  have hcontrol : isControl c = true := by
    rw [isControl, Bool.or_eq_true, decide_eq_true_eq, decide_eq_true_eq]
    omega
  rw [h c hcontrol] at hc
  cases hc

theorem coversBeyondAscii_inFragment : CoversBeyondAscii inFragment :=
  coversBeyondAscii_of_isControl fun c h => by rw [inFragment, h, Bool.true_or]

theorem coversBeyondAscii_inPath : CoversBeyondAscii inPath :=
  coversBeyondAscii_of_isControl fun c h => by
    rw [inPath, inFragment, h, Bool.true_or, Bool.true_or]

theorem coversBeyondAscii_inQuery (special : Bool) : CoversBeyondAscii (inQuery special) :=
  coversBeyondAscii_of_isControl fun c h => by
    rw [inQuery, h, Bool.true_or, Bool.true_or]

/-- The escape set with the percent sign in it. -/
def withPercent (escapes : Char → Bool) (c : Char) : Bool :=
  escapes c || c == '%'

theorem reversible_withPercent {escapes : Char → Bool} (h : CoversBeyondAscii escapes) :
    Reversible (withPercent escapes) := by
  intro c hc
  rw [withPercent, Bool.or_eq_false_iff, beq_eq_false_iff_ne] at hc
  exact ⟨h c hc.1, hc.2⟩

theorem percentEncode_withPercent {s : List Char} (h : '%' ∉ s) (escapes : Char → Bool) :
    percentEncode (withPercent escapes) s = percentEncode escapes s := by
  unfold percentEncode
  refine List.flatMap_congr fun c hc => ?_
  have hne : (c == '%') = false := beq_eq_false_iff_ne.2 fun he => h (he ▸ hc)
  rw [withPercent, hne, Bool.or_false]

/-- Without percent signs, different texts are written differently. -/
theorem eq_of_percentEncode_eq {escapes : Char → Bool} (he : CoversBeyondAscii escapes)
    {s t : List Char} (hs : '%' ∉ s) (ht : '%' ∉ t)
    (h : percentEncode escapes s = percentEncode escapes t) : s = t := by
  rw [← percentEncode_withPercent hs, ← percentEncode_withPercent ht] at h
  exact percentEncode_injective (reversible_withPercent he) h

/-! ## Paths without marks -/

/-- The characters that mean something in a URL, other than a slash. -/
def marks : List Char := ['%', '?', '#', '\\', '\t', '\n', '\r']

/-- The path has names between its slashes, none of them a step, holds no character that means
something in a URL, and does not end in one that is dropped at the end of a URL. -/
structure IsLiteral (path : List Char) : Prop where
  names : ∀ name ∈ pieces '/' path, name ≠ [] ∧ name ≠ ['.'] ∧ name ≠ ['.', '.']
  no_mark : ∀ c ∈ path, c ∉ marks
  last_visible : ∀ c, path.getLast? = some c → 0x20 < c.toNat

instance (path : List Char) : Decidable (IsLiteral path) :=
  decidable_of_iff
    ((∀ name ∈ pieces '/' path, name ≠ [] ∧ name ≠ ['.'] ∧ name ≠ ['.', '.']) ∧
      path.all (· ∉ marks) = true ∧ path.getLast?.all (0x20 < ·.toNat) = true)
    ⟨fun h => ⟨h.1, List.all_iff_forall_prop.1 h.2.1, by simpa [Option.all_eq_true] using h.2.2⟩,
      fun h => ⟨h.names, List.all_iff_forall_prop.2 h.no_mark,
        by simpa [Option.all_eq_true] using h.last_visible⟩⟩

namespace IsLiteral

variable {path name : List Char}

theorem no_percent (h : IsLiteral path) : '%' ∉ path := fun hm => h.no_mark _ hm (by decide)

theorem no_break (h : IsLiteral path) : ∀ c ∈ path, isBreak c = false := by
  intro c hc
  simp only [isBreak, Bool.or_eq_false_iff, beq_eq_false_iff_ne]
  refine ⟨⟨?_, ?_⟩, ?_⟩ <;> rintro rfl <;> exact h.no_mark _ hc (by decide)

theorem visible_eq (h : IsLiteral path) : visible path = path :=
  visible_eq_self h.no_break

theorem ne_nil (h : IsLiteral path) : path ≠ [] := by
  rintro rfl
  exact (h.names [] (by decide)).1 rfl

theorem head_ne_slash (h : IsLiteral path) : path.head? ≠ some '/' := by
  intro hslash
  obtain ⟨rest, rfl⟩ := List.head?_eq_some_iff.1 hslash
  exact (h.names [] (by rw [pieces, if_pos rfl]; exact List.mem_cons_self)).1 rfl

/-- What is written for a name of the path stands for the name and is no step. -/
theorem name_written (h : IsLiteral path) (hn : name ∈ pieces '/' path) :
    visible name = name ∧ isSingleDot (percentEncode inPath name) = false ∧
      isDoubleDot (percentEncode inPath name) = false := by
  have hmem : ∀ c ∈ name, c ∈ path := fun c hc => mem_of_mem_pieces hn hc
  have hpercent : '%' ∉ name := fun hm => h.no_percent (hmem _ hm)
  obtain ⟨-, hhere, habove⟩ := h.names name hn
  have hrev := reversible_withPercent coversBeyondAscii_inPath
  rw [← percentEncode_withPercent hpercent]
  exact ⟨visible_eq_self fun c hc => h.no_break c (hmem c hc),
    isSingleDot_percentEncode hrev hhere, isDoubleDot_percentEncode hrev habove⟩

theorem written_ne_nil (h : IsLiteral path) (hn : name ∈ pieces '/' path) :
    percentEncode inPath name ≠ [] := fun he =>
  (h.names name hn).1 <| eq_of_percentEncode_eq coversBeyondAscii_inPath
    (fun hm => h.no_percent (mem_of_mem_pieces hn hm)) List.not_mem_nil he

theorem head?_percentEncode (h : IsLiteral path) {escapes : Char → Bool}
    (he : CoversBeyondAscii escapes) : (percentEncode escapes path).head? ≠ some '/' := by
  intro hslash
  obtain ⟨rest, hrest⟩ := List.head?_eq_some_iff.1 hslash
  have hfree : escapes '/' = false :=
    (slash_of_mem_percentEncode (hrest ▸ List.mem_cons_self)).2
  obtain ⟨first, more, hfirst⟩ := pieces_eq_cons '/' path
  have hmem : first ∈ pieces '/' path := hfirst ▸ List.mem_cons_self
  have hcut := pieces_percentEncode hfree path
  rw [hrest, hfirst, pieces, if_pos rfl, List.map_cons, List.cons.injEq] at hcut
  have hnil : first = [] :=
    eq_of_percentEncode_eq he (fun hm => h.no_percent (mem_of_mem_pieces hmem hm))
      List.not_mem_nil hcut.1.symm
  exact (h.names first hmem).1 hnil

end IsLiteral

/-! ## Texts that end in a slash -/

/-- The text is empty or ends in a slash. -/
def Closed (s : List Char) : Prop :=
  ∀ c, s.getLast? = some c → c = '/'

theorem Closed.of_suffix {s t : List Char} (h : Closed s) (ht : t <:+ s) : Closed t := by
  intro c hc
  obtain ⟨before, rfl⟩ := ht
  refine h c ?_
  rw [List.getLast?_append, hc]
  rfl

theorem Closed.map {s : List Char} (h : Closed s) {f : Char → Char} (hf : f '/' = '/') :
    Closed (s.map f) := by
  intro c hc
  rw [List.getLast?_map] at hc
  obtain ⟨last, hl, rfl⟩ := Option.map_eq_some_iff.1 hc
  rw [h last hl, hf]

/-- What stands behind a closed text does not change the pieces of it. -/
theorem Closed.exists_pieces {s : List Char} (h : Closed s) :
    ∃ before, ∀ t, pieces '/' (s ++ t) = before ++ pieces '/' t := by
  cases hs : s.getLast? with
  | none =>
    rw [List.getLast?_eq_none_iff.1 hs]
    exact ⟨[], fun _ => rfl⟩
  | some c =>
    obtain ⟨start, rfl⟩ := List.getLast?_eq_some_iff.1 hs
    obtain rfl := h c hs
    refine ⟨pieces '/' start, fun t => ?_⟩
    rw [List.append_assoc, List.singleton_append, pieces_append]

/-! ## Segments -/

variable {kind : Kind} {path raw : List Char}

theorem splitAtBreak_eq_none (h : ∀ c ∈ raw, isBreak c = false) : splitAtBreak raw = none := by
  have hdrop {s : List Char} (hs : ∀ c ∈ s, isBreak c = false) : s.dropWhile isBreak = s := by
    cases s with
    | nil => rfl
    | cons c s => exact List.dropWhile_cons_of_neg (by simp [hs c List.mem_cons_self])
  unfold splitAtBreak
  rw [hdrop h]
  cases raw with
  | nil => rfl
  | cons c raw =>
    dsimp only
    rw [hdrop fun d hd => h d (List.mem_cons_of_mem c hd)]
    split
    next b rest =>
      have hb : isBreak b = false := h b (by simp)
      exact if_neg (by simp [hb])
    next => rfl

/-- A segment without line breaks is put behind the others, unless it is the drive of a file. -/
theorem put_of_no_break (h : ∀ c ∈ raw, isBreak c = false) {st : Reading}
    (hd : kind = .file → st.done = [] → isDriveLetter (percentEncode inPath raw) = false) :
    st.put kind raw = { st with done := percentEncode inPath raw :: st.done } := by
  unfold Reading.put
  dsimp only
  rw [visible_eq_self h, splitAtBreak_eq_none h]
  split_ifs with hfirst hdrive
  · rw [hd hfirst.1 hfirst.2] at hdrive
    cases hdrive
  · rw [hfirst.2]
  · rfl

theorem readSegments_append (st : Reading) (before : List (List Char)) {rest : List (List Char)}
    (h : rest ≠ []) :
    readSegments kind st (before ++ rest) =
      readSegments kind (before.foldl (Reading.add kind) st) rest := by
  induction before generalizing st with
  | nil => rfl
  | cons raw before ih =>
    obtain ⟨next, more, hnext⟩ := List.exists_cons_of_ne_nil
      (List.append_ne_nil_of_right_ne_nil before h)
    rw [List.cons_append, hnext]
    show readSegments kind (st.add kind raw) (next :: more) = _
    rw [← hnext, ih]
    rfl

/-- An empty segment at the end stands for itself. -/
theorem readSegments_nil (st : Reading) :
    readSegments kind st [[]] = { st with done := [] :: st.done } := by
  show st.finish kind [] = _
  unfold Reading.finish
  dsimp only
  rw [if_neg (by decide), if_neg (by decide)]
  exact put_of_no_break (fun _ hc => absurd hc List.not_mem_nil) fun _ _ => rfl

/-- Names that are no steps and hold no line break are put one behind the other. -/
theorem readSegments_of_no_steps {names : List (List Char)} (hne : names ≠ [])
    (h : ∀ name ∈ names, visible name = name ∧ isSingleDot (percentEncode inPath name) = false ∧
      isDoubleDot (percentEncode inPath name) = false) {st : Reading}
    (hd : kind = .file → st.done = [] →
      ∀ name, names.head? = some name → isDriveLetter (percentEncode inPath name) = false) :
    readSegments kind st names =
      { st with done := (names.map (percentEncode inPath)).reverse ++ st.done } := by
  induction names generalizing st with
  | nil => exact absurd rfl hne
  | cons name rest ih =>
    obtain ⟨hvisible, hsingle, hdouble⟩ := h name List.mem_cons_self
    have hbreak : ∀ c ∈ name, isBreak c = false := by
      intro c hc
      rw [← hvisible] at hc
      simpa using (List.mem_filter.1 hc).2
    have hput : st.put kind name = _ := put_of_no_break hbreak fun hk hs => hd hk hs name rfl
    cases rest with
    | nil =>
      show st.finish kind name = _
      unfold Reading.finish
      dsimp only
      rw [hvisible, hsingle, hdouble, if_neg Bool.false_ne_true, if_neg Bool.false_ne_true, hput]
      rfl
    | cons next rest =>
      show readSegments kind (st.add kind name) (next :: rest) = _
      unfold Reading.add
      dsimp only
      rw [hvisible, hsingle, hdouble, if_neg Bool.false_ne_true, if_neg Bool.false_ne_true, hput,
        ih (List.cons_ne_nil next rest) (fun other ho => h other (List.mem_cons_of_mem name ho))
          fun _ hnil => absurd hnil (List.cons_ne_nil _ _)]
      simp

/-- The path starts with the letter of a drive. -/
def OnDrive (path : List Char) : Prop :=
  ∃ first, (pieces '/' path).head? = some first ∧ isDriveLetter first = true

theorem inPath_of_isAlpha {c : Char} (h : c.isAlpha = true) : inPath c = false := by
  have hletters : ∀ n < 0x80, (Char.ofNat n).isAlpha = true → inPath (Char.ofNat n) = false := by
    decide
  have hlt : c.toNat < 0x80 := by
    have := isAlpha_iff.1 h
    omega
  have hc := hletters c.toNat hlt
  rw [Char.ofNat_toNat] at hc
  exact hc h

theorem isDriveLetter_of_percentEncode {name : List Char} (hp : '%' ∉ name)
    (h : isDriveLetter (percentEncode inPath name) = true) : isDriveLetter name = true := by
  have hletter := h
  unfold isDriveLetter at h
  split at h
  next c d hname =>
    rw [Bool.and_eq_true, Bool.or_eq_true, beq_iff_eq, beq_iff_eq] at h
    have hc := inPath_of_isAlpha h.1
    have hd : inPath d = false ∧ d ≠ '%' := by
      rcases h.2 with rfl | rfl <;> decide
    have hself : percentEncode inPath [c, d] = [c, d] :=
      percentEncode_eq_self fun e he => by
        rcases List.mem_pair.1 he with rfl | rfl
        · exact hc
        · exact hd.1
    have hpercent : '%' ∉ [c, d] := by
      intro hm
      rcases List.mem_pair.1 hm with rfl | rfl
      · cases h.1
      · exact hd.2 rfl
    rw [eq_of_percentEncode_eq coversBeyondAscii_inPath hp hpercent (hname.trans hself.symm)]
    rwa [hname] at hletter
  next => cases h

/-- The text with slashes for backslashes where the kind takes them for slashes. -/
def slashes (kind : Kind) (s : List Char) : List Char :=
  if kind.special then s.map fun c => if c = '\\' then '/' else c else s

theorem readPath_eq (kind : Kind) (s : List Char) :
    readPath kind s =
      ((readSegments kind ⟨[], false⟩ (pieces '/' (slashes kind s))).done.reverse,
        (readSegments kind ⟨[], false⟩ (pieces '/' (slashes kind s))).drive) := rfl

theorem slashes_append (kind : Kind) (s t : List Char) :
    slashes kind (s ++ t) = slashes kind s ++ slashes kind t := by
  unfold slashes
  split_ifs
  · exact List.map_append
  · rfl

theorem slashes_eq_self {s : List Char} (h : '\\' ∉ s) : slashes kind s = s := by
  unfold slashes
  split_ifs
  · refine (List.map_congr_left fun c hc => ?_).trans (List.map_id s)
    exact if_neg fun he : c = '\\' => h (he ▸ hc)
  · rfl

theorem Closed.slashes {s : List Char} (h : Closed s) (kind : Kind) :
    Closed (slashes kind s) := by
  unfold Url.slashes
  split_ifs
  · exact h.map rfl
  · exact h

/-- A path behind a closed text adds its names, unless it starts on the drive of a file. -/
theorem readPath_append {s : List Char} (hs : Closed s) (kind : Kind) :
    ∃ done drive, readPath kind s = (done ++ [[]], drive) ∧
      ∀ path, IsLiteral path → (kind = .file → done = [] → ¬OnDrive path) →
        readPath kind (s ++ path) =
          (done ++ (pieces '/' path).map (percentEncode inPath), drive) := by
  obtain ⟨before, hbefore⟩ := (hs.slashes kind).exists_pieces
  have hread (rest : List (List Char)) (hne : rest ≠ []) :
      readSegments kind ⟨[], false⟩ (before ++ rest) = _ :=
    readSegments_append ⟨[], false⟩ before hne
  generalize before.foldl (Reading.add kind) ⟨[], false⟩ = st at hread
  refine ⟨st.done.reverse, st.drive, ?_, fun path hp hd => ?_⟩
  · have hnil := hbefore []
    rw [List.append_nil] at hnil
    rw [readPath_eq, hnil, hread _ (pieces_ne_nil '/' _), pieces_nil, readSegments_nil]
    exact congrArg (·, st.drive) List.reverse_cons
  · have hback : '\\' ∉ path := fun hm => hp.no_mark _ hm (by decide)
    have hfirst : kind = .file → st.done = [] →
        ∀ name, (pieces '/' path).head? = some name →
          isDriveLetter (percentEncode inPath name) = false := by
      intro hk hst name hname
      have hmem := List.mem_of_head? hname
      by_contra hdrive
      refine hd hk (by rw [hst]; rfl) ⟨name, hname, ?_⟩
      exact isDriveLetter_of_percentEncode
        (fun hm => hp.no_percent (mem_of_mem_pieces hmem hm)) (by simpa using hdrive)
    rw [readPath_eq, slashes_append, slashes_eq_self hback, hbefore,
      hread _ (pieces_ne_nil '/' path),
      readSegments_of_no_steps (pieces_ne_nil '/' path) (fun _ => hp.name_written) hfirst]
    simp

/-- Empty names at the start of the path of a file do not count, whatever follows them. -/
theorem filePath_append (done : List (List Char)) :
    ∃ kept, filePath (done ++ [[]]) = kept ++ [[]] ∧ ∀ first more, first ≠ [] →
      filePath (done ++ first :: more) = kept ++ first :: more := by
  unfold filePath
  cases hd : done.dropWhile (fun name => decide (name = [])) with
  | nil =>
    refine ⟨[], ?_, fun first more hne => ?_⟩
    · rw [List.dropWhile_append, hd]
      rfl
    · have hkeep : (first :: more).dropWhile (fun name => decide (name = [])) = first :: more :=
        List.dropWhile_cons_of_neg (by simpa using hne)
      rw [List.dropWhile_append, hd, List.isEmpty_nil, if_pos rfl, hkeep]
      rfl
  | cons name kept =>
    refine ⟨name :: kept, ?_, fun first more _ => ?_⟩
    · rw [List.dropWhile_append, hd]
      rfl
    · rw [List.dropWhile_append, hd]
      rfl

/-! ## Queries and fragments -/

theorem visible_append (s t : List Char) : visible (s ++ t) = visible s ++ visible t :=
  List.filter_append s t

section Tail

variable {before rest : List Char} (special : Bool)

theorem splitTail_none (h : ∀ c ∈ before, c ≠ '?' ∧ c ≠ '#') :
    splitTail special before = (before, none, none) := by
  unfold splitTail
  rw [span_all fun c hc => decide_eq_true (h c hc)]
  rfl

theorem splitTail_fragment (h : ∀ c ∈ before, c ≠ '?' ∧ c ≠ '#') (rest : List Char) :
    splitTail special (before ++ '#' :: rest) =
      (before, none, some (percentEncode inFragment (visible rest))) := by
  unfold splitTail
  rw [span_first (fun c hc => decide_eq_true (h c hc)) (by decide)]
  dsimp only
  rw [visible_cons (by decide)]
  rfl

theorem splitTail_query (h : ∀ c ∈ before, c ≠ '?' ∧ c ≠ '#') (hr : '#' ∉ rest) :
    splitTail special (before ++ '?' :: rest) =
      (before, some (percentEncode (inQuery special) (visible rest)), none) := by
  have hspan : (visible rest).span (· ≠ '#') = (visible rest, []) :=
    span_all fun c hc => decide_eq_true (p := c ≠ '#') fun he =>
      hr (he ▸ List.mem_of_mem_filter hc)
  unfold splitTail
  rw [span_first (fun c hc => decide_eq_true (h c hc)) (by decide)]
  dsimp only
  rw [visible_cons (by decide)]
  simp only [hspan]
  rfl

theorem splitTail_query_fragment (h : ∀ c ∈ before, c ≠ '?' ∧ c ≠ '#') {query : List Char}
    (hq : '#' ∉ query) (rest : List Char) :
    splitTail special (before ++ '?' :: (query ++ '#' :: rest)) =
      (before, some (percentEncode (inQuery special) (visible query)),
        some (percentEncode inFragment (visible rest))) := by
  have hspan : (visible (query ++ '#' :: rest)).span (· ≠ '#') =
      (visible query, '#' :: visible rest) := by
    rw [visible_append, visible_cons (by decide)]
    exact span_first (fun c hc => decide_eq_true (p := c ≠ '#') fun he =>
      hq (he ▸ List.mem_of_mem_filter hc)) (by decide) _
  unfold splitTail
  rw [span_first (fun c hc => decide_eq_true (h c hc)) (by decide)]
  dsimp only
  rw [visible_cons (by decide)]
  simp only [hspan]
  rfl

end Tail

/-- The ways to cut a text into path, query and fragment: what stands behind the text belongs to
the last of them. -/
inductive TailAppend (special : Bool) (s : List Char) : Prop
  | path (h : splitTail special s = (s, none, none))
      (hp : ∀ path, IsLiteral path → splitTail special (s ++ path) = (s ++ path, none, none))
  | query (before query : List Char) (h : splitTail special s = (before, some query, none))
      (hp : ∀ path, IsLiteral path → splitTail special (s ++ path) =
        (before, some (query ++ percentEncode (inQuery special) path), none))
  | fragment (before : List Char) (query : Option (List Char)) (fragment : List Char)
      (h : splitTail special s = (before, query, some fragment))
      (hp : ∀ path, IsLiteral path → splitTail special (s ++ path) =
        (before, query, some (fragment ++ percentEncode inFragment path)))

theorem tailAppend (special : Bool) (s : List Char) : TailAppend special s := by
  have hbehind (escapes : Char → Bool) (rest : List Char) {path : List Char} (hp : IsLiteral path) :
      percentEncode escapes (visible (rest ++ path)) =
        percentEncode escapes (visible rest) ++ percentEncode escapes path := by
    rw [visible_append, hp.visible_eq, percentEncode_append]
  by_cases hs : ∃ c ∈ s, decide (c ≠ '?' ∧ c ≠ '#') = false
  · obtain ⟨before, c, rest, rfl, hb, hc⟩ := exists_first hs
    have hbefore : ∀ d ∈ before, d ≠ '?' ∧ d ≠ '#' := fun d hd => of_decide_eq_true (hb d hd)
    rcases (Decidable.not_and_iff_or_not.1 (of_decide_eq_false hc)).imp not_not.1 not_not.1
      with rfl | rfl
    · by_cases hr : '#' ∈ rest
      · obtain ⟨query, d, rest, rfl, hq, hd⟩ :=
          exists_first (p := fun d => decide (d ≠ '#')) ⟨'#', hr, by decide⟩
        obtain rfl := not_not.1 (of_decide_eq_false hd)
        have hquery : '#' ∉ query := fun hm => of_decide_eq_true (hq _ hm) rfl
        refine .fragment _ _ _ (splitTail_query_fragment special hbefore hquery rest)
          fun path hp => ?_
        rw [← hbehind inFragment rest hp,
          ← splitTail_query_fragment special hbefore hquery (rest ++ path)]
        simp
      · refine .query _ _ (splitTail_query special hbefore hr) fun path hp => ?_
        have hmarks : '#' ∉ rest ++ path := by
          rw [List.mem_append, not_or]
          exact ⟨hr, fun hm => hp.no_mark _ hm (by decide)⟩
        rw [← hbehind (inQuery special) rest hp, ← splitTail_query special hbefore hmarks,
          List.append_assoc]
        rfl
    · refine .fragment _ _ _ (splitTail_fragment special hbefore rest) fun path hp => ?_
      rw [← hbehind inFragment rest hp, ← splitTail_fragment special hbefore (rest ++ path),
        List.append_assoc]
      rfl
  · have hfree : ∀ c ∈ s, c ≠ '?' ∧ c ≠ '#' := fun c hc =>
      of_decide_eq_true (Bool.not_eq_false _ ▸ fun he => hs ⟨c, hc, he⟩)
    refine .path (splitTail_none special hfree) fun path hp => splitTail_none special fun c hc => ?_
    rcases List.mem_append.1 hc with hc | hc
    · exact hfree c hc
    · constructor <;> rintro rfl <;> exact hp.no_mark _ hc (by decide)

/-! ## Extending a path -/

/-- What is escaped in the path. -/
def Path.escapes : Path → Char → Bool
  | .verbatim _ => isControl
  | .segments _ => inPath

/-- The path with another behind it, the names of which take the place of the last segment. -/
def Path.extend (path : Path) (added : List Char) : Path :=
  match path with
  | .verbatim text => .verbatim (text ++ percentEncode isControl added)
  | .segments names =>
    .segments (names.dropLast ++ (pieces '/' added).map (percentEncode inPath))

/-- The last segment is empty, or the path is some other text. -/
def Path.IsOpen : Path → Prop
  | .verbatim text => text ≠ []
  | .segments names => names.getLast? = some []

theorem Path.coversBeyondAscii_escapes (path : Path) : CoversBeyondAscii path.escapes := by
  cases path with
  | verbatim text => exact coversBeyondAscii_of_isControl fun _ h => h
  | segments names => exact coversBeyondAscii_inPath

theorem slashed_eq_join {names : List (List Char)} (h : names ≠ []) :
    slashed names = '/' :: join '/' names := by
  induction names with
  | nil => exact absurd rfl h
  | cons name rest ih =>
    cases rest with
    | nil => exact List.append_nil _
    | cons next rest =>
      have hne := List.cons_ne_nil next rest
      rw [join_cons_ne_nil '/' name hne]
      show '/' :: (name ++ slashed (next :: rest)) = _
      rw [ih hne]

theorem slashed_append (names others : List (List Char)) :
    slashed (names ++ others) = slashed names ++ slashed others :=
  List.flatMap_append

theorem Path.text_ne_nil {path : Path} (h : path.IsOpen) : path.text ≠ [] := by
  cases path with
  | verbatim text => exact h
  | segments names =>
    have hne : names ≠ [] := by
      rintro rfl
      cases h
    show slashed names ≠ []
    rw [slashed_eq_join hne]
    exact List.cons_ne_nil _ _

theorem Path.text_extend {path : Path} (h : path.IsOpen) (added : List Char) :
    (path.extend added).text = path.text ++ percentEncode path.escapes added := by
  cases path with
  | verbatim text => rfl
  | segments names =>
    obtain ⟨done, rfl⟩ := List.getLast?_eq_some_iff.1 h
    show slashed _ = slashed _ ++ percentEncode inPath added
    rw [List.dropLast_concat, ← pieces_percentEncode (by decide), slashed_append, slashed_append,
      slashed_eq_join (pieces_ne_nil _ _), join_pieces, List.append_assoc]
    rfl

/-! ## Extending a URL -/

/-- What is escaped in the last part of the URL. -/
def escapesBehind (url : Url) : Char → Bool :=
  match url.fragment, url.query with
  | some _, _ => inFragment
  | none, some _ => inQuery (Kind.ofScheme url.scheme).special
  | none, none => url.path.escapes

/-- The URL with a path in its last part. -/
def extend (url : Url) (added : List Char) : Url :=
  match url.fragment, url.query with
  | some fragment, _ =>
    { url with fragment := some (fragment ++ percentEncode url.escapesBehind added) }
  | none, some query => { url with query := some (query ++ percentEncode url.escapesBehind added) }
  | none, none => { url with path := url.path.extend added }

/-- The last part of the URL can be extended. -/
def IsOpen (url : Url) : Prop :=
  url.fragment = none → url.query = none → url.path.IsOpen

theorem coversBeyondAscii_escapesBehind (url : Url) : CoversBeyondAscii url.escapesBehind := by
  unfold escapesBehind
  split
  · exact coversBeyondAscii_inFragment
  · exact coversBeyondAscii_inQuery _
  · exact url.path.coversBeyondAscii_escapes

theorem isPrefixOf_append {s t : List Char} (hs : s ≠ []) (ht : t.head? ≠ some '/') :
    ['/', '/'].isPrefixOf (s ++ t) = ['/', '/'].isPrefixOf s := by
  match s with
  | [] => exact absurd rfl hs
  | [a] =>
    cases t with
    | nil => rfl
    | cons b t =>
      have hb : ('/' == b) = false := beq_eq_false_iff_ne.2 fun he => ht (he ▸ rfl)
      simp [List.isPrefixOf, hb]
  | a :: b :: s => rfl

theorem beforePath_congr {url other : Url} (ha : url.authority = other.authority)
    (hp : ['/', '/'].isPrefixOf url.path.text = ['/', '/'].isPrefixOf other.path.text) :
    url.beforePath = other.beforePath := by
  unfold beforePath
  simp only [ha, hp]

/-- **Behind a URL.** The path is written behind the URL, escaped as its last part takes it. -/
theorem text_extend {url : Url} (ho : url.IsOpen) {added : List Char} (h : IsLiteral added) :
    (url.extend added).text = url.text ++ percentEncode url.escapesBehind added := by
  cases hf : url.fragment with
  | some fragment =>
    simp [extend, hf, text, beforePath]
  | none =>
    cases hq : url.query with
    | some query => simp [extend, hf, hq, text, beforePath]
    | none =>
      have hopen := ho hf hq
      have hbefore : (url.extend added).beforePath = url.beforePath := by
        unfold extend
        rw [hf, hq]
        refine beforePath_congr rfl ?_
        dsimp only
        rw [Path.text_extend hopen]
        exact isPrefixOf_append (Path.text_ne_nil hopen)
          (h.head?_percentEncode url.path.coversBeyondAscii_escapes)
      unfold text
      rw [hbefore]
      simp [extend, escapesBehind, hf, hq, Path.text_extend hopen]

end SearchPath.Url
