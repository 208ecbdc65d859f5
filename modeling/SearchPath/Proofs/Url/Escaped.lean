import Mathlib.Data.List.TakeDrop
import SearchPath.Proofs.Text.Utf8
import SearchPath.Proofs.Url.File
import SearchPath.Proofs.Url.Scheme

/-!
# Files named by an escaped path

A path is written into a URL by escaping everything but letters, digits, `-._~` and slashes.

1. What is written holds nothing that a URL reads in another way (`isWritten_facts`), and each name
   in it is read as that name, not as a step (`isDoubleDot_percentEncode`,
   `isSingleDot_percentEncode`).
2. `file:` and what is written is always a URL (`parse_file`, `parseFile_relative`).
3. Main statement: behind a slash it names the file at that path, but for a slash behind what ends
   like a drive (`filePath?_escapePath`).
-/

namespace SearchPath.Url

open SearchPath.Text

/-! ## Escaping -/

/-- A letter, a digit, one of `-._~`, or a slash. -/
def isPlain (c : Char) : Bool :=
  c.isAlphanum || ['-', '.', '_', '~', '/'].contains c

/-- The path with everything escaped that is not plain. -/
def escapePath (path : List Char) : List Char :=
  percentEncode (fun c => !isPlain c) path

/-- A character of an escaped path. -/
def isWritten (c : Char) : Bool :=
  isPlain c || c == '%'

theorem toNat_lt_of_isPlain {c : Char} (h : isPlain c = true) : c.toNat < 0x80 := by
  simp only [isPlain, Char.isAlphanum, Bool.or_eq_true, List.contains_iff_mem, List.mem_cons,
    List.not_mem_nil, or_false] at h
  rcases h with (hletter | hdigit) | rfl | rfl | rfl | rfl | rfl
  · have := isAlpha_iff.1 hletter
    omega
  · have hle : c.val ≤ 57 := of_decide_eq_true (Bool.and_eq_true_iff.1 hdigit).2
    have hnat : c.toNat ≤ 57 := UInt32.le_iff_toNat_le.1 hle
    omega
  all_goals decide

theorem isWritten_of_isPlain {c : Char} (h : isPlain c = true) : isWritten c = true := by
  rw [isWritten, h, Bool.true_or]

theorem toNat_lt_of_isWritten {c : Char} (h : isWritten c = true) : c.toNat < 0x80 := by
  rw [isWritten, Bool.or_eq_true, beq_iff_eq] at h
  rcases h with h | rfl
  · exact toNat_lt_of_isPlain h
  · decide

/-- A property of the characters of an escaped path is a property of finitely many characters. -/
theorem of_isWritten {p : Char → Prop} (h : ∀ n < 0x80, isWritten (Char.ofNat n) = true →
    p (Char.ofNat n)) {c : Char} (hc : isWritten c = true) : p c := by
  have hn := h c.toNat (toNat_lt_of_isWritten hc)
  rw [Char.ofNat_toNat] at hn
  exact hn hc

/-- Nothing in an escaped path is read by a URL in another way. -/
theorem isWritten_facts {c : Char} (h : isWritten c = true) :
    0x20 < c.toNat ∧ isBreak c = false ∧ inPath c = false ∧ isBlank c = false ∧
      c ∉ ['\\', '?', '#', ':', '|'] :=
  of_isWritten (p := fun c => 0x20 < c.toNat ∧ isBreak c = false ∧ inPath c = false ∧
    isBlank c = false ∧ c ∉ ['\\', '?', '#', ':', '|']) (by decide) h

theorem reversible_plain : Reversible fun c => !isPlain c := by
  intro c h
  have hc : isPlain c = true := by simpa using h
  refine ⟨toNat_lt_of_isPlain hc, ?_⟩
  rintro rfl
  cases hc

theorem escapePath_injective : Function.Injective escapePath :=
  percentEncode_injective reversible_plain

theorem escapePath_append (s t : List Char) : escapePath (s ++ t) = escapePath s ++ escapePath t :=
  percentEncode_append _ s t

theorem escapePath_cons (c : Char) (path : List Char) :
    escapePath (c :: path) = escapePath [c] ++ escapePath path :=
  escapePath_append [c] path

theorem escapePath_singleton {c : Char} (h : isPlain c = true) : escapePath [c] = [c] :=
  percentEncode_eq_self fun d hd => by simp [List.mem_singleton.1 hd, h]

theorem isWritten_hexDigit {m : Nat} (h : m < 16) : isWritten (hexDigit m) = true := by
  have hall : ∀ m < 16, isWritten (hexDigit m) = true := by decide
  exact hall m h

theorem isWritten_of_mem {path : List Char} {c : Char} (h : c ∈ escapePath path) :
    isWritten c = true := by
  obtain ⟨d, -, hd⟩ := List.mem_flatMap.1 h
  split_ifs at hd with he
  · obtain ⟨b, -, hb⟩ := List.mem_flatMap.1 hd
    have hlt := b.toNat_lt
    simp only [escapeOctet, List.mem_cons, List.not_mem_nil, or_false] at hb
    rcases hb with rfl | rfl | rfl
    · decide
    · exact isWritten_hexDigit (by omega)
    · exact isWritten_hexDigit (by omega)
  · rw [List.mem_singleton.1 hd]
    exact isWritten_of_isPlain (by simpa using he)

theorem slash_not_mem_escapePath {s : List Char} (h : '/' ∉ s) : '/' ∉ escapePath s :=
  fun hm => h (slash_of_mem_percentEncode hm).1

theorem escapePath_ne_nil {s : List Char} (h : s ≠ []) : escapePath s ≠ [] :=
  fun he => h (escapePath_injective he)

/-- A path is cut at its slashes before it is escaped or behind. -/
theorem pieces_percentEncode {escapes : Char → Bool} (h : escapes '/' = false)
    (path : List Char) :
    pieces '/' (percentEncode escapes path) = (pieces '/' path).map (percentEncode escapes) := by
  induction path with
  | nil => rfl
  | cons c path ih =>
    have hcons (rest : List Char) : percentEncode escapes (c :: rest) =
        percentEncode escapes [c] ++ percentEncode escapes rest :=
      percentEncode_append escapes [c] rest
    rw [hcons, pieces]
    by_cases hc : c = '/'
    · have hself : percentEncode escapes ['/'] = ['/'] :=
        percentEncode_eq_self fun d hd => by rw [List.mem_singleton.1 hd, h]
      subst hc
      rw [hself, List.singleton_append, pieces, if_pos rfl, if_pos rfl, ih]
      rfl
    · have hfree : '/' ∉ percentEncode escapes [c] := fun hm =>
        hc (List.mem_singleton.1 (slash_of_mem_percentEncode hm).1).symm
      obtain ⟨p, ps, hp⟩ := pieces_eq_cons '/' path
      rw [pieces_append_of_not_mem hfree, ih, if_neg hc, hp]
      simp only [List.map_cons, List.modifyHead_cons]
      rw [← hcons]

theorem pieces_escapePath (path : List Char) :
    pieces '/' (escapePath path) = (pieces '/' path).map escapePath :=
  pieces_percentEncode (by decide) path

/-! ## Names and steps -/

/-- The octets that are read from an escaped path are those of the path. -/
theorem percentDecode_escapePath (path : List Char) :
    percentDecode (encode (escapePath path)) = encode path :=
  percentDecode_percentEncode reversible_plain path

/-- A dot in one of its spellings, at the start of a text, is read as a dot. -/
theorem percentDecode_dot {s t : List Char}
    (h : s.map Char.toLower = '.' :: t ∨ s.map Char.toLower = '%' :: '2' :: 'e' :: t) :
    ∃ rest, rest.map Char.toLower = t ∧
      percentDecode (encode s) = 0x2E :: percentDecode (encode rest) := by
  have hdot : encode ['.'] = [0x2E] := by decide
  rcases h with h | h
  · obtain ⟨c, rest, rfl, hc, hrest⟩ := List.map_eq_cons_iff.1 h
    obtain rfl := eq_of_toLower_eq (by decide) hc
    refine ⟨rest, hrest, ?_⟩
    rw [← List.singleton_append, encode_append, hdot, List.singleton_append,
      percentDecode_cons_of_ne (by decide)]
  · obtain ⟨c, s, rfl, hc, h⟩ := List.map_eq_cons_iff.1 h
    obtain ⟨d, s, rfl, hd, h⟩ := List.map_eq_cons_iff.1 h
    obtain ⟨e, rest, rfl, he, hrest⟩ := List.map_eq_cons_iff.1 h
    obtain rfl := eq_of_toLower_eq (by decide) hc
    obtain rfl := eq_of_toLower_eq (by decide) hd
    refine ⟨rest, hrest, ?_⟩
    have hescape : ∃ o, encode ['%', '2', e] = [0x25, 0x32, o] ∧ hexValue o = some 14 := by
      rcases eq_of_toLower_eq_e he with rfl | rfl
      · exact ⟨0x65, by decide, by decide⟩
      · exact ⟨0x45, by decide, by decide⟩
    obtain ⟨o, hencode, ho⟩ := hescape
    have htwo : hexValue 0x32 = some 2 := by decide
    show percentDecode (encode (['%', '2', e] ++ rest)) = _
    rw [encode_append, hencode]
    simp only [List.cons_append, List.nil_append, percentDecode, htwo, ho]
    rfl

theorem percentDecode_of_isSingleDot {s : List Char} (h : isSingleDot s = true) :
    percentDecode (encode s) = encode ['.'] := by
  have hspelled :
      s.map Char.toLower = '.' :: [] ∨ s.map Char.toLower = '%' :: '2' :: 'e' :: [] := by
    simpa [isSingleDot, ← String.toList_inj] using h
  obtain ⟨rest, hrest, hdecode⟩ := percentDecode_dot hspelled
  rw [hdecode, List.map_eq_nil_iff.1 hrest]
  decide

theorem percentDecode_of_isDoubleDot {s : List Char} (h : isDoubleDot s = true) :
    percentDecode (encode s) = encode ['.', '.'] := by
  have hspelled : ∃ t, (t = '.' :: [] ∨ t = '%' :: '2' :: 'e' :: []) ∧
      (s.map Char.toLower = '.' :: t ∨ s.map Char.toLower = '%' :: '2' :: 'e' :: t) := by
    have hcases : s.map Char.toLower = ['.', '.'] ∨ s.map Char.toLower = ['%', '2', 'e', '.'] ∨
        s.map Char.toLower = ['.', '%', '2', 'e'] ∨
        s.map Char.toLower = ['%', '2', 'e', '%', '2', 'e'] := by
      simpa [isDoubleDot, ← String.toList_inj] using h
    rcases hcases with h | h | h | h
    · exact ⟨_, .inl rfl, .inl h⟩
    · exact ⟨_, .inl rfl, .inr h⟩
    · exact ⟨_, .inr rfl, .inl h⟩
    · exact ⟨_, .inr rfl, .inr h⟩
  obtain ⟨t, ht, hfirst⟩ := hspelled
  obtain ⟨rest, hrest, hdecode⟩ := percentDecode_dot hfirst
  obtain ⟨last, hlast, hdecode'⟩ := percentDecode_dot (hrest ▸ ht)
  rw [hdecode, hdecode', List.map_eq_nil_iff.1 hlast]
  decide

/-- What is written for a name is a step only if the name is. -/
theorem isSingleDot_percentEncode {escapes : Char → Bool} (he : Reversible escapes)
    {name : List Char} (h : name ≠ ['.']) : isSingleDot (percentEncode escapes name) = false := by
  by_contra hdot
  have hdecode := percentDecode_of_isSingleDot (by simpa using hdot)
  rw [percentDecode_percentEncode he] at hdecode
  exact h (encode_injective hdecode)

theorem isDoubleDot_percentEncode {escapes : Char → Bool} (he : Reversible escapes)
    {name : List Char} (h : name ≠ ['.', '.']) :
    isDoubleDot (percentEncode escapes name) = false := by
  by_contra hdot
  have hdecode := percentDecode_of_isDoubleDot (by simpa using hdot)
  rw [percentDecode_percentEncode he] at hdecode
  exact h (encode_injective hdecode)

/-! ## Reading the URL -/

variable {s : List Char}

theorem visible_eq_self (h : ∀ c ∈ s, isBreak c = false) : visible s = s :=
  List.filter_eq_self.2 fun c hc => by rw [h c hc]; rfl

theorem strip_eq_self (h : ∀ c ∈ s, 0x20 < c.toNat) : strip s = s :=
  trimBoth_eq_self
    (fun c hc => decide_eq_false (Nat.not_le_of_lt (h c (List.mem_of_head? hc))))
    (fun c hc => decide_eq_false (Nat.not_le_of_lt (h c (List.mem_of_getLast? hc))))

/-- What stands behind `file:` is read as a file. -/
theorem parse_file (h : ∀ c ∈ s, isWritten c = true) :
    parse ("file:".toList ++ s) = parseFile s := by
  have hall : ∀ c ∈ "file:".toList ++ s, 0x20 < c.toNat ∧ isBreak c = false := by
    intro c hc
    rcases List.mem_append.1 hc with hc | hc
    · have hfile : ∀ c ∈ "file:".toList, 0x20 < c.toNat ∧ isBreak c = false :=
        List.all_iff_forall_prop.1 (by decide)
      exact hfile c hc
    · exact ⟨(isWritten_facts (h c hc)).1, (isWritten_facts (h c hc)).2.1⟩
  have hscheme : readScheme ("file:".toList ++ s) = some ("file".toList, s) := by
    show readScheme ('f' :: 'i' :: 'l' :: 'e' :: ':' :: s) = _
    unfold readScheme
    dsimp only
    rw [if_pos (by decide), List.span_eq_takeWhile_dropWhile]
    rfl
  unfold parse
  dsimp only
  rw [strip_eq_self fun c hc => (hall c hc).1, visible_eq_self fun c hc => (hall c hc).2, hscheme]
  rfl

theorem dropSlash?_slash (s : List Char) : dropSlash? .file ('/' :: s) = some s := by
  have hslash : ('/' :: s).dropWhile isBreak = '/' :: s :=
    List.dropWhile_cons_of_neg (by decide)
  rw [dropSlash?, hslash]
  exact if_pos (.inl rfl)

theorem dropSlash?_eq_none (h : ∀ c ∈ s, isWritten c = true) (hs : s.head? ≠ some '/') :
    dropSlash? .file s = none := by
  cases s with
  | nil => rfl
  | cons c s =>
    obtain ⟨-, hbreak, -, -, hc⟩ := isWritten_facts (h c List.mem_cons_self)
    have hslash : c ≠ '/' := fun he => hs (congrArg some he)
    have hbackslash : c ≠ '\\' := fun he => hc (by simp [he])
    rw [dropSlash?, List.dropWhile_cons_of_neg (by simp [hbreak])]
    exact if_neg (by simp [hslash, hbackslash])

/-- Where no slash stands behind `file:`, there is no host to be misread. -/
theorem parseFile_relative (h : ∀ c ∈ s, isWritten c = true) (hs : s.head? ≠ some '/') :
    ∃ url, parseFile s = .ok url := by
  have hhost : readFileHost s = .ok (none, s) := by
    unfold readFileHost
    rw [dropSlash?_eq_none h hs]
    rfl
  unfold parseFile
  rw [hhost]
  exact ⟨_, rfl⟩

theorem splitTail_written (h : ∀ c ∈ s, isWritten c = true) :
    splitTail true s = (s, none, none) := by
  have hspan : s.span (fun c => decide (c ≠ '?' ∧ c ≠ '#')) = (s, []) := by
    have hplain : ∀ c ∈ s, decide (c ≠ '?' ∧ c ≠ '#') = true := by
      intro c hc
      obtain ⟨-, -, -, -, hfacts⟩ := isWritten_facts (h c hc)
      refine decide_eq_true ⟨?_, ?_⟩ <;> rintro rfl <;> exact hfacts (by decide)
    rw [List.span_eq_takeWhile_dropWhile, List.takeWhile_eq_self_iff.2 hplain,
      List.dropWhile_eq_nil_iff.2 hplain]
  unfold splitTail
  rw [hspan]
  rfl

theorem percentEncode_visible (h : ∀ c ∈ s, isWritten c = true) :
    percentEncode inPath (visible s) = s := by
  rw [visible_eq_self fun c hc => (isWritten_facts (h c hc)).2.1,
    percentEncode_eq_self fun c hc => (isWritten_facts (h c hc)).2.2.1]

/-- No escaped name is read as a drive. -/
theorem put_written (st : Reading) (h : ∀ c ∈ s, isWritten c = true) :
    st.put .file s = { st with done := s :: st.done } := by
  have hfree : ':' ∉ s ∧ '|' ∉ s := by
    constructor <;> intro hm <;> exact (isWritten_facts (h _ hm)).2.2.2.2 (by decide)
  have hbreak : splitAtBreak s = none := by
    unfold splitAtBreak
    split
    next => rfl
    next c rest hrest =>
      split
      next b rest' hrest' =>
        have hm : ':' ∈ rest := (List.dropWhile_sublist isBreak).subset
          (hrest' ▸ List.mem_cons_self)
        have hm' : ':' ∈ s := (List.dropWhile_sublist isBreak).subset
          (hrest ▸ List.mem_cons_of_mem c hm)
        exact absurd hm' hfree.1
      next => rfl
  have hdrive : isDriveLetter s = false := by
    unfold isDriveLetter
    split
    next c d =>
      have hd : d ≠ ':' ∧ d ≠ '|' := by
        constructor <;> rintro rfl <;> simp at hfree
      simp [hd.1, hd.2]
    next => rfl
  unfold Reading.put
  dsimp only
  rw [percentEncode_visible h, hbreak]
  dsimp only
  rw [hdrive, if_neg Bool.false_ne_true]
  split_ifs with hfirst
  · rw [hfirst.2]
  · rfl

/-- Names that are no steps are read one after the other. -/
theorem readSegments_written {names : List (List Char)}
    (h : ∀ name ∈ names, (∀ c ∈ name, isWritten c = true) ∧ isSingleDot name = false ∧
      isDoubleDot name = false) (st : Reading) :
    readSegments .file st names = { st with done := names.reverse ++ st.done } := by
  induction names generalizing st with
  | nil => rfl
  | cons name rest ih =>
    obtain ⟨hwritten, hsingle, hdouble⟩ := h name List.mem_cons_self
    have hrest := ih fun other ho => h other (List.mem_cons_of_mem name ho)
    cases rest with
    | nil =>
      show st.finish .file name = _
      unfold Reading.finish
      dsimp only
      rw [percentEncode_visible hwritten, hsingle, hdouble, if_neg Bool.false_ne_true,
        if_neg Bool.false_ne_true, put_written st hwritten]
      rfl
    | cons next rest =>
      show readSegments .file (st.add .file name) (next :: rest) = _
      rw [hrest]
      unfold Reading.add
      dsimp only
      rw [percentEncode_visible hwritten, hsingle, hdouble, if_neg Bool.false_ne_true,
        if_neg Bool.false_ne_true, put_written st hwritten]
      simp

/-- The names of an absolute path that are no steps. -/
def NoSteps (path : List Char) : Prop :=
  path.head? ≠ some '/' ∧ ∀ name ∈ pieces '/' path, name ≠ ['.'] ∧ name ≠ ['.', '.']

theorem head?_escapePath {path : List Char} (h : path.head? ≠ some '/') :
    (escapePath path).head? ≠ some '/' := by
  cases path with
  | nil => simp [escapePath]
  | cons c path =>
    have hc : '/' ∉ escapePath [c] :=
      slash_not_mem_escapePath (by simpa [eq_comm] using h)
    have hne : escapePath [c] ≠ [] := escapePath_ne_nil (List.cons_ne_nil c [])
    rw [escapePath_cons]
    intro hhead
    rw [List.head?_append_of_ne_nil _ hne] at hhead
    exact hc (List.mem_of_head? hhead)

/-- No name of a path that starts with no slash is dropped from its start. -/
theorem filePath_pieces {path : List Char} (h : path.head? ≠ some '/') :
    filePath (pieces '/' path) = pieces '/' path := by
  cases path with
  | nil => rfl
  | cons c path =>
    have hc : c ≠ '/' := fun he => h (congrArg some he)
    obtain ⟨p, ps, hp⟩ := pieces_eq_cons '/' path
    have hpieces : pieces '/' (c :: path) = (c :: p) :: ps := by
      rw [pieces, if_neg hc, hp]
      rfl
    rw [hpieces, filePath, List.dropWhile_cons_of_neg (by simp)]

/-- An absolute path without steps is read name by name. -/
theorem parseFile_absolute {path : List Char} (h : NoSteps path) :
    parseFile ('/' :: escapePath path) = .ok
      { scheme := "file".toList, authority := some ⟨[], none, none⟩,
        path := .segments ((pieces '/' path).map escapePath)
        query := none
        fragment := none } := by
  have hwritten : ∀ c ∈ escapePath path, isWritten c = true := fun c => isWritten_of_mem
  have hhost : readFileHost ('/' :: escapePath path) = .ok (none, escapePath path) := by
    unfold readFileHost
    rw [dropSlash?_slash]
    dsimp only
    rw [dropSlash?_eq_none hwritten (head?_escapePath h.1)]
    rfl
  have hunified : (escapePath path).map (fun c => if c = '\\' then '/' else c) =
      escapePath path := by
    have hsame : ∀ c ∈ escapePath path, (if c = '\\' then '/' else c) = id c := by
      intro c hc
      refine if_neg ?_
      rintro rfl
      exact (isWritten_facts (hwritten _ hc)).2.2.2.2 (by decide)
    rw [List.map_congr_left hsame, List.map_id]
  have hnames : readPath .file (escapePath path) = ((pieces '/' path).map escapePath, false) := by
    have hall : ∀ name ∈ (pieces '/' path).map escapePath, (∀ c ∈ name, isWritten c = true) ∧
        isSingleDot name = false ∧ isDoubleDot name = false := by
      intro name hn
      obtain ⟨plain, hp, rfl⟩ := List.mem_map.1 hn
      exact ⟨fun c => isWritten_of_mem, isSingleDot_percentEncode reversible_plain (h.2 plain hp).1,
        isDoubleDot_percentEncode reversible_plain (h.2 plain hp).2⟩
    unfold readPath
    dsimp only
    rw [if_pos (by rfl), hunified, pieces_escapePath, readSegments_written hall]
    simp
  have hpath : filePath ((pieces '/' path).map escapePath) =
      (pieces '/' path).map escapePath := by
    rw [← pieces_escapePath, filePath_pieces (head?_escapePath h.1)]
  unfold parseFile
  rw [hhost]
  simp only [bind, Except.bind, pure, Except.pure, splitTail_written hwritten, hnames, hpath]
  rfl

/-! ## The file -/

theorem encode_slash (s : List Char) : encode ('/' :: s) = 0x2F :: encode s := by
  have hslash : String.utf8EncodeChar '/' = [0x2F] := by decide
  rw [encode_cons, hslash]
  rfl

/-- The octets of the names behind slashes are those of the path. -/
theorem octets_of_pieces (path : List Char) :
    ((pieces '/' path).map escapePath).flatMap
        (fun name => 0x2F :: percentDecode (encode name)) = encode ('/' :: path) := by
  have hnames : ∀ names : List (List Char), names ≠ [] →
      (names.map escapePath).flatMap (fun name => 0x2F :: percentDecode (encode name)) =
        0x2F :: encode (join '/' names) := by
    intro names hne
    induction names with
    | nil => exact absurd rfl hne
    | cons name rest ih =>
      rw [List.map_cons, List.flatMap_cons, percentDecode_escapePath]
      cases rest with
      | nil => simp [join]
      | cons next rest =>
        rw [ih (List.cons_ne_nil next rest), join_cons_ne_nil '/' name (List.cons_ne_nil next rest),
          encode_append, encode_slash]
        rfl
  rw [hnames _ (pieces_ne_nil '/' path), join_pieces, encode_slash]

/-- The file behind a slash: a further slash stands behind what ends like a drive, which is nothing
that ends in `!` or in a slash. -/
theorem segmentOctets_escapePath (path : List Char) :
    segmentOctets ((pieces '/' path).map escapePath) = encode ('/' :: path) ∨
      (∀ c ∈ ['!', '/'], ('/' :: path).getLast? ≠ some c) ∧
        segmentOctets ((pieces '/' path).map escapePath) = encode ('/' :: path ++ ['/']) := by
  unfold segmentOctets
  dsimp only
  rw [octets_of_pieces]
  split
  next d c b rest hrev =>
    split_ifs with hdrive
    · right
      rw [encode_append, encode_slash []]
      refine ⟨fun c hc hlast => ?_, rfl⟩
      obtain ⟨before, hbefore⟩ := List.getLast?_eq_some_iff.1 hlast
      obtain ⟨o, ho, hends⟩ : ∃ o, encode [c] = [o] ∧ ¬(o = 0x3A ∨ o = 0x7C) := by
        rcases List.mem_pair.1 hc with rfl | rfl
        · exact ⟨0x21, by decide, by decide⟩
        · exact ⟨0x2F, by decide, by decide⟩
      rw [hbefore, encode_append, ho, List.reverse_append] at hrev
      have hd : d = o := (List.cons.inj hrev).1.symm
      rw [hd] at hdrive
      simp only [Bool.and_eq_true, Bool.or_eq_true, beq_iff_eq] at hdrive
      exact hends hdrive.2
    · exact .inl rfl
  next => exact .inl rfl

/-- **The file behind a slash.** `file:` and an escaped absolute path without steps name the file at
that path, with a further slash at most. -/
theorem filePath?_escapePath {path : List Char} (h : NoSteps path) :
    ∃ url, parse ("file:".toList ++ escapePath ('/' :: path)) = .ok url ∧
      url.scheme = "file".toList ∧
      (url.filePath? = some (encode ('/' :: path)) ∨
        (∀ c ∈ ['!', '/'], ('/' :: path).getLast? ≠ some c) ∧
          url.filePath? = some (encode ('/' :: path ++ ['/']))) := by
  have hcons : escapePath ('/' :: path) = '/' :: escapePath path := by
    rw [escapePath_cons, escapePath_singleton (by decide), List.singleton_append]
  have hwritten : ∀ c ∈ escapePath ('/' :: path), isWritten c = true := fun c => isWritten_of_mem
  have hparse := parse_file hwritten
  rw [hcons, parseFile_absolute h] at hparse
  rw [hcons]
  refine ⟨_, hparse, rfl, ?_⟩
  show some (segmentOctets _) = _ ∨ _ ∧ some (segmentOctets _) = _
  rcases segmentOctets_escapePath path with he | ⟨hlast, he⟩
  · exact .inl (congrArg some he)
  · exact .inr ⟨hlast, congrArg some he⟩

end SearchPath.Url
