import SearchPath.Proofs.Path.FixedPoint
import SearchPath.Proofs.Url.Escaped

/-!
# Plain paths spelled as URLs

A plain path is spelled as the URL of a file by `file:` and the escaped path.

1. Behind a slash the URL is read as that path (`canonicalChars_fileSpelling_slash`): the slash that
   can come behind it does not count (`canonicalPlain_append_slash`).
2. Otherwise what stands behind `file:` is taken as a path as it is spelled, escapes and all
   (`canonicalChars_fileSpelling_of_relative`). An escaped path leads elsewhere as soon as one of
   its characters is escaped (`locate_escapePath_iff`), and a mark of an archive inside an archive
   is no mark when it is escaped (`text_locate_escapePath_ne`).
3. Main result (`canonical_fileUrl_iff`): which plain paths have the same canonical form as the
   URLs that spell them.
-/

namespace SearchPath.Path

open SearchPath.Text SearchPath.Url

variable {base path : List Char}

/-! ## Escaped segments -/

theorem escapePath_above : escapePath above = above := by decide

theorem escapePath_here : escapePath here = here := by decide

theorem IsSegment.escapePath {s : List Char} (h : IsSegment s) : IsSegment (escapePath s) where
  ne_nil := escapePath_ne_nil h.ne_nil
  ne_here he := h.ne_here (escapePath_injective (he.trans escapePath_here.symm))
  no_slash := slash_not_mem_escapePath h.no_slash

theorem escapePath_ne_above {s : List Char} (h : s ≠ above) : escapePath s ≠ above :=
  fun he => h (escapePath_injective (he.trans escapePath_above.symm))

theorem length_le_escapePath (s : List Char) : s.length ≤ (escapePath s).length := by
  induction s with
  | nil => exact Nat.zero_le _
  | cons c s ih =>
    have hc := List.length_pos_of_ne_nil (escapePath_ne_nil (List.cons_ne_nil c []))
    rw [escapePath_cons, List.length_append, List.length_cons]
    omega

/-- Only plain characters are written as they are. -/
theorem escapePath_eq_self_iff {s : List Char} :
    escapePath s = s ↔ ∀ c ∈ s, isPlain c = true := by
  refine ⟨fun h => ?_, fun h => percentEncode_eq_self fun c hc => by rw [h c hc]; rfl⟩
  induction s with
  | nil => exact fun c hc => absurd hc List.not_mem_nil
  | cons c s ih =>
    rw [escapePath_cons] at h
    have hlength := congrArg List.length h
    have hle := length_le_escapePath s
    rw [List.length_append, List.length_cons] at hlength
    by_cases hc : isPlain c = true
    · rw [escapePath_singleton hc] at h
      intro d hd
      rcases List.mem_cons.1 hd with rfl | hd
      · exact hc
      · exact ih (List.cons.inj h).2 d hd
    · have hlong : 1 < (escapePath [c]).length := by
        have hescape : escapePath [c] = (String.utf8EncodeChar c).flatMap escapeOctet := by
          simp [escapePath, percentEncode, hc]
        obtain ⟨b, rest, hb⟩ := List.exists_cons_of_ne_nil (String.utf8EncodeChar_ne_nil (c := c))
        rw [hescape, hb]
        simp [escapeOctet]
      omega

/-- Segments without `..` are tidy. -/
theorem tidy_of_ne_above {anchored : Bool} {segments : List (List Char)}
    (h : ∀ s ∈ segments, IsSegment s ∧ s ≠ above) : Tidy anchored segments where
  isSegment s hs := (h s hs).1
  above_first := by
    refine List.pairwise_of_forall_mem_list fun before _ after ha he => ?_
    exact absurd he (h after ha).2
  no_above _ hm := (h above hm).2 rfl

/-- Behind a tidy segment that is not `..` there is no `..`. -/
theorem Tidy.ne_above {anchored : Bool} {s : List Char} {segments : List (List Char)}
    (h : Tidy anchored (s :: segments)) (hs : s ≠ above) :
    ∀ t ∈ s :: segments, IsSegment t ∧ t ≠ above := by
  intro t ht
  refine ⟨h.isSegment t ht, fun he => ?_⟩
  rcases List.mem_cons.1 ht with rfl | ht
  · exact hs he
  · exact hs ((List.pairwise_cons.1 h.above_first).1 t ht he)

theorem ne_above_map_escapePath {segments : List (List Char)}
    (h : ∀ s ∈ segments, IsSegment s ∧ s ≠ above) :
    ∀ s ∈ segments.map escapePath, IsSegment s ∧ s ≠ above := by
  intro s hs
  obtain ⟨t, ht, rfl⟩ := List.mem_map.1 hs
  exact ⟨(h t ht).1.escapePath, escapePath_ne_above (h t ht).2⟩

/-- Segments without `..` are pushed behind what is there. -/
theorem foldl_push_of_ne_above {segments : List (List Char)}
    (h : ∀ s ∈ segments, IsSegment s ∧ s ≠ above) (stack : List (List Char)) :
    segments.foldl (push true) stack = segments.reverse ++ stack := by
  induction segments generalizing stack with
  | nil => rfl
  | cons s rest ih =>
    obtain ⟨hs, ha⟩ := h s List.mem_cons_self
    rw [List.foldl_cons, push_of_segment true stack (not_or.2 ⟨hs.ne_nil, hs.ne_here⟩) ha,
      ih fun t ht => h t (List.mem_cons_of_mem s ht), List.reverse_cons, List.append_assoc]
    rfl

/-- **Escaped segments.** Tidy segments lead to the same place when they are escaped only if nothing
in them is escaped: steps up are taken in both, and what follows them stands at the end. -/
theorem foldl_push_escapePath_iff {segments : List (List Char)} (h : Tidy false segments)
    (stack : List (List Char)) :
    (segments.map escapePath).foldl (push true) stack = segments.foldl (push true) stack ↔
      segments.map escapePath = segments := by
  induction segments generalizing stack with
  | nil => exact iff_of_true rfl rfl
  | cons s rest ih =>
    by_cases habove : s = above
    · subst habove
      have hrest := ih (h.sublist (List.sublist_cons_self _ _)) (push true stack above)
      rw [List.map_cons, escapePath_above, List.foldl_cons, List.foldl_cons, hrest]
      simp
    · have hnames := h.ne_above habove
      rw [foldl_push_of_ne_above hnames, foldl_push_of_ne_above (ne_above_map_escapePath hnames)]
      exact List.append_left_inj stack |>.trans List.reverse_inj

/-! ## Paths in normal form -/

theorem no_backslash_of_normalForm (h : normalForm (unify path) = path) : '\\' ∉ path :=
  h ▸ not_mem_normalForm (not_mem_unify path)

theorem normalForm_of_unify (h : normalForm (unify path) = path) : normalForm path = path := by
  rwa [unify_eq_self (no_backslash_of_normalForm h)] at h

/-- An absolute path in normal form starts with its anchor. -/
theorem IsNormal.placed (h : IsNormal path) (ha : (splitAnchor path).1.isSome = true) :
    Placed path := by
  rcases hs : splitAnchor path with ⟨_ | a, rest⟩
  · rw [hs] at ha
    cases ha
  · exact ⟨a, upper_of_splitAnchor hs, rest, (h.anchor a rest hs).symm⟩

/-- A path in normal form without an anchor is cut into tidy segments. -/
theorem IsNormal.tidy_pieces (h : IsNormal path) (ha : (splitAnchor path).1 = none) :
    Tidy false (pieces '/' path) := by
  have hsegments := h.segments
  rw [splitAnchor_of_none ha] at hsegments
  exact hsegments.resolve_left fun hsome => Bool.noConfusion hsome.1

/-- The canonical form of a path in normal form is that of a plain path. -/
theorem canonicalChars_of_normal (base : List Char) (h : normalForm (unify path) = path)
    (ht : trim path = path)
    (hs : (splitAnchor path).1 = none → readScheme (visible (strip path)) = none) :
    canonicalChars base path = canonicalPlain base path := by
  cases ha : (splitAnchor path).1 with
  | none => rw [canonicalChars_of_no_scheme base (by rw [ht]; exact hs ha), ht]
  | some a =>
    have hne : path ≠ here := by
      rintro rfl
      cases ha
    have hnormal := isNormal_of_normalForm (normalForm_of_unify h) hne
    rw [canonicalChars_of_placed base (hnormal.placed (by rw [ha]; rfl)), ht]

/-- Behind the slash of a path in normal form stand names that are no steps. -/
theorem noSteps_of_normalForm {rest : List Char}
    (h : normalForm (unify ('/' :: rest)) = '/' :: rest) : NoSteps rest := by
  have hnormal : IsNormal ('/' :: rest) :=
    isNormal_of_normalForm (normalForm_of_unify h) (by simp [here])
  rcases hnormal.segments with ⟨-, hnil⟩ | htidy
  · have hrest : rest = [] := hnil
    subst hrest
    exact ⟨by simp, by decide⟩
  · have htidy' : Tidy true (pieces '/' rest) := htidy
    refine ⟨fun hhead => ?_, fun name hn => ⟨(htidy'.isSegment name hn).ne_here, ?_⟩⟩
    · obtain ⟨tail, rfl⟩ := List.head?_eq_some_iff.1 hhead
      exact (htidy'.isSegment [] (by simp [pieces])).ne_nil rfl
    · rintro rfl
      exact htidy'.no_above rfl hn

/-! ## The URL of a plain path -/

/-- The plain path as the URL of a file. -/
def fileSpelling (path : List Char) : List Char :=
  "file:".toList ++ escapePath path

/-- Such a URL is taken as it is spelled. -/
theorem canonicalChars_fileSpelling (base : List Char) {path : List Char} {url : Url}
    (h : Url.parse (fileSpelling path) = .ok url) (hs : url.scheme = "file".toList) :
    canonicalChars base (fileSpelling path) =
      canonicalOfFileUrl base (fileSpelling path) (fileSpelling path) url := by
  have hwritten : ∀ c ∈ fileSpelling path, isBlank c = false := by
    intro c hc
    rcases List.mem_append.1 hc with hc | hc
    · have hfile : ∀ c ∈ "file:".toList, isBlank c = false :=
        List.all_iff_forall_prop.1 (by decide)
      exact hfile c hc
    · exact (isWritten_facts (isWritten_of_mem hc)).2.2.2.1
  have htrim : trim (fileSpelling path) = fileSpelling path :=
    trim_eq_self (fun c hc => hwritten c (List.mem_of_head? hc))
      (fun c hc => hwritten c (List.mem_of_getLast? hc))
  have hdrop : dropArchiveScheme (fileSpelling path) = fileSpelling path := by
    show dropArchiveScheme ('f' :: 'i' :: 'l' :: 'e' :: ':' :: escapePath path) = _
    rfl
  have hread : readUrl (fileSpelling path) = some url := by
    unfold readUrl
    rw [h]
    dsimp only
    rw [hs]
    rfl
  unfold canonicalChars
  dsimp only
  rw [htrim, hdrop, hread]
  dsimp only
  rw [if_pos hs]

theorem dropOctets_fileSpelling (path : List Char) :
    dropOctets fileSchemeSize (fileSpelling path) = some (escapePath path) :=
  dropOctets_eq_some_iff.2 ⟨"file:".toList, rfl, by decide⟩

/-- **Without a slash.** What stands behind `file:` is a path as it is spelled. -/
theorem canonicalChars_fileSpelling_of_relative (base : List Char) (h : path.head? ≠ some '/') :
    canonicalChars base (fileSpelling path) = canonicalPlain base (escapePath path) := by
  have hwritten : ∀ c ∈ escapePath path, isWritten c = true := fun c => isWritten_of_mem
  obtain ⟨url, hurl⟩ := parseFile_relative hwritten (head?_escapePath h)
  have hparse : Url.parse (fileSpelling path) = .ok url := (parse_file hwritten).trans hurl
  rw [canonicalChars_fileSpelling base hparse (scheme_of_parseFile hurl), canonicalOfFileUrl,
    dropOctets_fileSpelling]
  exact if_neg (head?_escapePath h)

theorem normalize_append_slash (hne : path ≠ []) : normalize (path ++ ['/']) = normalize path := by
  rw [normalize_append hne, Normal.descend_nil]

theorem nestedText_append_slash (hne : path ≠ []) :
    nestedText (path ++ ['/']) = nestedText path := by
  unfold nestedText normalForm
  rw [normalize_append_slash hne]

theorem anchorAt_append_slash (base : List Char) (ha : (splitAnchor path).1.isSome = true) :
    anchorAt base (path ++ ['/']) = anchorAt base path := by
  have hne : path ≠ [] := by
    rintro rfl
    cases ha
  have hsame := normalize_append_slash hne
  have ha' : (splitAnchor (path ++ ['/'])).1.isSome = true :=
    (congrArg (·.anchor.isSome) hsame).trans ha
  rw [anchorAt_of_anchor base ha, anchorAt_of_anchor base ha', normalForm, hsame]
  rfl

theorem not_nests_append_slash (h : ¬Nests path) (hlast : path.getLast? ≠ some '!') :
    ¬Nests (path ++ ['/']) := by
  intro hn
  rcases List.infix_concat_iff.1 hn with ⟨before, he⟩ | hn
  · have hpath : before ++ ['!'] = path :=
      List.append_cancel_right ((List.append_assoc before ['!'] ['/']).trans he)
    rw [← hpath] at hlast
    simp at hlast
  · exact h hn

/-- A slash at the end of an absolute path does not count, if it makes no mark and no empty
segment. -/
theorem canonicalPlain_append_slash (base : List Char) (hp : Placed path) (hslash : '\\' ∉ path)
    (hlast : ∀ c ∈ ['!', '/'], path.getLast? ≠ some c) :
    canonicalPlain base (path ++ ['/']) = canonicalPlain base path := by
  have hunify : unify (path ++ ['/']) = path ++ ['/'] := by
    rw [unify_append, unify_eq_self hslash]
    rfl
  obtain ⟨before, last, hparts, hpath⟩ := nestedParts_eq_concat path
  -- the slash stands behind the last part, which is not empty and does not end in `!`
  have hparts' (hne : last.getLast? ≠ some '!') :
      nestedParts (unify (path ++ ['/'])) = before ++ [last ++ ['/']] := by
    have hmark : ¬Nests last :=
      not_nests_of_mem (hparts ▸ List.mem_append_right before List.mem_cons_self)
    rw [hunify]
    exact nestedParts_append_last hparts (not_nests_append_slash hmark hne)
  rw [← unify_eq_self hslash] at hparts
  cases before with
  | nil =>
    have hwhole : last = path := by simpa [nestedJoin] using hpath
    subst hwhole
    rw [canonicalPlain_eq hparts, canonicalPlain_eq (hparts' (hlast '!' (by simp))),
      anchorAt_append_slash base hp.isSome_anchor]
  | cons outer mids =>
    rw [nestedJoin_concat (List.cons_ne_nil outer mids)] at hpath
    have hne : last ≠ [] := by
      rintro rfl
      refine hlast '/' (by simp) ?_
      rw [← hpath]
      simp
    have hend : last.getLast? = path.getLast? := by
      rw [← hpath, List.append_cons, List.append_cons, List.getLast?_append_of_ne_nil _ hne]
    rw [List.cons_append] at hparts hparts'
    rw [canonicalPlain_eq hparts, canonicalPlain_eq (hparts' (hend ▸ hlast '!' (by simp))),
      List.flatMap_append, List.flatMap_append, List.flatMap_singleton, List.flatMap_singleton,
      nestedText_append_slash hne]

/-- **Behind a slash.** The URL of an absolute path is read as that path. -/
theorem canonicalChars_fileSpelling_slash (base : List Char) {rest : List Char}
    (hn : normalForm (unify ('/' :: rest)) = '/' :: rest) :
    canonicalChars base (fileSpelling ('/' :: rest)) = canonicalPlain base ('/' :: rest) := by
  obtain ⟨url, hparse, hscheme, hfile⟩ := filePath?_escapePath (noSteps_of_normalForm hn)
  have hhead : (escapePath ('/' :: rest)).head? = some '/' := by
    rw [escapePath_cons, escapePath_singleton (by decide)]
    rfl
  rw [canonicalChars_fileSpelling base hparse hscheme, canonicalOfFileUrl,
    dropOctets_fileSpelling]
  dsimp only
  rw [if_pos hhead]
  rcases hfile with hfile | ⟨hlast, hfile⟩ <;> rw [hfile] <;> dsimp only <;>
    rw [decodeLossy_encode]
  exact canonicalPlain_append_slash base (placed_slash rest) (no_backslash_of_normalForm hn) hlast

/-! ## Escaped paths below a base directory -/

theorem locate_eq_of_text_eq (hb : Rooted base) {p q : List Char}
    (h : (locate base p).text = (locate base q).text) : locate base p = locate base q := by
  rw [← (absolute_locate hb p).normalize_text, ← (absolute_locate hb q).normalize_text, h]

/-- An escaped path that starts with no slash has no anchor. -/
theorem splitAnchor_escapePath (h : path.head? ≠ some '/') :
    (splitAnchor (escapePath path)).1 = none := by
  have hcolon : ':' ∉ escapePath path := fun hm =>
    (isWritten_facts (isWritten_of_mem hm)).2.2.2.2 (by decide)
  rcases splitAnchor_cases (escapePath path) with ⟨r, he, -⟩ | ⟨c, -, he, -⟩ | ⟨c, r, -, he, -⟩ | he
  · exact absurd (he ▸ rfl : (escapePath path).head? = some '/') (head?_escapePath h)
  · exact absurd (he ▸ by simp) hcolon
  · exact absurd (he ▸ by simp) hcolon
  · rw [he]

/-- A path without an anchor leads elsewhere when it is escaped, unless nothing in it is. -/
theorem locate_escapePath_iff (hb : Rooted base) (hn : IsNormal path)
    (ha : (splitAnchor path).1 = none) :
    locate base (escapePath path) = locate base path ↔ ∀ c ∈ path, isPlain c = true := by
  have hhead : path.head? ≠ some '/' := by
    intro hhead
    obtain ⟨rest, rfl⟩ := List.head?_eq_some_iff.1 hhead
    cases ha
  refine ⟨fun h => ?_, fun h => by rw [escapePath_eq_self_iff.2 h]⟩
  have hbase : (normalize (unify base)).Absolute := .of_splitAnchor hb
  rw [locate_of_no_anchor base (by simp [splitAnchor_escapePath hhead]),
    locate_of_no_anchor base (by simp [ha]), Normal.descend, Normal.descend, Normal.mk.injEq,
    hbase.isSome_anchor, pieces_escapePath] at h
  have hpieces := (foldl_push_escapePath_iff (hn.tidy_pieces ha) _).1 (List.reverse_inj.1 h.2)
  rw [← escapePath_eq_self_iff, ← join_pieces '/' (escapePath path), pieces_escapePath, hpieces,
    join_pieces]

/-- A path in normal form with an anchor that is no slash is a drive and tidy segments. When it is
cut, the drive is a segment like the others. -/
theorem IsNormal.exists_drive (h : IsNormal path) (ha : (splitAnchor path).1.isSome = true)
    (hhead : path.head? ≠ some '/') :
    ∃ (letter : Char) (segments : List (List Char)),
      (Anchor.drive letter).Upper ∧ Tidy true segments ∧
      path = (Anchor.drive letter).text ++ join '/' segments ∧
      pieces '/' path = [letter, ':'] :: pieces '/' (join '/' segments) ∧
      ∀ s ∈ [letter, ':'] :: segments, IsSegment s ∧ s ≠ above := by
  obtain ⟨a, segments, hupper, htidy, rfl⟩ := h.exists_text ha
  obtain ⟨letter, rfl⟩ : ∃ letter, a = .drive letter := by
    cases a with
    | slash => exact absurd rfl hhead
    | drive letter => exact ⟨letter, rfl⟩
  have hdrive : IsSegment [letter, ':'] := by
    refine ⟨by simp, by simp [here], fun hm => ?_⟩
    have hletter : letter = '/' := by simpa [eq_comm] using hm
    subst hletter
    cases hupper
  refine ⟨letter, segments, hupper, htidy, rfl, ?_, fun s hs => ?_⟩
  · show pieces '/' ([letter, ':'] ++ '/' :: join '/' segments) = _
    rw [pieces_append, pieces_eq_singleton hdrive.no_slash]
    rfl
  · rcases List.mem_cons.1 hs with rfl | hs
    · exact ⟨hdrive, by simp [above]⟩
    · exact ⟨htidy.isSegment s hs, fun he => htidy.no_above rfl (he ▸ hs)⟩

/-- A drive is no drive when it is escaped: below the base directory stands at least one segment
more than behind the drive. -/
theorem locate_escapePath_drive_ne (hb : Rooted base) (hn : IsNormal path)
    (ha : (splitAnchor path).1.isSome = true) (hhead : path.head? ≠ some '/') :
    locate base (escapePath path) ≠ locate base path := by
  obtain ⟨letter, segments, hupper, htidy, rfl, hpieces, hnames⟩ := hn.exists_drive ha hhead
  have hbase : (normalize (unify base)).Absolute := .of_splitAnchor hb
  have hplace : locate base ((Anchor.drive letter).text ++ join '/' segments) =
      ⟨some (.drive letter), segments⟩ := by
    have habs : (⟨some (.drive letter), segments⟩ : Normal).Absolute :=
      ⟨⟨.drive letter, rfl, hupper⟩, htidy⟩
    rw [locate_of_anchor base ha]
    exact habs.normalize_text
  -- the drive is pushed like a name, and behind a bare drive stands nothing
  have hfold (stack : List (List Char)) :
      ((([letter, ':'] :: pieces '/' (join '/' segments)).map escapePath).foldl (push true) stack) =
        (([letter, ':'] :: segments).map escapePath).foldl (push true) stack := by
    by_cases hnil : segments = []
    · subst hnil
      exact push_of_skipped true _ (.inl rfl)
    · rw [pieces_join hnil fun s hs => (htidy.isSegment s hs).no_slash]
  intro h
  rw [hplace, locate_of_no_anchor base (by simp [splitAnchor_escapePath hhead]), Normal.descend,
    Normal.mk.injEq, hbase.isSome_anchor, pieces_escapePath, hpieces, hfold,
    foldl_push_of_ne_above (ne_above_map_escapePath hnames)] at h
  have hlength := congrArg List.length h.2
  simp only [List.length_reverse, List.length_append, List.length_map, List.length_cons] at hlength
  omega

/-! ### Marks

An escaped path holds no marks. Behind the last mark of the path stand names, as they are in one
canonical form and escaped in the other, so the mark would have to stand among them. -/

/-- Names behind the last mark come to the mark and something that is no longer than the escaped
names. -/
theorem nestedText_of_ne_above {part : List Char}
    (h : ∀ s ∈ pieces '/' part, IsSegment s ∧ s ≠ above) :
    ∃ name, nestedText part = '!' :: '/' :: name ∧ name.length ≤ (escapePath part).length := by
  have hne : part ≠ [] := by
    rintro rfl
    exact (h [] (by simp)).1.ne_nil rfl
  have hform : normalForm part ≠ [] ∧ normalForm part ≠ here := by
    by_cases ha : (splitAnchor part).1.isSome = true
    · have hplaced : Placed (normalForm part) := (Normal.Absolute.of_splitAnchor ha).placed
      rcases hplaced.cases with ⟨s, he⟩ | ⟨c, s, -, he⟩ <;> rw [he] <;> simp [here]
    · have hsplit : splitAnchor part = (none, part) := splitAnchor_of_none (by simpa using ha)
      have hnormal : IsNormal part := by
        refine ⟨fun a rest he => ?_, .inr ?_⟩
        · rw [hsplit] at he
          cases he
        · rw [hsplit]
          exact tidy_of_ne_above h
      rw [hnormal.normalForm_eq]
      exact ⟨hne, hnormal.ne_here⟩
  have hlength : (normalForm part).length ≤ (escapePath part).length := by
    rcases length_normalForm part with hnil | ⟨c, hc, rfl⟩ | hle
    · exact absurd hnil hne
    · have hplain : isPlain c = true := by simp [isPlain, Char.isAlphanum, hc]
      have hescape : escapePath [':'] = ['%', '3', 'A'] := by decide
      rw [normalForm_bare hc, escapePath_cons, escapePath_singleton hplain, hescape]
      exact Nat.le_succ 3
    · exact hle.trans (length_le_escapePath part)
  refine ⟨(normalForm part).dropWhile (· = '/'), ?_, ?_⟩
  · unfold nestedText
    dsimp only
    rw [if_neg (not_or.2 hform)]
  · exact (List.dropWhile_sublist _).length_le.trans hlength

theorem nestedText_suffix {base last : List Char} {before : List (List Char)} (hne : before ≠ [])
    (h : nestedParts (unify path) = before ++ [last]) :
    nestedText last <:+ canonicalPlain base path := by
  obtain ⟨outer, mids, rfl⟩ := List.exists_cons_of_ne_nil hne
  rw [List.cons_append] at h
  rw [canonicalPlain_eq h, List.flatMap_append, List.flatMap_singleton, ← List.append_assoc]
  exact List.suffix_append _ _

/-- Names at the end of a path stand escaped at the end of what the escaped path leads to. -/
theorem escapePath_suffix_locate (hb : Rooted base) (hhead : path.head? ≠ some '/')
    {before : List (List Char)} {rest : List Char}
    (hcut : pieces '/' path = before ++ pieces '/' rest)
    (h : ∀ s ∈ pieces '/' rest, IsSegment s ∧ s ≠ above) :
    escapePath rest <:+ (locate base (escapePath path)).text := by
  have hbase : (normalize (unify base)).Absolute := .of_splitAnchor hb
  obtain ⟨a, -, -, htext⟩ := (absolute_locate hb (escapePath path)).exists_text
  have hsegments : ∃ start, (locate base (escapePath path)).segments =
      start ++ pieces '/' (escapePath rest) := by
    rw [locate_of_no_anchor base (by simp [splitAnchor_escapePath hhead]), Normal.descend,
      hbase.isSome_anchor, pieces_escapePath, pieces_escapePath, hcut, List.map_append,
      List.foldl_append, foldl_push_of_ne_above (ne_above_map_escapePath h), List.reverse_append,
      List.reverse_reverse]
    exact ⟨_, rfl⟩
  obtain ⟨start, hstart⟩ := hsegments
  have hjoin := join_suffix '/' start (pieces_ne_nil '/' (escapePath rest))
  rw [join_pieces] at hjoin
  rw [htext, hstart]
  exact hjoin.trans (List.suffix_append _ _)

/-- A path in normal form with a mark is cut into tidy segments, a drive being one of them. -/
theorem IsNormal.tidy_pieces_of_nests (hn : IsNormal path) (hm : Nests path)
    (hhead : path.head? ≠ some '/') : Tidy false (pieces '/' path) := by
  by_cases ha : (splitAnchor path).1.isSome = true
  · obtain ⟨letter, segments, -, htidy, rfl, hpieces, hnames⟩ := hn.exists_drive ha hhead
    have hne : segments ≠ [] := by
      rintro rfl
      exact not_nests_nil hm.of_anchor
    rw [hpieces, pieces_join hne fun s hs => (htidy.isSegment s hs).no_slash]
    exact tidy_of_ne_above hnames
  · exact hn.tidy_pieces (by simpa using ha)

/-- **Escaped marks.** Below a rooted base directory an escaped path that starts with no slash does
not lead to the canonical form of the path, if a mark stands in the path. -/
theorem text_locate_escapePath_ne (hb : Rooted base) (hn : IsNormal path) (hm : Nests path)
    (hslash : '\\' ∉ path) (hhead : path.head? ≠ some '/') :
    (locate base (escapePath path)).text ≠ canonicalPlain base path := by
  obtain ⟨parts, last, hparts, hjoin⟩ := nestedParts_eq_concat path
  have hne : parts ≠ [] := by
    rintro rfl
    have hwhole : last = path := by simpa [nestedJoin] using hjoin
    exact not_nests_of_mem (s := path) (hparts ▸ by simp) (hwhole ▸ hm)
  rw [nestedJoin_concat hne] at hjoin
  -- from the segment on that the last mark ends, the path is names
  obtain ⟨before, start, hstart, hcut⟩ :=
    exists_pieces_append '/' (nestedJoin parts) ('!' :: '/' :: last)
  rw [hjoin] at hcut
  have hfree : '/' ∉ start ++ ['!'] := by simp [hstart]
  have hbehind : pieces '/' (start ++ '!' :: '/' :: last) =
      (start ++ ['!']) :: pieces '/' last := by
    rw [List.append_cons, pieces_append, pieces_eq_singleton hfree]
    rfl
  have hnames : ∀ s ∈ (start ++ ['!']) :: pieces '/' last, IsSegment s ∧ s ≠ above := by
    have htidy := hn.tidy_pieces_of_nests hm hhead
    rw [hcut, hbehind] at htidy
    refine (htidy.sublist (List.sublist_append_right _ _)).ne_above fun he => ?_
    have hend := congrArg List.getLast? he
    rw [List.getLast?_concat] at hend
    exact absurd hend (by decide)
  obtain ⟨name, hname, hlength⟩ :=
    nestedText_of_ne_above fun s hs => hnames s (List.mem_cons_of_mem _ hs)
  have hright : '!' :: '/' :: name <:+ canonicalPlain base path :=
    hname ▸ nestedText_suffix hne (by rwa [unify_eq_self hslash])
  have hleft : '1' :: '/' :: escapePath last <:+ (locate base (escapePath path)).text := by
    have hescape : escapePath (start ++ '!' :: '/' :: last) =
        (escapePath start ++ ['%', '2']) ++ '1' :: '/' :: escapePath last := by
      have hmark : escapePath ['!', '/'] = ['%', '2', '1', '/'] := by decide
      show escapePath (start ++ (['!', '/'] ++ last)) = _
      rw [escapePath_append, escapePath_append, hmark]
      simp
    have hsuffix := escapePath_suffix_locate hb hhead hcut (hbehind ▸ hnames)
    rw [hescape] at hsuffix
    exact (List.suffix_append _ _).trans hsuffix
  intro he
  rw [he] at hleft
  have hmark : '!' ∈ '1' :: '/' :: escapePath last := by
    refine (List.suffix_of_suffix_length_le hright hleft ?_).subset List.mem_cons_self
    simpa using hlength
  have hescaped : '!' ∈ escapePath last := by simpa using hmark
  cases isWritten_of_mem hescaped

/-- **Escaped paths.** Below a rooted base directory an escaped path that starts with no slash has
the canonical form of the path only if nothing in it is escaped. -/
theorem canonicalPlain_escapePath_iff (hb : Rooted base) (hn : normalForm (unify path) = path)
    (hhead : path.head? ≠ some '/') :
    canonicalPlain base (escapePath path) = canonicalPlain base path ↔
      ∀ c ∈ path, isPlain c = true := by
  by_cases hhere : path = here
  · subst hhere
    exact iff_of_true (by rw [escapePath_here]) (by simp [here, isPlain])
  have hnormal := isNormal_of_normalForm (normalForm_of_unify hn) hhere
  have hslash := unify_eq_self (no_backslash_of_normalForm hn)
  have hslash' : unify (escapePath path) = escapePath path := unify_eq_self fun hc =>
    (isWritten_facts (isWritten_of_mem hc)).2.2.2.2 (by decide)
  have hm' : ¬Nests (escapePath path) := by
    intro hmark
    have hbang := isWritten_of_mem (hmark.subset (List.mem_cons_self (a := '!')))
    cases hbang
  rw [canonicalPlain_eq_locate hb (by rwa [hslash']), hslash']
  by_cases hm : Nests path
  · refine iff_of_false (text_locate_escapePath_ne hb hnormal hm
      (no_backslash_of_normalForm hn) hhead) fun hplain => ?_
    cases hplain '!' (hm.subset List.mem_cons_self)
  have htext : (locate base (escapePath path)).text = canonicalPlain base path ↔
      locate base (escapePath path) = locate base path := by
    rw [canonicalPlain_eq_locate hb (by rwa [hslash]), hslash]
    exact ⟨locate_eq_of_text_eq hb, congrArg Normal.text⟩
  rw [htext]
  cases ha : (splitAnchor path).1 with
  | none => exact locate_escapePath_iff hb hnormal ha
  | some a =>
    have hsome : (splitAnchor path).1.isSome = true := by rw [ha]; rfl
    refine iff_of_false (locate_escapePath_drive_ne hb hnormal hsome hhead) fun hplain => ?_
    rcases (hnormal.placed hsome).cases with ⟨s, rfl⟩ | ⟨c, s, -, rfl⟩
    · exact hhead rfl
    · have hcolon := hplain ':' (by simp)
      cases hcolon

/-! ## Plain paths and their URLs -/

/-- The URL that spells a plain path. -/
def fileUrl (path : String) : String :=
  String.ofList (fileSpelling path.toList)

/-- **URLs of files.** Below a rooted base directory the URL that spells a plain path in normal form
has the canonical form of the path exactly if the path starts with a slash or holds nothing that is
escaped. If it starts with no slash, the URL is read as the escaped path. -/
theorem canonical_fileUrl_iff (base path : String) (hb : Rooted base.toList)
    (hn : normalForm (unify path.toList) = path.toList) (ht : trim path.toList = path.toList)
    (hs : (splitAnchor path.toList).1 = none → readScheme (visible (strip path.toList)) = none) :
    (canonical base (fileUrl path) = canonical base path ↔
        path.toList.head? = some '/' ∨ ∀ c ∈ path.toList, isPlain c = true) ∧
      (path.toList.head? ≠ some '/' → canonical base (fileUrl path) =
        String.ofList (canonicalPlain base.toList (escapePath path.toList))) := by
  have hrelative : path.toList.head? ≠ some '/' → canonical base (fileUrl path) =
      String.ofList (canonicalPlain base.toList (escapePath path.toList)) := by
    intro hhead
    unfold canonical fileUrl
    rw [String.toList_ofList, canonicalChars_fileSpelling_of_relative base.toList hhead]
  have hplain : canonical base path = String.ofList (canonicalPlain base.toList path.toList) := by
    unfold canonical
    rw [canonicalChars_of_normal base.toList hn ht hs]
  refine ⟨?_, hrelative⟩
  by_cases hhead : path.toList.head? = some '/'
  · refine iff_of_true ?_ (.inl hhead)
    obtain ⟨rest, hrest⟩ := List.head?_eq_some_iff.1 hhead
    rw [hplain]
    unfold canonical fileUrl
    rw [hrest] at hn ⊢
    rw [String.toList_ofList, canonicalChars_fileSpelling_slash base.toList hn]
  · rw [hrelative hhead, hplain, String.ofList_inj,
      canonicalPlain_escapePath_iff hb hn hhead, or_iff_right hhead]

/-- A blank in a name: behind a slash its escape is read, without one it stays. -/
theorem canonical_fileUrl_blank :
    let absolute := "/lib/a b.jar"
    let relative := "lib/a b.jar"
    (fileUrl absolute = "file:/lib/a%20b.jar" ∧
        canonical "/work" (fileUrl absolute) = canonical "/work" absolute) ∧
      fileUrl relative = "file:lib/a%20b.jar" ∧
        canonical "/work" (fileUrl relative) ≠ canonical "/work" relative ∧
        canonical "/work" (fileUrl relative) = "/work/lib/a%20b.jar" := by
  intro absolute relative
  have hb : Rooted "/work".toList := by decide
  have habsolute := canonical_fileUrl_iff "/work" absolute hb (by decide)
    (by decide) (by decide)
  have hrelative := canonical_fileUrl_iff "/work" relative hb (by decide)
    (by decide) (by decide)
  have hhead : absolute.toList.head? = some '/' := by decide
  have hescaped :
      ¬(relative.toList.head? = some '/' ∨ ∀ c ∈ relative.toList, isPlain c = true) := by
    rintro (hslash | hplain)
    · exact absurd hslash (by decide)
    · exact absurd (hplain ' ' (by decide)) (by decide)
  exact ⟨⟨by decide, habsolute.1.2 (.inl hhead)⟩, by decide,
    fun he => hescaped (hrelative.1.1 he), by decide +kernel⟩

end SearchPath.Path
