import SearchPath.Proofs.Path.Composition
import SearchPath.Proofs.Path.Entry
import SearchPath.Proofs.Path.Marks
import SearchPath.Proofs.Url.Scheme

/-!
# Canonical forms taken again

The canonical form of a root is either its spelling without blanks at its ends or a path that is
placed: it starts with an anchor in upper case (`canonicalChars_cases`, `placed_canonicalPlain`).

1. A placed path is no URL, so taking its canonical form again is anchoring its parts once more
   (`canonicalChars_of_placed`).
2. The parts of what it comes to are the normal form of its first part and what its other parts name
   (`nestedParts_canonicalPlain`).
3. So it stays as it is exactly if its parts are written in normal form and no blank stands at its
   end (`canonicalChars_eq_self_iff`).
4. Main result (`canonical_again_iff`): a canonical form with such parts is its own canonical form
   exactly if it does not end in a blank.
-/

namespace SearchPath.Path

open SearchPath.Text

variable {base path : List Char}

/-! ## Placed paths -/

/-- The path starts with an anchor as a normal form writes it. -/
def Placed (path : List Char) : Prop :=
  ∃ a : Anchor, a.Upper ∧ a.text <+: path

theorem Placed.cases (h : Placed path) :
    (∃ s, path = '/' :: s) ∨ ∃ c s, c.isUpper = true ∧ path = c :: ':' :: '/' :: s := by
  obtain ⟨a, hupper, s, rfl⟩ := h
  cases a with
  | slash => exact .inl ⟨s, rfl⟩
  | drive letter => exact .inr ⟨letter, s, hupper, rfl⟩

theorem placed_slash (s : List Char) : Placed ('/' :: s) :=
  ⟨.slash, trivial, s, rfl⟩

theorem placed_drive {c : Char} (h : c.isUpper = true) (s : List Char) :
    Placed (c :: ':' :: '/' :: s) :=
  ⟨.drive c, h, s, rfl⟩

theorem Placed.append (h : Placed path) (s : List Char) : Placed (path ++ s) := by
  obtain ⟨a, hupper, hpath⟩ := h
  exact ⟨a, hupper, hpath.trans (List.prefix_append path s)⟩

theorem Normal.Absolute.placed {n : Normal} (h : n.Absolute) : Placed n.text := by
  obtain ⟨a, hupper, -, htext⟩ := h.exists_text
  exact ⟨a, hupper, htext ▸ List.prefix_append a.text (join '/' n.segments)⟩

theorem Placed.isSome_anchor (h : Placed path) : (splitAnchor path).1.isSome = true := by
  obtain ⟨a, hupper, s, rfl⟩ := h
  rw [splitAnchor_text hupper]
  rfl

/-- A placed path is no URL: a slash starts none, and the letter of a drive is no scheme. -/
theorem readUrl_of_placed (h : Placed path) : readUrl path = none := by
  unfold readUrl
  rcases h.cases with ⟨s, rfl⟩ | ⟨c, s, hc, rfl⟩
  · rw [Url.parse_slash]
  · obtain ⟨rest, hs⟩ := Url.readScheme_drive (isAlpha_of_isUpper hc) ('/' :: s)
    cases hp : Url.parse (c :: ':' :: '/' :: s) with
    | error e => rfl
    | ok url =>
      have hscheme := Url.scheme_of_parse hs hp
      dsimp only
      rw [hscheme]
      rfl

theorem dropArchiveScheme_of_placed (h : Placed path) : dropArchiveScheme path = path := by
  rcases h.cases with ⟨s, rfl⟩ | ⟨c, s, -, rfl⟩
  · unfold dropArchiveScheme
    split
    next hcons =>
      cases hcons
      exact if_neg (by simp)
    next => rfl
  · unfold dropArchiveScheme
    split
    next hcons =>
      cases hcons
      exact if_neg (by simp)
    next => rfl

/-- A placed path is trimmed at its end only. -/
theorem Placed.trim_eq (h : Placed path) : trim path = trimEnd isBlank path := by
  rcases h.cases with ⟨s, rfl⟩ | ⟨c, s, hc, rfl⟩
  · rw [trim_cons_of_neg (by decide), trimEnd_cons_of_neg (by decide)]
  · have hb := isBlank_of_isAlpha (isAlpha_of_isUpper hc)
    rw [trim_cons_of_neg hb, trimEnd_cons_of_neg hb]

theorem Placed.trim (h : Placed path) : Placed (trim path) := by
  rw [h.trim_eq]
  rcases h.cases with ⟨s, rfl⟩ | ⟨c, s, hc, rfl⟩
  · rw [trimEnd_cons_of_neg (by decide)]
    exact placed_slash _
  · rw [trimEnd_cons_of_neg (isBlank_of_isAlpha (isAlpha_of_isUpper hc)),
      trimEnd_cons_of_neg (by decide), trimEnd_cons_of_neg (by decide)]
    exact placed_drive hc _

/-- The canonical form of a placed path is that of a plain path. -/
theorem canonicalChars_of_placed (base : List Char) (h : Placed path) :
    canonicalChars base path = canonicalPlain base (Text.trim path) := by
  unfold canonicalChars
  dsimp only
  rw [dropArchiveScheme_of_placed h.trim, readUrl_of_placed h.trim]

/-- The canonical form of a text without a scheme is that of a plain path. -/
theorem canonicalChars_of_no_scheme (base : List Char) {raw : List Char}
    (h : Url.readScheme (Url.visible (Url.strip (Text.trim raw))) = none) :
    canonicalChars base raw = canonicalPlain base (Text.trim raw) := by
  have hdrop : dropArchiveScheme (Text.trim raw) = Text.trim raw := by
    unfold dropArchiveScheme
    split
    next hcons =>
      rw [hcons] at h
      exact (if_neg fun hjar => Url.readScheme_archive hjar _ h).trans hcons.symm
    next => rfl
  unfold canonicalChars readUrl
  dsimp only
  rw [hdrop, Url.parse_of_readScheme_eq_none h]

/-! ## The two kinds of canonical form -/

theorem placed_canonicalPlain (hb : Rooted base) (path : List Char) :
    Placed (canonicalPlain base path) := by
  obtain ⟨outer, nested, he⟩ := nestedParts_eq_cons (unify path)
  rw [canonicalPlain_eq he, anchorAt_eq hb]
  exact (absolute_locate hb outer).placed.append _

theorem not_mem_nestedText {part : List Char} (h : '\\' ∉ part) : '\\' ∉ nestedText part := by
  rcases nestedText_cases part with he | he <;> rw [he]
  · exact List.not_mem_nil
  · intro hm
    rcases List.mem_cons.1 hm with hc | hm
    · exact absurd hc (by decide)
    rcases List.mem_cons.1 hm with hc | hm
    · exact absurd hc (by decide)
    · exact not_mem_normalForm h ((List.dropWhile_sublist _).subset hm)

theorem not_mem_canonicalPlain (base path : List Char) : '\\' ∉ canonicalPlain base path := by
  obtain ⟨outer, nested, he⟩ := nestedParts_eq_cons (unify path)
  have hpart : ∀ part ∈ outer :: nested, '\\' ∉ part := fun part hp hm =>
    not_mem_unify path (mem_of_mem_nestedParts (he ▸ hp) hm)
  rw [canonicalPlain_eq he]
  intro hm
  rcases List.mem_append.1 hm with hm | hm
  · exact not_mem_anchorAt base (hpart outer List.mem_cons_self) hm
  · obtain ⟨part, hp, hm⟩ := List.mem_flatMap.1 hm
    exact not_mem_nestedText (hpart part (List.mem_cons_of_mem outer hp)) hm

theorem canonicalChars_trim (base raw : List Char) :
    canonicalChars base (trim raw) = canonicalChars base raw := by
  unfold canonicalChars
  rw [trim_trim]

/-- **Two kinds.** A canonical form is the spelling of a URL without blanks at its ends, or the
canonical form of a plain path. -/
theorem canonicalChars_cases (base raw : List Char) :
    canonicalChars base raw = trim raw ∨
      ∃ path, canonicalChars base raw = canonicalPlain base path := by
  unfold canonicalChars
  dsimp only
  split
  · exact .inr ⟨_, rfl⟩
  next url _ =>
    split_ifs
    · unfold canonicalOfFileUrl
      split
      · exact .inl rfl
      next spelled _ =>
        split_ifs
        · split
          · exact .inr ⟨_, rfl⟩
          · exact .inl rfl
        · exact .inr ⟨_, rfl⟩
    · exact .inl rfl

/-! ## Parts in normal form -/

/-- The parts between the marks are written in normal form, those behind a mark as paths inside an
archive. -/
def Settled (path : List Char) : Prop :=
  ∃ outer nested, nestedParts path = outer :: nested ∧ IsNormal outer ∧ ∀ p ∈ nested, IsEntry p

/-- The first part of a placed path is placed. -/
theorem Placed.outer (h : Placed path) {outer : List Char} {nested : List (List Char)}
    (he : nestedParts path = outer :: nested) : Placed outer := by
  rcases h.cases with ⟨s, rfl⟩ | ⟨c, s, hc, rfl⟩
  · obtain ⟨first, rest, hs⟩ := nestedParts_eq_cons s
    rw [nestedParts_cons (by simp), hs] at he
    cases he
    exact placed_slash first
  · obtain ⟨first, rest, hs⟩ := nestedParts_eq_cons s
    have hmark : c ≠ '!' := by
      rintro rfl
      cases hc
    rw [nestedParts_cons (fun hm => hmark hm.1), nestedParts_cons (by simp),
      nestedParts_cons (by simp), hs] at he
    cases he
    exact placed_drive hc first

theorem flatMap_nestedText_of_isEntry {nested : List (List Char)} (h : ∀ p ∈ nested, IsEntry p) :
    nested.flatMap nestedText = nested.flatMap fun part => '!' :: '/' :: part := by
  rw [List.flatMap_def, List.flatMap_def,
    List.map_congr_left fun p hp => nestedText_of_isEntry (h p hp)]

/-- **Parts in normal form stay.** A placed path with such parts is its own canonical form as a
plain path. -/
theorem canonicalPlain_of_settled (base : List Char) (hp : Placed path) (hslash : '\\' ∉ path)
    (hs : Settled path) : canonicalPlain base path = path := by
  obtain ⟨outer, nested, he, houter, hnested⟩ := hs
  have hparts : nestedParts (unify path) = outer :: nested := by rw [unify_eq_self hslash, he]
  have hanchor := (hp.outer he).isSome_anchor
  rw [canonicalPlain_eq hparts, anchorAt_of_anchor base hanchor, houter.normalForm_eq,
    flatMap_nestedText_of_isEntry hnested]
  have hjoin := nestedJoin_nestedParts path
  rwa [he] at hjoin

/-! ### The parts of a canonical form -/

/-- What a part behind a mark names. -/
def nestedName (part : List Char) : List Char :=
  (normalForm part).dropWhile (· = '/')

/-- What the parts behind the marks name, but for those that come to nothing. -/
def nestedNames (nested : List (List Char)) : List (List Char) :=
  (nested.filter (nestedText · ≠ [])).map nestedName

theorem flatMap_nestedText (nested : List (List Char)) :
    nested.flatMap nestedText =
      (nestedNames nested).flatMap fun name => '!' :: '/' :: name := by
  induction nested with
  | nil => rfl
  | cons part nested ih =>
    rw [List.flatMap_cons, ih]
    unfold nestedNames
    by_cases hnil : nestedText part = []
    · rw [List.filter_cons_of_neg (by simpa using hnil), hnil, List.nil_append]
    · rw [List.filter_cons_of_pos (by simpa using hnil), List.map_cons, List.flatMap_cons,
        (nestedText_cases part).resolve_left hnil]
      rfl

theorem not_nests_nestedName {part : List Char} (h : ¬Nests part) : ¬Nests (nestedName part) :=
  fun hn => not_nests_normalForm h (hn.trans (List.dropWhile_suffix _).isInfix)

/-- **The parts of a canonical form.** A placed path is cut into the normal form of its first part
and what its other parts name. -/
theorem nestedParts_canonicalPlain (base : List Char) (hp : Placed path) (hslash : '\\' ∉ path)
    {outer : List Char} {nested : List (List Char)} (he : nestedParts path = outer :: nested) :
    nestedParts (canonicalPlain base path) = normalForm outer :: nestedNames nested := by
  have hparts : nestedParts (unify path) = outer :: nested := by rw [unify_eq_self hslash, he]
  have hmarks : ∀ part ∈ outer :: nested, ¬Nests part := fun part hm =>
    not_nests_of_mem (he ▸ hm)
  rw [canonicalPlain_eq hparts, anchorAt_of_anchor base (hp.outer he).isSome_anchor,
    flatMap_nestedText]
  refine nestedParts_nestedJoin (List.cons_ne_nil _ _) fun part hm => ?_
  rcases List.mem_cons.1 hm with rfl | hm
  · exact not_nests_normalForm (hmarks outer List.mem_cons_self)
  · obtain ⟨p, hpm, rfl⟩ := List.mem_map.1 hm
    exact not_nests_nestedName
      (hmarks p (List.mem_cons_of_mem outer (List.mem_filter.1 hpm).1))

/-- Where as many names come out as there are parts no part comes to nothing. -/
theorem nestedNames_of_length {nested : List (List Char)}
    (h : (nestedNames nested).length = nested.length) :
    (∀ p ∈ nested, nestedText p ≠ []) ∧ nestedNames nested = nested.map nestedName := by
  unfold nestedNames at h ⊢
  rw [List.length_map, List.length_filter_eq_length_iff] at h
  exact ⟨fun p hp => by simpa using h p hp, by rw [List.filter_eq_self.2 h]⟩

theorem isEntry_of_nestedName {part : List Char} (h : nestedName part = part)
    (hne : nestedText part ≠ []) (hslash : '\\' ∉ part) : IsEntry part := by
  have hhead : part.head? ≠ some '/' := h ▸ head?_dropWhile_slash (normalForm part)
  have hform : normalForm part = part := by
    rwa [nestedName, dropWhile_slash_eq_self (head?_normalForm hhead)] at h
  have hhere : part ≠ here := by
    rintro rfl
    exact hne (by decide)
  exact ⟨isNormal_of_normalForm hform hhere, hhead, hslash⟩

/-- **Only parts in normal form stay.** The parts of a placed path that is its own canonical form as
a plain path are written in normal form. -/
theorem settled_of_canonicalPlain {base : List Char} (hp : Placed path) (hslash : '\\' ∉ path)
    (h : canonicalPlain base path = path) : Settled path := by
  obtain ⟨outer, nested, he⟩ := nestedParts_eq_cons path
  have hparts := nestedParts_canonicalPlain base hp hslash he
  rw [h, he] at hparts
  obtain ⟨houter, hnested⟩ := List.cons.inj hparts
  obtain ⟨hne, hnames⟩ := nestedNames_of_length (congrArg List.length hnested).symm
  have hsame : ∀ p ∈ nested, nestedName p = p := by
    have hmap : nested.map nestedName = nested.map id := by rw [← hnames, ← hnested, List.map_id]
    exact List.map_inj_left.1 hmap
  have hhere : outer ≠ here := by
    rintro rfl
    rcases (hp.outer he).cases with ⟨s, hs⟩ | ⟨c, s, -, hs⟩ <;> cases hs
  refine ⟨outer, nested, he, isNormal_of_normalForm houter.symm hhere, fun p hm => ?_⟩
  refine isEntry_of_nestedName (hsame p hm) (hne p hm) fun hc => hslash ?_
  exact mem_of_mem_nestedParts (he ▸ List.mem_cons_of_mem outer hm) hc

theorem nests_of_mem {start : List Char} {nested : List (List Char)} {part : List Char}
    (hp : part ∈ nested) (hne : nestedText part ≠ []) :
    Nests (start ++ nested.flatMap nestedText) := by
  obtain ⟨before, after, rfl⟩ := List.append_of_mem hp
  have htext := (nestedText_cases part).resolve_left hne
  refine ⟨start ++ before.flatMap nestedText,
    (normalForm part).dropWhile (· = '/') ++ after.flatMap nestedText, ?_⟩
  rw [List.flatMap_append, List.flatMap_cons, htext]
  simp

/-- Below a rooted base directory a canonical form without marks is in normal form. -/
theorem settled_canonicalPlain (hb : Rooted base) (h : ¬ Nests (canonicalPlain base path)) :
    Settled (canonicalPlain base path) := by
  obtain ⟨outer, nested, he⟩ := nestedParts_eq_cons (unify path)
  have hnone : nested.flatMap nestedText = [] := by
    refine List.flatMap_eq_nil_iff.2 fun part hp => ?_
    by_contra hne
    exact h (canonicalPlain_eq he ▸ nests_of_mem hp hne)
  have hnormal : IsNormal (canonicalPlain base path) := by
    rw [canonicalPlain_eq he, hnone, List.append_nil, anchorAt_eq hb]
    exact (absolute_locate hb outer).isNormal
  exact ⟨_, [], nestedParts_of_not_nests h, hnormal, fun p hp => absurd hp List.not_mem_nil⟩

/-! ## Blanks at the end -/

/-- What a part comes to does not end in further blanks: it is longer than the part only if that
is empty or a drive without its slash. -/
theorem nestedName_ne_append {bs : List Char} (hne : bs ≠ [])
    (hbs : ∀ c ∈ bs, isBlank c = true) (part : List Char) :
    nestedName part ≠ part ++ bs := by
  unfold nestedName
  rcases length_normalForm part with rfl | ⟨c, hc, rfl⟩ | hle
  · intro he
    have hbs' : bs = ['.'] := he.symm
    have := hbs '.' (hbs' ▸ List.mem_cons_self)
    cases this
  · intro he
    have hupper : c.toUpper ≠ '/' := by
      intro hslash
      have := isUpper_toUpper hc
      rw [hslash] at this
      cases this
    rw [normalForm_bare hc, List.dropWhile_cons_of_neg (by simpa using hupper)] at he
    have hbs' : bs = ['/'] := by
      injection he with _ he
      injection he with _ he
      exact he.symm
    have := hbs '/' (hbs' ▸ List.mem_cons_self)
    cases this
  · intro he
    have hlength := congrArg List.length he
    have hdrop := (List.dropWhile_sublist (decide <| · = '/') (l := normalForm part)).length_le
    have hpos := List.length_pos_of_ne_nil hne
    rw [List.length_append] at hlength
    omega

/-- The normal form of a placed path is shorter than the path with something behind it. -/
theorem length_normalForm_lt {bs : List Char} (hp : Placed path) (hne : bs ≠ []) :
    (normalForm path).length < (path ++ bs).length := by
  have hpos := List.length_pos_of_ne_nil hne
  rw [List.length_append]
  rcases length_normalForm path with rfl | ⟨c, hc, rfl⟩ | hle
  · rcases hp.cases with ⟨s, he⟩ | ⟨c, s, -, he⟩ <;> cases he
  · rcases hp.cases with ⟨s, he⟩ | ⟨d, s, -, he⟩ <;> cases he
    cases hc
  · omega

/-- No placed path comes to itself with blanks behind it. -/
theorem canonicalPlain_ne_append (base : List Char) {bs : List Char} (hp : Placed path)
    (hslash : '\\' ∉ path) (hne : bs ≠ []) (hbs : ∀ c ∈ bs, isBlank c = true) :
    canonicalPlain base path ≠ path ++ bs := by
  intro heq
  obtain ⟨outer, nested, he⟩ := nestedParts_eq_cons path
  have hparts := nestedParts_canonicalPlain base hp hslash he
  rw [heq] at hparts
  have hnoslash : '/' ∉ bs := fun hm => absurd (hbs '/' hm) (by decide)
  have hmarks {part : List Char} (hm : part ∈ nestedParts path) : ¬Nests (part ++ bs) :=
    not_nests_append (not_nests_of_mem hm) hnoslash
  -- the blanks would belong to the last part, which comes to nothing longer than itself
  rcases List.eq_nil_or_concat' nested with rfl | ⟨mids, last, rfl⟩
  · have hlonger : nestedParts (path ++ bs) = [] ++ [outer ++ bs] :=
      nestedParts_append_last he (hmarks (by simp [he]))
    rw [hlonger] at hparts
    have houter : outer ++ bs = normalForm outer := (List.cons.inj hparts).1
    have hlt := length_normalForm_lt (hp.outer he) hne
    rw [houter] at hlt
    exact absurd hlt (Nat.lt_irrefl _)
  · have hlonger : nestedParts (path ++ bs) = (outer :: mids) ++ [last ++ bs] :=
      nestedParts_append_last he (hmarks (by simp [he]))
    rw [hlonger] at hparts
    have hnested : mids ++ [last ++ bs] = nestedNames (mids ++ [last]) :=
      (List.cons.inj hparts).2
    have hlength : (nestedNames (mids ++ [last])).length = (mids ++ [last]).length := by
      rw [← hnested, List.length_append, List.length_append]
      rfl
    rw [(nestedNames_of_length hlength).2, List.map_append] at hnested
    have hlast : last ++ bs = nestedName last :=
      (List.append_inj' hnested rfl).2 |> List.singleton_inj.1
    exact nestedName_ne_append hne hbs last hlast.symm

/-- **Blanks at the end.** A placed path that ends in a blank comes to another one when it is
trimmed. -/
theorem canonicalPlain_trim_ne (base : List Char) {c : Char} (hp : Placed path)
    (hslash : '\\' ∉ path) (hlast : path.getLast? = some c) (hc : isBlank c = true) :
    canonicalPlain base (trim path) ≠ path := by
  obtain ⟨bs, hsplit, hbs⟩ := trimEnd_append_rest isBlank path
  rw [← hp.trim_eq] at hsplit
  have hne : bs ≠ [] := by
    rintro rfl
    rw [List.append_nil] at hsplit
    rw [hsplit] at hlast
    rw [getLast?_trim hlast] at hc
    cases hc
  have hshort : '\\' ∉ trim path := fun hm =>
    hslash (hsplit ▸ List.mem_append_left bs hm)
  intro he
  exact canonicalPlain_ne_append base hp.trim hshort hne hbs (he.trans hsplit)

/-- **What stays as it is.** A placed path is its own canonical form exactly if its parts are
written in normal form and it does not end in a blank. -/
theorem canonicalChars_eq_self_iff (base : List Char) (hp : Placed path) (hslash : '\\' ∉ path) :
    canonicalChars base path = path ↔
      Settled path ∧ ∀ c, path.getLast? = some c → isBlank c = false := by
  rw [canonicalChars_of_placed base hp]
  constructor
  · intro he
    have hlast : ∀ c, path.getLast? = some c → isBlank c = false := by
      intro c hc
      by_contra hblank
      exact canonicalPlain_trim_ne base hp hslash hc (by simpa using hblank) he
    rw [hp.trim_eq, trimEnd_eq_self hlast] at he
    exact ⟨settled_of_canonicalPlain hp hslash he, hlast⟩
  · rintro ⟨hs, hlast⟩
    rw [hp.trim_eq, trimEnd_eq_self hlast, canonicalPlain_of_settled base hp hslash hs]

/-! ## The canonical form of a canonical form -/

/-- A canonical form with parts in normal form is its own canonical form exactly if it does not end
in a blank. -/
theorem canonicalChars_again_iff (hb : Rooted base) (raw : List Char)
    (h : Nests (canonicalChars base raw) →
      (readUrl (dropArchiveScheme (canonicalChars base raw))).isSome = true ∨
        Settled (canonicalChars base raw)) :
    canonicalChars base (canonicalChars base raw) = canonicalChars base raw ↔
      ∀ c, (canonicalChars base raw).getLast? = some c → isBlank c = false := by
  rcases canonicalChars_cases base raw with hkept | ⟨path, hplain⟩
  · refine iff_of_true ?_ fun c hc => getLast?_trim (hkept ▸ hc)
    rw [hkept, canonicalChars_trim, hkept]
  · rw [hplain] at h ⊢
    have hp := placed_canonicalPlain hb path
    have hslash := not_mem_canonicalPlain base path
    have hs : Settled (canonicalPlain base path) := by
      by_cases hn : Nests (canonicalPlain base path)
      · rcases h hn with hurl | hs
        · rw [dropArchiveScheme_of_placed hp, readUrl_of_placed hp] at hurl
          cases hurl
        · exact hs
      · exact settled_canonicalPlain hb hn
    rw [canonicalChars_eq_self_iff base hp hslash, and_iff_right hs]

/-- **Canonical forms taken again.** Below a rooted base directory a canonical form is its own
canonical form exactly if it does not end in a blank. If marks stand in it and it is no URL, its
parts have to be written in normal form. -/
theorem canonical_again_iff (base raw : String) (hb : Rooted base.toList)
    (h : Nests (canonical base raw).toList →
      (readUrl (dropArchiveScheme (canonical base raw).toList)).isSome = true ∨
        Settled (canonical base raw).toList) :
    canonical base (canonical base raw) = canonical base raw ↔
      ∀ c, (canonical base raw).toList.getLast? = some c → isBlank c = false := by
  unfold canonical at h ⊢
  rw [String.toList_ofList] at h ⊢
  rw [String.ofList_inj]
  exact canonicalChars_again_iff hb raw.toList h

/-- An archive in an archive, spelled as the URL of a file with escaped blanks and steps up. -/
theorem canonical_again_in_archive :
    let raw := "jar:FILE:///c%20d/./a%20b.jar!/x/../lib//c.jar"
    let root := canonical "/work" raw
    (Rooted "/work".toList ∧ Settled root.toList ∧
        ∀ c, root.toList.getLast? = some c → isBlank c = false) ∧
      root = "/c d/a b.jar!/lib/c.jar" ∧ canonical "/work" root = root := by
  intro raw root
  have hroot : root = "/c d/a b.jar!/lib/c.jar" := by decide +kernel
  have hb : Rooted "/work".toList := by decide
  have hs : Settled root.toList := by
    rw [hroot]
    exact ⟨"/c d/a b.jar".toList, ["lib/c.jar".toList], by decide, by decide, by decide⟩
  have hlast : ∀ c, root.toList.getLast? = some c → isBlank c = false := by
    rw [hroot]
    intro c hc
    cases hc
    decide
  exact ⟨⟨hb, hs, hlast⟩, hroot, (canonical_again_iff "/work" raw hb fun _ => .inr hs).2 hlast⟩

/-- The name of a directory can end in a blank, which is taken for a blank behind the name when the
canonical form is read again; and a part behind a mark can name nothing but a slash. -/
theorem canonical_again_ne :
    Rooted "/work".toList ∧
      (canonical "/work" "/a /" = "/a " ∧
        canonical "/work" (canonical "/work" "/a /") ≠ canonical "/work" "/a /") ∧
      canonical "/work" "/b.jar!//" = "/b.jar!/" ∧
        canonical "/work" (canonical "/work" "/b.jar!//") ≠ canonical "/work" "/b.jar!//" := by
  decide +kernel

end SearchPath.Path
