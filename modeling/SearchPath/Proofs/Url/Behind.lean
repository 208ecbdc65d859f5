import SearchPath.Proofs.Url.Extension

/-!
# Reading a URL with a path behind it

A text that ends in a slash is read as a URL; with a path behind the text the path goes into the
last part of that URL.

1. Each reader that cuts something off at the start does so whatever stands behind: slashes
   (`dropSlash?_cases`), hosts (`readFileHost_cases`), authorities (`readAuthority_cases`) and
   schemes (`readScheme_cases`).
2. What is left goes on with the path (`ofTail_extend`), for a file (`continues_parseFile`), with an
   authority (`continues_parseHosted`) and without one (`continues_parseUnhosted`).
3. Main result (`continues_parse`): so does the whole text, if it is done with its host.
-/

namespace SearchPath.Url

open SearchPath.Text

variable {kind : Kind} {scheme s t x : List Char}

/-! ## Slashes in front -/

/-- A slash, a backslash or a line break. -/
def isSeparator (c : Char) : Bool :=
  c == '/' || c == '\\' || isBreak c

/-- The text holds something else than separators. -/
def HasName (s : List Char) : Prop :=
  ∃ c ∈ s, isSeparator c = false

theorem HasName.exists_visible (h : HasName s) : ∃ c ∈ s, isBreak c = false := by
  obtain ⟨c, hc, hsep⟩ := h
  exact ⟨c, hc, (Bool.or_eq_false_iff.1 hsep).2⟩

theorem HasName.ne_nil (h : HasName s) : s ≠ [] := by
  rintro rfl
  obtain ⟨c, hc, -⟩ := h
  cases hc

theorem HasName.of_append {before rest : List Char} (h : HasName (before ++ rest))
    (hb : ∀ c ∈ before, isSeparator c = true) : HasName rest := by
  obtain ⟨c, hc, hsep⟩ := h
  rcases List.mem_append.1 hc with hc | hc
  · rw [hb c hc] at hsep
    cases hsep
  · exact ⟨c, hc, hsep⟩

/-- What stands behind a text does not change whether the text starts with a slash. -/
theorem dropSlash?_cases (kind : Kind) (h : ∃ c ∈ s, isBreak c = false) :
    (∃ rest, rest <:+ s ∧ (HasName s → HasName rest) ∧
      ∀ t, dropSlash? kind (s ++ t) = some (rest ++ t)) ∨
    ∀ t, dropSlash? kind (s ++ t) = none := by
  obtain ⟨before, c, rest, rfl, hb, hc⟩ := exists_first h
  have hdrop (t : List Char) : dropSlash? kind (before ++ c :: rest ++ t) =
      if c = '/' ∨ (kind.special ∧ c = '\\') then some (rest ++ t) else none := by
    unfold dropSlash?
    rw [List.append_assoc, List.cons_append, dropWhile_first hb hc]
  by_cases hslash : c = '/' ∨ (kind.special ∧ c = '\\')
  · refine .inl ⟨rest, List.suffix_append_of_suffix (List.suffix_cons c rest), fun hn => ?_,
      fun t => (hdrop t).trans (if_pos hslash)⟩
    rw [List.append_cons] at hn
    refine hn.of_append fun d hd => ?_
    rcases List.mem_append.1 hd with hd | hd
    · simp [isSeparator, hb d hd]
    · rw [List.mem_singleton.1 hd]
      rcases hslash with rfl | ⟨-, rfl⟩ <;> rfl
  · exact .inr fun t => (hdrop t).trans (if_neg hslash)

/-! ## Hosts -/

/-- The authority with this host, and the text that its port leaves. -/
def finishAuthority (scheme userinfo name : List Char) (port : Option (List Char)) (host : Host) :
    Except ParseError (Authority × List Char) :=
  if name = [] ∧ (port.isSome ∨ userinfo ≠ []) then .error .emptyHost
  else
    let usual := (webPorts.find? (·.1.toList = scheme)).map (·.2)
    (port.elim (.ok (none, [])) (readPort usual)).map fun read =>
      (⟨userinfo, if name = [] then none else some host, read.1⟩, read.2)

/-- The authority that a text stands for where more text follows, and what is left of the text. -/
def authorityOf (kind : Kind) (scheme whole : List Char) :
    Except ParseError (Authority × List Char) :=
  let cut := (breakAtLast '@' whole).elim (none, whole) fun cut => (some cut.1, cut.2)
  let found := splitPort cut.2 false
  if cut.1 = some [] ∧ cut.2 = [] then .error .emptyHost
  else if kind.special ∧ found.1 = [] then .error .emptyHost
  else
    (if kind.special then Host.parse found.1 else Host.parseOpaque found.1).bind
      (finishAuthority scheme (writeUserinfo (cut.1.getD [])) found.1 found.2)

/-- What stands behind the authority is left as it is. -/
theorem readAuthority_eq {whole : List Char} {c : Char}
    (hw : ∀ d ∈ whole, (!kind.endsAuthority d) = true) (hc : (!kind.endsAuthority c) = false)
    (rest : List Char) :
    readAuthority kind scheme (whole ++ c :: rest) =
      (authorityOf kind scheme whole).map fun found => (found.1, found.2 ++ c :: rest) := by
  have hfollows : c :: rest ≠ [] := List.cons_ne_nil c rest
  unfold readAuthority authorityOf
  rw [span_first hw hc]
  dsimp -zeta only
  cases breakAtLast '@' whole
  all_goals
    dsimp only [Option.elim, bind, Except.bind, pure, Except.pure, throw, throwThe,
      MonadExceptOf.throw]
    rw [if_congr (and_congr_right' (and_iff_left hfollows)) rfl rfl]
    simp only [apply_ite (Except.map _)]
    refine if_congr Iff.rfl rfl (if_congr Iff.rfl rfl ?_)
    by_cases hspecial : kind.special = true
    case' pos =>
      rw [if_pos hspecial, if_pos hspecial]
      generalize Host.parse _ = host
    case' neg =>
      rw [if_neg hspecial, if_neg hspecial]
      generalize Host.parseOpaque _ = host
    all_goals
      cases host with
      | error cause => rfl
      | ok host =>
        dsimp only [finishAuthority]
        rw [apply_ite (Except.map _)]
        refine if_congr Iff.rfl rfl ?_
        cases (splitPort _ false).2 with
        | none => rfl
        | some port =>
          dsimp only [Option.elim]
          cases readPort _ port <;> rfl

theorem Closed.append {s t : List Char} (h : Closed t) (hne : t ≠ []) : Closed (s ++ t) := by
  intro c hc
  rw [List.getLast?_append_of_ne_nil s hne] at hc
  exact h c hc

theorem Closed.slash_mem (h : Closed s) (hne : s ≠ []) : '/' ∈ s := by
  obtain ⟨c, hc⟩ := Option.isSome_iff_exists.1 (List.getLast?_isSome.2 hne)
  exact h c hc ▸ List.mem_of_getLast? hc

theorem isBreak_of_endsAuthority {c : Char} (h : (!kind.endsAuthority c) = false) :
    isBreak c = false := by
  simp only [isBreak, Bool.or_eq_false_iff, beq_eq_false_iff_ne]
  refine ⟨⟨?_, ?_⟩, ?_⟩ <;> rintro rfl <;> revert h <;> cases kind <;> decide

theorem readFileHost_of_name {rest name : List Char} {c : Char}
    (hs : dropSlash? .file s = some rest) (hr : dropSlash? .file rest = some (name ++ c :: t))
    (hw : ∀ d ∈ name, (!Kind.file.endsAuthority d) = true)
    (hc : (!Kind.file.endsAuthority c) = false) :
    readFileHost s =
      if isDriveLetter (visible name) then .ok (none, name ++ c :: t)
      else if visible name = [] then .ok (none, c :: t)
      else
        (Host.parse (visible name)).map fun host =>
          if host = .domain "localhost".toList then (none, c :: t)
          else (some host, (dropSlash? .file (c :: t)).getD (c :: t)) := by
  unfold readFileHost
  rw [hs]
  dsimp only
  rw [hr]
  dsimp only
  rw [span_first hw hc]
  dsimp only [bind, Except.bind, pure, Except.pure]
  refine if_congr Iff.rfl rfl (if_congr Iff.rfl rfl ?_)
  cases Host.parse (visible name) with
  | error cause => rfl
  | ok host =>
    dsimp only [Except.map]
    split_ifs <;> rfl

/-- The text without the slash at its start stays the same, whatever stands behind. -/
theorem Closed.getD_dropSlash? (h : Closed s) (kind : Kind) (hv : ∃ c ∈ s, isBreak c = false) :
    ∃ rest, Closed rest ∧ ∀ t, (dropSlash? kind (s ++ t)).getD (s ++ t) = rest ++ t := by
  rcases dropSlash?_cases kind hv with ⟨rest, hsuffix, -, hdrop⟩ | hdrop
  · refine ⟨rest, h.of_suffix hsuffix, fun t => ?_⟩
    rw [hdrop]
    rfl
  · refine ⟨s, h, fun t => ?_⟩
    rw [hdrop]
    rfl

/-- The host of a file is told before what stands behind. -/
theorem readFileHost_cases (hs : Closed s) (hn : HasName s) :
    (∃ host rest, Closed rest ∧ ∀ t, readFileHost (s ++ t) = .ok (host, rest ++ t)) ∨
      ∃ cause, ∀ t, readFileHost (s ++ t) = .error cause := by
  rcases dropSlash?_cases .file hn.exists_visible with ⟨x, hsuffix, hname, hdrop⟩ | hdrop
  · have hx := hs.of_suffix hsuffix
    rcases dropSlash?_cases .file (hname hn).exists_visible with
      ⟨y, hsuffix', hname', hdrop'⟩ | hdrop'
    · have hy := hx.of_suffix hsuffix'
      have hend : ∃ c ∈ y, (!Kind.file.endsAuthority c) = false :=
        ⟨'/', hy.slash_mem (hname' (hname hn)).ne_nil, rfl⟩
      obtain ⟨name, c, rest, rfl, hw, hc⟩ := exists_first hend
      have hrest : Closed (c :: rest) := hy.of_suffix (List.suffix_append name (c :: rest))
      have hread (t : List Char) := readFileHost_of_name (t := rest ++ t) (hdrop t)
        ((hdrop' t).trans (by rw [List.append_assoc, List.cons_append])) hw hc
      by_cases hdrive : isDriveLetter (visible name) = true
      · refine .inl ⟨none, _, hy, fun t => ?_⟩
        rw [hread, if_pos hdrive, List.append_assoc]
        rfl
      by_cases hnil : visible name = []
      · refine .inl ⟨none, _, hrest, fun t => ?_⟩
        rw [hread, if_neg hdrive, if_pos hnil]
        rfl
      cases hhost : Host.parse (visible name) with
      | error cause =>
        refine .inr ⟨cause, fun t => ?_⟩
        rw [hread, if_neg hdrive, if_neg hnil, hhost]
        rfl
      | ok host =>
        by_cases hlocal : host = .domain "localhost".toList
        · refine .inl ⟨none, _, hrest, fun t => ?_⟩
          rw [hread, if_neg hdrive, if_neg hnil, hhost]
          exact congrArg Except.ok (if_pos hlocal)
        obtain ⟨z, hz, hpath⟩ := hrest.getD_dropSlash? .file
          ⟨c, List.mem_cons_self, isBreak_of_endsAuthority hc⟩
        refine .inl ⟨some host, z, hz, fun t => ?_⟩
        rw [hread, if_neg hdrive, if_neg hnil, hhost]
        refine congrArg Except.ok ((if_neg hlocal).trans ?_)
        exact congrArg (some host, ·) (hpath t)
    · refine .inl ⟨none, x, hx, fun t => ?_⟩
      unfold readFileHost
      rw [hdrop]
      dsimp only
      rw [hdrop']
      rfl
  · refine .inl ⟨none, s, hs, fun t => ?_⟩
    unfold readFileHost
    rw [hdrop]
    rfl

/-- An authority is told before what stands behind. -/
theorem readAuthority_cases (kind : Kind) (scheme : List Char) (hs : Closed s) (hne : s ≠ []) :
    (∃ authority rest, Closed rest ∧ rest ≠ [] ∧
      ∀ t, readAuthority kind scheme (s ++ t) = .ok (authority, rest ++ t)) ∨
      ∃ cause, ∀ t, readAuthority kind scheme (s ++ t) = .error cause := by
  have hend : ∃ c ∈ s, (!kind.endsAuthority c) = false :=
    ⟨'/', hs.slash_mem hne, by simp [Kind.endsAuthority]⟩
  obtain ⟨whole, c, rest, rfl, hw, hc⟩ := exists_first hend
  have hread (t : List Char) : readAuthority kind scheme (whole ++ c :: rest ++ t) =
      (authorityOf kind scheme whole).map fun found => (found.1, found.2 ++ c :: (rest ++ t)) := by
    rw [List.append_assoc, List.cons_append]
    exact readAuthority_eq hw hc (rest ++ t)
  cases hfound : authorityOf kind scheme whole with
  | error cause =>
    rw [hfound] at hread
    exact .inr ⟨cause, hread⟩
  | ok found =>
    rw [hfound] at hread
    have hrest : Closed (c :: rest) := hs.of_suffix (List.suffix_append whole (c :: rest))
    refine .inl ⟨found.1, found.2 ++ c :: rest, hrest.append (List.cons_ne_nil c rest),
      List.append_ne_nil_of_right_ne_nil _ (List.cons_ne_nil c rest), fun t => ?_⟩
    rw [hread, List.append_assoc]
    rfl

/-! ## Queries and fragments -/

/-- The URL is that of a file without a path. -/
def IsFileRoot (url : Url) : Prop :=
  url.scheme = "file".toList ∧ url.path = .segments [[]]

/-- The path can stand behind the URL: it is taken literally and not for a drive. -/
structure Takes (url : Url) (added : List Char) : Prop extends IsLiteral added where
  no_drive : url.IsFileRoot → ¬OnDrive added

/-- The URL of a scheme with what `head` makes of the text before query and fragment. -/
def ofTail (scheme : List Char) (special : Bool) (head : List Char → Option Authority × Path)
    (s : List Char) : Url :=
  let (path, query, fragment) := splitTail special s
  { scheme, authority := (head path).1, path := (head path).2, query, fragment }

variable {special : Bool} {head : List Char → Option Authority × Path}

theorem ofTail_extend (hk : (Kind.ofScheme scheme).special = special) (ho : (head s).2.IsOpen)
    (hs : ∀ added, IsLiteral added →
      (scheme = "file".toList → (head s).2 = .segments [[]] → ¬OnDrive added) →
        head (s ++ added) = ((head s).1, (head s).2.extend added)) :
    (ofTail scheme special head s).IsOpen ∧ ∀ added, (ofTail scheme special head s).Takes added →
      ofTail scheme special head (s ++ added) = (ofTail scheme special head s).extend added := by
  cases tailAppend special s with
  | path h hp =>
    have hurl : ofTail scheme special head s =
        { scheme, authority := (head s).1, path := (head s).2, query := none, fragment := none } := by
      unfold ofTail
      rw [h]
    rw [hurl]
    refine ⟨fun _ _ => ho, fun added ht => ?_⟩
    unfold ofTail
    rw [hp added ht.toIsLiteral]
    dsimp only
    rw [hs added ht.toIsLiteral fun hscheme hroot => ht.no_drive ⟨hscheme, hroot⟩]
    rfl
  | query before query h hp =>
    have hurl : ofTail scheme special head s =
        { scheme, authority := (head before).1, path := (head before).2, query := some query,
          fragment := none } := by
      unfold ofTail
      rw [h]
    rw [hurl]
    refine ⟨fun _ hnone => (Option.some_ne_none _ hnone).elim, fun added ht => ?_⟩
    unfold ofTail
    rw [hp added ht.toIsLiteral]
    simp [extend, escapesBehind, hk]
  | fragment before query fragment h hp =>
    have hurl : ofTail scheme special head s =
        { scheme, authority := (head before).1, path := (head before).2, query,
          fragment := some fragment } := by
      unfold ofTail
      rw [h]
    rw [hurl]
    refine ⟨fun hnone => (Option.some_ne_none _ hnone).elim, fun added ht => ?_⟩
    unfold ofTail
    rw [hp added ht.toIsLiteral]
    simp [extend, escapesBehind]

/-! ## The kinds of URLs -/

/-- The text is read as a URL that paths can be written behind, or as none whatever path is. -/
def Continues (read : List Char → Except ParseError Url) (s : List Char) : Prop :=
  (∃ url : Url, url.IsOpen ∧ read s = .ok url ∧
    ∀ added, url.Takes added → read (s ++ added) = .ok (url.extend added)) ∨
  ∃ cause, read s = .error cause ∧ ∀ added, IsLiteral added → read (s ++ added) = .error cause

/-- A URL that is made of something read at the start and of the rest of the text. -/
theorem continues_of_found {α : Type} {read : List Char → Except ParseError Url}
    {find : List Char → Except ParseError (α × List Char)} (make : α → List Char → Url)
    (hread : ∀ s, read s = (find s).map fun found => make found.1 found.2)
    (h : (∃ found rest, (∀ t, find (s ++ t) = .ok (found, rest ++ t)) ∧
        (make found rest).IsOpen ∧ ∀ added, (make found rest).Takes added →
          make found (rest ++ added) = (make found rest).extend added) ∨
      ∃ cause, ∀ t, find (s ++ t) = .error cause) : Continues read s := by
  rcases h with ⟨found, rest, hfind, hopen, hmake⟩ | ⟨cause, hfind⟩
  · have hself := hfind []
    rw [List.append_nil, List.append_nil] at hself
    refine .inl ⟨_, hopen, by rw [hread, hself]; rfl, fun added ht => ?_⟩
    rw [hread, hfind]
    exact congrArg Except.ok (hmake added ht)
  · have hself := hfind []
    rw [List.append_nil] at hself
    refine .inr ⟨cause, by rw [hread, hself]; rfl, fun added _ => ?_⟩
    rw [hread, hfind]
    rfl

/-- The authority and the path of the URL of a file. -/
def fileHead (host : Option Host) (path : List Char) : Option Authority × Path :=
  (some ⟨[], if (readPath .file path).2 then none else host, none⟩,
    .segments (filePath (readPath .file path).1))

theorem parseFile_eq (s : List Char) :
    parseFile s = (readFileHost s).map fun found =>
      ofTail "file".toList true (fileHead found.1) found.2 := by
  unfold parseFile
  cases readFileHost s <;> rfl

theorem fileHead_append (host : Option Host) (hs : Closed s) :
    (fileHead host s).2.IsOpen ∧ ∀ added, IsLiteral added →
      ((fileHead host s).2 = .segments [[]] → ¬OnDrive added) →
        fileHead host (s ++ added) = ((fileHead host s).1, (fileHead host s).2.extend added) := by
  obtain ⟨done, drive, hread, hbehind⟩ := readPath_append hs .file
  have hhead : fileHead host s =
      (some ⟨[], if drive then none else host, none⟩, .segments (filePath (done ++ [[]]))) := by
    unfold fileHead
    rw [hread]
  rw [hhead]
  obtain ⟨kept, hroot, hnames⟩ := filePath_append done
  refine ⟨?_, fun added ha hd => ?_⟩
  · show (filePath (done ++ [[]])).getLast? = some []
    rw [hroot, List.getLast?_concat]
  · have hnodrive : Kind.file = .file → done = [] → ¬OnDrive added := by
      rintro - rfl
      exact hd rfl
    obtain ⟨first, more, hfirst⟩ := pieces_eq_cons '/' added
    have hwritten := ha.written_ne_nil (hfirst ▸ List.mem_cons_self)
    unfold fileHead
    rw [hbehind added ha hnodrive]
    dsimp only [Path.extend]
    rw [hroot, List.dropLast_concat, hfirst, List.map_cons, hnames _ _ hwritten]

/-- The URL of a file. -/
theorem continues_parseFile (hs : Closed s) (hn : HasName s) : Continues parseFile s := by
  refine continues_of_found (fun host => ofTail _ true (fileHead host)) parseFile_eq
    ((readFileHost_cases hs hn).imp ?_ id)
  rintro ⟨host, rest, hrest, hread⟩
  have hspecial : (Kind.ofScheme "file".toList).special = true := rfl
  obtain ⟨hopen, hhead⟩ := fileHead_append host hrest
  exact ⟨host, rest, hread,
    ofTail_extend hspecial hopen fun added ha hd => hhead added ha (hd rfl)⟩

/-- The authority and the path of a URL with an authority. -/
def hostedHead (kind : Kind) (authority : Authority) (path : List Char) :
    Option Authority × Path :=
  (some authority, .segments (
    if kind.special = false ∧ path = [] then []
    else (readPath kind ((dropSlash? kind path).getD path)).1))

theorem parseHosted_eq (kind : Kind) (scheme s : List Char) :
    parseHosted kind scheme s = (readAuthority kind scheme s).map fun found =>
      ofTail scheme kind.special (hostedHead kind found.1) found.2 := by
  unfold parseHosted
  cases readAuthority kind scheme s <;> rfl

theorem hostedHead_append (hk : kind ≠ .file) (authority : Authority) (hs : Closed s)
    (hne : s ≠ []) :
    (hostedHead kind authority s).2.IsOpen ∧ ∀ added, IsLiteral added →
      hostedHead kind authority (s ++ added) =
        ((hostedHead kind authority s).1, (hostedHead kind authority s).2.extend added) := by
  obtain ⟨rest, hrest, hslash⟩ :=
    hs.getD_dropSlash? kind ⟨'/', hs.slash_mem hne, by decide⟩
  obtain ⟨done, drive, hread, hbehind⟩ := readPath_append hrest kind
  have hself := hslash []
  rw [List.append_nil, List.append_nil] at hself
  have hhead : hostedHead kind authority s = (some authority, .segments (done ++ [[]])) := by
    unfold hostedHead
    rw [if_neg fun h => hne h.2, hself, hread]
  rw [hhead]
  refine ⟨List.getLast?_concat, fun added ha => ?_⟩
  unfold hostedHead
  rw [if_neg fun h => hne (List.append_eq_nil_iff.1 h.2).1, hslash,
    hbehind added ha fun hfile => absurd hfile hk]
  dsimp only [Path.extend]
  rw [List.dropLast_concat]

/-- A URL with an authority. -/
theorem continues_parseHosted (hk : Kind.ofScheme scheme = kind) (hfile : kind ≠ .file)
    (hs : Closed s) (hne : s ≠ []) : Continues (parseHosted kind scheme) s := by
  refine continues_of_found (fun authority => ofTail scheme _ (hostedHead kind authority))
    (parseHosted_eq kind scheme)
    ((readAuthority_cases kind scheme hs hne).imp ?_ id)
  rintro ⟨authority, rest, hrest, hne', hread⟩
  obtain ⟨hopen, hhead⟩ := hostedHead_append hfile authority hrest hne'
  exact ⟨authority, rest, hread,
    ofTail_extend (congrArg Kind.special hk) hopen fun added ha _ => hhead added ha⟩

/-- The path of a URL without an authority. -/
def unhostedHead (path : List Char) : Option Authority × Path :=
  (none,
    match path with
    | '/' :: path => .segments (readPath .other path).1
    | path => .verbatim (percentEncode isControl path))

theorem unhostedHead_of_ne_slash {path : List Char} (h : path.head? ≠ some '/') :
    unhostedHead path = (none, .verbatim (percentEncode isControl path)) := by
  unfold unhostedHead
  split
  next rest => exact absurd rfl h
  next => rfl

theorem unhostedHead_append (hs : Closed s) (hne : s ≠ []) :
    (unhostedHead s).2.IsOpen ∧ ∀ added, IsLiteral added →
      unhostedHead (s ++ added) = ((unhostedHead s).1, (unhostedHead s).2.extend added) := by
  by_cases hslash : s.head? = some '/'
  · obtain ⟨path, rfl⟩ := List.head?_eq_some_iff.1 hslash
    obtain ⟨done, drive, hread, hbehind⟩ :=
      readPath_append (hs.of_suffix (List.suffix_cons '/' path)) .other
    have hhead : unhostedHead ('/' :: path) = (none, .segments (done ++ [[]])) := by
      show (none, Path.segments (readPath .other path).1) = _
      rw [hread]
    rw [hhead]
    refine ⟨List.getLast?_concat, fun added ha => ?_⟩
    show (none, Path.segments (readPath .other (path ++ added)).1) = _
    rw [hbehind added ha fun hfile => nomatch hfile]
    dsimp only [Path.extend]
    rw [List.dropLast_concat]
  · rw [unhostedHead_of_ne_slash hslash]
    have hwritten : '/' ∈ percentEncode isControl s :=
      List.mem_flatMap.2 ⟨'/', hs.slash_mem hne, by decide⟩
    refine ⟨List.ne_nil_of_mem hwritten, fun added _ => ?_⟩
    have hhead : (s ++ added).head? ≠ some '/' := by
      rwa [List.head?_append_of_ne_nil s hne]
    rw [unhostedHead_of_ne_slash hhead, percentEncode_append]
    rfl

/-- A URL without an authority. -/
theorem continues_parseUnhosted (hk : Kind.ofScheme scheme = .other) (hs : Closed s)
    (hne : s ≠ []) : Continues (fun s => .ok (parseUnhosted scheme s)) s := by
  obtain ⟨hopen, hhead⟩ := unhostedHead_append hs hne
  obtain ⟨hurl, hbehind⟩ :=
    ofTail_extend (congrArg Kind.special hk) hopen fun added ha _ => hhead added ha
  exact .inl ⟨_, hurl, rfl, fun added ht => congrArg Except.ok (hbehind added ht)⟩

/-! ## The whole -/

theorem Closed.visible (h : Closed s) (hne : s ≠ []) : Closed (visible s) ∧ visible s ≠ [] := by
  obtain ⟨c, hc⟩ := Option.isSome_iff_exists.1 (List.getLast?_isSome.2 hne)
  obtain rfl := h c hc
  obtain ⟨start, rfl⟩ := List.getLast?_eq_some_iff.1 hc
  have hvisible : Url.visible (start ++ ['/']) = Url.visible start ++ ['/'] :=
    visible_append start ['/']
  rw [hvisible]
  refine ⟨fun d hd => ?_, List.append_ne_nil_of_right_ne_nil _ (List.cons_ne_nil _ _)⟩
  rw [List.getLast?_concat] at hd
  exact (Option.some.inj hd).symm

/-- What is dropped at the start of a text that ends in a slash is dropped with a path behind. -/
theorem exists_strip (hs : Closed s) (hne : s ≠ []) :
    ∃ kept, kept <:+ s ∧ (∀ c ∈ s, 0x20 < c.toNat → c ∈ kept) ∧ strip s = kept ∧
      ∀ added, IsLiteral added → strip (s ++ added) = kept ++ added := by
  have hslash : ∃ c ∈ s, decide (c.toNat ≤ 0x20) = false := ⟨'/', hs.slash_mem hne, by decide⟩
  obtain ⟨before, c, rest, rfl, hb, hc⟩ := exists_first hslash
  have hkept : Closed (c :: rest) := hs.of_suffix (List.suffix_append before (c :: rest))
  refine ⟨c :: rest, List.suffix_append before (c :: rest), fun d hd hlt => ?_, ?_,
    fun added ha => ?_⟩
  · refine (List.mem_append.1 hd).resolve_left fun hd => ?_
    exact absurd (of_decide_eq_true (hb d hd)) (Nat.not_le_of_lt hlt)
  · unfold strip trimBoth
    rw [dropWhile_first hb hc]
    refine trimEnd_eq_self fun d hd => ?_
    rw [hkept d hd]
    decide
  · unfold strip trimBoth
    rw [List.append_assoc, List.cons_append, dropWhile_first hb hc]
    refine trimEnd_eq_self fun d hd => decide_eq_false (Nat.not_le_of_lt ?_)
    rw [← List.cons_append, List.getLast?_append_of_ne_nil _ ha.ne_nil] at hd
    exact ha.last_visible d hd

/-- Whether a text that ends in a slash has a scheme does not depend on what stands behind. -/
theorem readScheme_cases (hs : Closed s) (hne : s ≠ []) :
    (∃ before scheme rest, s = before ++ ':' :: rest ∧ (∀ c ∈ before, inScheme c = true) ∧
      rest ≠ [] ∧ ∀ t, readScheme (s ++ t) = some (scheme, rest ++ t)) ∨
    ∀ t, readScheme (s ++ t) = none := by
  obtain ⟨c, s, rfl⟩ := List.exists_cons_of_ne_nil hne
  by_cases hc : c.isAlpha = true
  · have hs' : s ≠ [] := by
      rintro rfl
      have hslash := hs c rfl
      rw [hslash] at hc
      cases hc
    have hclosed : Closed s := hs.of_suffix (List.suffix_cons c s)
    obtain ⟨name, d, rest, rfl, hname, hd⟩ :=
      exists_first (p := inScheme) ⟨'/', hclosed.slash_mem hs', by decide⟩
    have hspan (t : List Char) : (name ++ d :: rest ++ t).span inScheme = (name, d :: rest ++ t) := by
      rw [List.append_assoc, List.cons_append]
      exact span_first hname hd (rest ++ t)
    by_cases hcolon : d = ':'
    · subst hcolon
      refine .inl ⟨c :: name, (c :: name).map Char.toLower, rest, rfl, ?_, ?_, fun t => ?_⟩
      · intro d hd
        rcases List.mem_cons.1 hd with rfl | hd
        · simp [inScheme, Char.isAlphanum, hc]
        · exact hname d hd
      · rintro rfl
        have hlast := hclosed ':' List.getLast?_concat
        cases hlast
      · rw [List.cons_append, readScheme, if_pos hc, hspan]
        rfl
    · refine .inr fun t => ?_
      rw [List.cons_append, readScheme, if_pos hc, hspan]
      split
      next name' rest' he =>
        have hd := (List.cons.inj (Prod.mk.inj he).2).1
        exact absurd hd hcolon
      next => rfl
  · refine .inr fun t => ?_
    rw [List.cons_append, readScheme, if_neg hc]

/-- Behind the scheme of the text stands more than the slashes in front of a host, so that what is
written behind the text is no host. -/
def EndsHost (s : List Char) : Prop :=
  ∀ scheme rest, readScheme (visible (strip s)) = some (scheme, rest) →
    if Kind.ofScheme scheme = .other then rest ≠ ['/', '/'] else HasName rest

/-- The first colon of a text is that of its visible characters. -/
theorem exists_colon {before rest : List Char} (h : visible s = before ++ ':' :: rest)
    (hc : ':' ∉ before) :
    ∃ before' rest', s = before' ++ ':' :: rest' ∧ (∀ c ∈ before', decide (c ≠ ':') = true) ∧
      rest = visible rest' := by
  have hm : ':' ∈ s := by
    have hmem : ':' ∈ visible s := h ▸ List.mem_append_right before List.mem_cons_self
    exact List.mem_of_mem_filter hmem
  obtain ⟨before', d, rest', rfl, hb, hd⟩ :=
    exists_first (p := fun c => decide (c ≠ ':')) ⟨':', hm, by decide⟩
  obtain rfl : d = ':' := not_not.1 (of_decide_eq_false hd)
  refine ⟨before', rest', rfl, hb, ?_⟩
  have hfree : ':' ∉ visible before' := fun hm =>
    of_decide_eq_true (hb _ (List.mem_of_mem_filter hm)) rfl
  have hcut := breakAt_singleton_eq_some_iff.2 ⟨h, hc⟩
  rw [visible_append, visible_cons (by decide),
    breakAt_singleton_eq_some_iff.2 ⟨rfl, hfree⟩] at hcut
  exact (Prod.mk.inj (Option.some.inj hcut)).2.symm

theorem HasName.of_visible (h : HasName (visible s)) : HasName s := by
  obtain ⟨c, hc, hsep⟩ := h
  exact ⟨c, List.mem_of_mem_filter hc, hsep⟩

theorem Continues.of_eq {read other : List Char → Except ParseError Url} (h : Continues other t)
    (hself : read s = other t)
    (hread : ∀ added, IsLiteral added → read (s ++ added) = other (t ++ added)) :
    Continues read s := by
  rcases h with ⟨url, hopen, hok, hextend⟩ | ⟨cause, herror, hcause⟩
  · exact .inl ⟨url, hopen, hself.trans hok,
      fun added ht => (hread added ht.toIsLiteral).trans (hextend added ht)⟩
  · exact .inr ⟨cause, hself.trans herror, fun added ha => (hread added ha).trans (hcause added ha)⟩

variable {rest : List Char}

theorem parse_of_file (hk : Kind.ofScheme scheme = .file)
    (h : readScheme (visible (strip s)) = some (scheme, rest)) :
    parse s = parseFile (((strip s).dropWhile (· ≠ ':')).drop 1) := by
  unfold parse
  dsimp only
  rw [h]
  dsimp only
  rw [hk]

theorem parse_of_web (hk : Kind.ofScheme scheme = .web)
    (h : readScheme (visible (strip s)) = some (scheme, rest)) :
    parse s = parseHosted .web scheme (rest.dropWhile fun c => c == '/' || c == '\\') := by
  unfold parse
  dsimp only
  rw [h]
  dsimp only
  rw [hk]

theorem parse_of_hosted (hk : Kind.ofScheme scheme = .other)
    (h : readScheme (visible (strip s)) = some (scheme, '/' :: '/' :: rest)) :
    parse s = parseHosted .other scheme rest := by
  unfold parse
  dsimp only
  rw [h]
  dsimp only
  rw [hk]
  rfl

theorem parse_of_unhosted (hk : Kind.ofScheme scheme = .other)
    (h : readScheme (visible (strip s)) = some (scheme, rest))
    (hrest : ['/', '/'].isPrefixOf rest = false) : parse s = .ok (parseUnhosted scheme rest) := by
  unfold parse
  dsimp only
  rw [h]
  dsimp only
  rw [hk]
  dsimp only
  split
  next rest => cases hrest
  next => rfl

/-- A visible character that is part of no scheme stands behind the scheme. -/
theorem mem_of_readScheme (hs : Closed s) (hne : s ≠ []) {c : Char} (hc : c ∈ s)
    (hlt : 0x20 < c.toNat) (hscheme : inScheme c = false) (hcolon : c ≠ ':')
    (h : readScheme (visible (strip s)) = some (scheme, rest)) : c ∈ rest := by
  obtain ⟨kept, hsuffix, hmem, hstrip, -⟩ := exists_strip hs hne
  have hkept := hmem c hc hlt
  have hbreak : isBreak c = false := by
    simp only [isBreak, Bool.or_eq_false_iff, beq_eq_false_iff_ne]
    refine ⟨⟨?_, ?_⟩, ?_⟩ <;> rintro rfl <;> exact absurd hlt (by decide)
  have hvisible : c ∈ visible kept := List.mem_filter.2 ⟨hkept, by simp [hbreak]⟩
  obtain ⟨hclosed, hvisible_ne⟩ :=
    (hs.of_suffix hsuffix).visible (List.ne_nil_of_mem hkept)
  rw [hstrip] at h
  rcases readScheme_cases hclosed hvisible_ne with
    ⟨before, scheme', rest', hcut, hbefore, -, hread⟩ | hread
  · have hself := hread []
    rw [List.append_nil, List.append_nil, h, Option.some.injEq, Prod.mk.injEq] at hself
    rw [hcut] at hvisible
    rcases List.mem_append.1 hvisible with hm | hm
    · rw [hbefore c hm] at hscheme
      cases hscheme
    · rw [hself.2]
      exact (List.mem_cons.1 hm).resolve_left hcolon
  · have hself := hread []
    rw [List.append_nil, h] at hself
    cases hself

/-- **Reading on.** Behind a text that ends in a slash and is done with its host, a path goes into
the last part of the URL. -/
theorem continues_parse (hs : Closed s) (hne : s ≠ []) (hhost : EndsHost s) :
    Continues parse s := by
  obtain ⟨kept, hsuffix, hmem, hstrip, hbehind⟩ := exists_strip hs hne
  have hkept : kept ≠ [] := List.ne_nil_of_mem (hmem '/' (hs.slash_mem hne) (by decide))
  have hclosed := hs.of_suffix hsuffix
  obtain ⟨hvisible, hvisible_ne⟩ := hclosed.visible hkept
  have hshown (added : List Char) (ha : IsLiteral added) :
      visible (strip (s ++ added)) = visible kept ++ added := by
    rw [hbehind added ha, visible_append, ha.visible_eq]
  rcases readScheme_cases hvisible hvisible_ne with
    ⟨before, scheme, rest, hcut, hbefore, hrest_ne, hread⟩ | hread
  · have hcolon : ':' ∉ before := fun hm => absurd (hbefore _ hm) (by decide)
    have hself : readScheme (visible (strip s)) = some (scheme, rest) := by
      have hnil := hread []
      rwa [List.append_nil, List.append_nil, ← hstrip] at hnil
    have hadded (added : List Char) (ha : IsLiteral added) :
        readScheme (visible (strip (s ++ added))) = some (scheme, rest ++ added) := by
      rw [hshown added ha, hread]
    have hrest : Closed rest :=
      hvisible.of_suffix ⟨before ++ [':'], by rw [hcut]; simp⟩
    have hends := hhost scheme rest hself
    cases hk : Kind.ofScheme scheme with
    | file =>
      rw [if_neg (by rw [hk]; decide)] at hends
      obtain ⟨before', rest', rfl, hcolon', rfl⟩ := exists_colon hcut hcolon
      have hdrop (t : List Char) :
          ((before' ++ ':' :: rest' ++ t).dropWhile (· ≠ ':')).drop 1 = rest' ++ t := by
        rw [List.append_assoc, List.cons_append, dropWhile_first hcolon' (by decide)]
        rfl
      refine (continues_parseFile (hclosed.of_suffix ?_) hends.of_visible).of_eq ?_ ?_
      · exact ⟨before' ++ [':'], by simp⟩
      · have hnil := hdrop []
        rw [List.append_nil, List.append_nil] at hnil
        rw [parse_of_file hk hself, hstrip, hnil]
      · intro added ha
        rw [parse_of_file hk (hadded added ha), hbehind added ha, hdrop]
    | web =>
      rw [if_neg (by rw [hk]; decide)] at hends
      obtain ⟨c, hc, hsep⟩ := hends
      have hslash : (c == '/' || c == '\\') = false := (Bool.or_eq_false_iff.1 hsep).1
      obtain ⟨slashes, d, rest, rfl, hb, hd⟩ := exists_first
        (p := fun c => c == '/' || c == '\\') ⟨c, hc, hslash⟩
      refine (continues_parseHosted hk (by decide) (s := d :: rest)
        (hrest.of_suffix (List.suffix_append _ _)) (List.cons_ne_nil d rest)).of_eq ?_ ?_
      · rw [parse_of_web hk hself, dropWhile_first hb hd]
      · intro added ha
        rw [parse_of_web hk (hadded added ha), List.append_assoc, List.cons_append,
          dropWhile_first hb hd]
    | other =>
      rw [if_pos hk] at hends
      cases hslashes : ['/', '/'].isPrefixOf rest with
      | true =>
        obtain ⟨rest, rfl⟩ := List.isPrefixOf_iff_prefix.1 hslashes
        have hne' : rest ≠ [] := by
          rintro rfl
          exact hends rfl
        exact (continues_parseHosted hk (by decide) (hrest.of_suffix (List.suffix_append _ _))
          hne').of_eq (parse_of_hosted hk hself) fun added ha => parse_of_hosted hk (hadded added ha)
      | false =>
        refine (continues_parseUnhosted hk hrest hrest_ne).of_eq
          (parse_of_unhosted hk hself hslashes) fun added ha => ?_
        refine parse_of_unhosted hk (hadded added ha) ?_
        rw [isPrefixOf_append hrest_ne ha.head_ne_slash, hslashes]
  · refine .inr ⟨.relativeWithoutBase, ?_, fun added ha => ?_⟩
    · refine parse_of_readScheme_eq_none ?_
      have hnil := hread []
      rwa [List.append_nil, ← hstrip] at hnil
    · refine parse_of_readScheme_eq_none ?_
      rw [hshown added ha, hread]

end SearchPath.Url
