import SearchPath.Path.Canonical
import SearchPath.Proofs.Path.Normal
import SearchPath.Proofs.Text.Boundary
import SearchPath.Proofs.Url.Behind

/-!
# Slices of a root

The canonical form of a root is found by cutting its octets. Here the cuts are made on octets, where
each of them can fail: out of range, and inside a character.

1. A mark is cut off in front of a text, in whatever case (`cutStart`); that never fails
   (`cutStart_eq`), and it is how every `jar:` is dropped (`dropArchiveScheme_eq`).
2. The anchor of a path is found by its first three octets (`cutAnchor`); none of them is looked at
   that is not there (`cutAnchor_eq`).
3. A root that is read as the URL of a file can be cut behind as many octets as there are in `file:`
   (`isBoundary_of_file`), although other characters may stand there: controls and spaces in front
   and line breaks anywhere do not count, but like the letters of the scheme they are ASCII.
-/

namespace SearchPath.Path

open SearchPath.Text

/-! ## Marks -/

/-- The text after `mark` in whatever case, where it starts with it, by their octets; `none` if the
text is cut where it cannot be. -/
def cutStart (mark s : List Char) : Option (Option (List Char)) :=
  match takeOctets (encode mark).length s with
  | none => some none
  | some head =>
    if eqCaseless head mark then (dropOctets (encode mark).length s).map some else some none

/-- The text after `mark` in whatever case, where it starts with it. -/
def dropStart (mark s : List Char) : Option (List Char) :=
  if eqCaseless (s.take mark.length) mark then some (s.drop mark.length) else none

/-- What is `mark` in whatever case is cut off with as many octets. -/
theorem takeOctets_of_eqCaseless {mark s : List Char}
    (h : eqCaseless (s.take mark.length) mark = true) :
    takeOctets (encode mark).length s = some (s.take mark.length) :=
  takeOctets_eq_some_iff.2
    ⟨s.drop mark.length, (List.take_append_drop _ _).symm, length_encode_of_eqCaseless h⟩

/-- **Marks.** Behind a mark a text can always be cut. -/
theorem cutStart_eq (mark s : List Char) : cutStart mark s = some (dropStart mark s) := by
  unfold cutStart dropStart
  cases htake : takeOctets (encode mark).length s with
  | none =>
    rw [if_neg]
    intro h
    rw [takeOctets_of_eqCaseless h] at htake
    cases htake
  | some head =>
    dsimp only
    obtain ⟨back, rfl, hlength⟩ := takeOctets_eq_some_iff.1 htake
    -- texts that differ in case only are equally long, in characters as in octets
    by_cases hhead : eqCaseless head mark = true
    · have hmark := length_of_eqCaseless hhead
      rw [if_pos hhead, ← hlength, dropOctets_append, ← hmark, List.take_left', List.drop_left',
        if_pos hhead]
      all_goals rfl
    · rw [if_neg hhead, if_neg]
      intro h
      rw [takeOctets_of_eqCaseless h] at htake
      exact hhead (Option.some.inj htake ▸ h)

/-- The marks `jar:` are dropped one after the other. -/
theorem dropArchiveScheme_eq (s : List Char) :
    dropArchiveScheme s = (dropStart "jar:".toList s).elim s dropArchiveScheme := by
  have hshort {s : List Char} (h : s.length < 4) : dropStart "jar:".toList s = none := by
    refine if_neg fun he => ?_
    have hlength := length_of_eqCaseless he
    rw [List.length_take] at hlength
    have hmark : "jar:".toList.length = 4 := by decide
    omega
  match s with
  | [] | [_] | [_, _] | [_, _, _] =>
    rw [hshort (by simp)]
    rfl
  | j :: a :: r :: colon :: rest =>
    have hstart : dropStart "jar:".toList (j :: a :: r :: colon :: rest) =
        if [j, a, r].map Char.toLower = ['j', 'a', 'r'] ∧ colon = ':' then some rest else none := by
      have hcolon : colon.toLower = ':' ↔ colon = ':' :=
        ⟨eq_of_toLower_eq (by decide), fun h => by rw [h]; decide⟩
      refine if_congr ?_ rfl rfl
      show eqCaseless [j, a, r, colon] ['j', 'a', 'r', ':'] = true ↔ _
      simp [eqCaseless, hcolon, and_assoc]
    rw [hstart]
    by_cases hcolon : colon = ':'
    · subst hcolon
      rw [dropArchiveScheme]
      by_cases hjar : [j, a, r].map Char.toLower = ['j', 'a', 'r']
      · rw [if_pos hjar, if_pos ⟨hjar, rfl⟩, Option.elim_some]
      · rw [if_neg hjar, if_neg fun h => hjar h.1, Option.elim_none]
    · rw [if_neg fun h => hcolon h.2, Option.elim_none, dropArchiveScheme]
      rintro _ _ _ _ ⟨⟩
      exact hcolon rfl

/-! ## Anchors -/

/-- Whether an octet is in `p` as a character; `none` if there is no such octet. -/
def testOctet (p : Char → Bool) (octets : List UInt8) (i : Nat) : Option Bool :=
  octets[i]?.map fun octet => p (Char.ofNat octet.toNat)

/-- Both conditions. The second one is looked at only where the first one holds. -/
def andThen (first second : Option Bool) : Option Bool :=
  first.bind fun holds => if holds then second else some false

/-- Whether octets start with a drive: a letter and a colon at their end or before a slash. -/
def testDrive (octets : List UInt8) : Option Bool :=
  if octets.length < 2 then some false
  else
    andThen (testOctet Char.isAlpha octets 0) <|
      andThen (testOctet (· == ':') octets 1) <|
        if octets.length = 2 then some true else testOctet (· == '/') octets 2

/-- The anchor of a path and the path after it, by their octets; `none` if an octet is looked at
that is not there. Behind a drive without a slash there is nothing to cut. -/
def cutAnchor : List Char → Option (Option Anchor × List Char)
  | '/' :: rest => some (some .slash, rest)
  | path =>
    (testDrive (encode path)).bind fun isDrive =>
      if isDrive then
        (encode path)[0]?.map fun octet =>
          (some (.drive (Char.ofNat octet.toNat).toUpper), (dropOctets 3 path).getD [])
      else some (none, path)

theorem toNat_ofNat_octet (octet : UInt8) : (Char.ofNat octet.toNat).toNat = octet.toNat := by
  have hlt := octet.toNat_lt
  unfold Char.ofNat
  rw [dif_pos (.inl (by omega))]
  rfl

theorem testOctet_zero {p : Char → Bool} (hp : ∀ c, 0x80 ≤ c.toNat → p c = false) (c : Char)
    (s : List Char) : testOctet p (encode (c :: s)) 0 = some (p c) := by
  obtain ⟨first, more, hencode, hascii, hother⟩ := exists_first_octet c
  unfold testOctet
  rw [encode_cons, hencode, List.cons_append, List.getElem?_cons_zero, Option.map_some]
  by_cases hc : c.toNat < 0x80
  · rw [hascii hc, Char.ofNat_toNat]
  · have hc := Nat.le_of_not_lt hc
    rw [hp c hc, hp _ ((toNat_ofNat_octet first).symm ▸ hother hc)]

theorem testOctet_succ {c : Char} (h : c.toNat < 0x80) (p : Char → Bool) (s : List Char) (i : Nat) :
    testOctet p (encode (c :: s)) (i + 1) = testOctet p (encode s) i := by
  unfold testOctet
  rw [encode_cons, String.utf8EncodeChar_eq_singleton (utf8Size_of_ascii h), List.singleton_append,
    List.getElem?_cons_succ]

/-- Whether a path starts with a drive. -/
def hasDrive : List Char → Bool
  | c :: d :: rest => c.isAlpha && d == ':' && rest.head?.all (· == '/')
  | _ => false

/-- No octet is looked at that is not there. -/
theorem testDrive_encode (path : List Char) : testDrive (encode path) = some (hasDrive path) := by
  have hletter : ∀ c : Char, 0x80 ≤ c.toNat → c.isAlpha = false := fun c hc =>
    Bool.eq_false_iff.2 fun h => Nat.not_lt_of_le hc (ascii_of_isAlpha h)
  have hmark (d : Char) (hd : d.toNat < 0x80) (c : Char) (hc : 0x80 ≤ c.toNat) : (c == d) = false :=
    beq_eq_false_iff_ne.2 fun he => by rw [he] at hc; omega
  cases path with
  | nil => rfl
  | cons c s =>
    unfold testDrive
    rw [testOctet_zero hletter]
    by_cases hc : c.isAlpha = true
    case neg =>
      rw [Bool.eq_false_iff.2 hc]
      cases s <;> simp [andThen, hasDrive, hc]
    have hascii := ascii_of_isAlpha hc
    rw [length_encode_cons, utf8Size_of_ascii hascii, testOctet_succ hascii]
    cases s with
    | nil => rfl
    | cons d s =>
      rw [testOctet_zero (hmark ':' (by decide)), length_encode_cons]
      have hpos := d.utf8Size_pos
      rw [if_neg (by omega)]
      by_cases hd : d = ':'
      case neg => simp [andThen, hasDrive, hc, hd]
      subst hd
      rw [testOctet_succ hascii, testOctet_succ (by decide)]
      cases s with
      | nil => simp [andThen, hasDrive, hc]; decide
      | cons e s =>
        have hpos := e.utf8Size_pos
        rw [testOctet_zero (hmark '/' (by decide)), length_encode_cons, if_neg (by omega)]
        simp [andThen, hasDrive, hc]

theorem splitAnchor_ne_none {path : List Char} (h : hasDrive path = true) :
    (splitAnchor path).1 ≠ none := by
  fun_cases splitAnchor path with
  | case1 rest => exact Option.some_ne_none _
  | case2 c hslash hc => exact Option.some_ne_none _
  | case3 c hslash hc => simp [hasDrive, hc] at h
  | case4 c rest hslash hc => exact Option.some_ne_none _
  | case5 c rest hslash hc => simp [hasDrive, hc] at h
  | case6 path hslash halone hdrive =>
    match path with
    | [] | [_] => cases h
    | [c, d] =>
      simp only [hasDrive, Bool.and_eq_true, beq_iff_eq] at h
      exact absurd (h.1.2 ▸ rfl) (halone c)
    | c :: d :: e :: rest =>
      simp only [hasDrive, List.head?_cons, Option.all_some, Bool.and_eq_true, beq_iff_eq] at h
      obtain ⟨⟨-, rfl⟩, rfl⟩ := h
      exact absurd rfl (hdrive c rest)

theorem ascii_of_mem_drive {c : Char} (hc : c.isAlpha = true) :
    ∀ d ∈ [c, ':', '/'], d.toNat < 0x80 := by
  intro d hd
  simp only [List.mem_cons, List.not_mem_nil, or_false] at hd
  rcases hd with rfl | rfl | rfl
  · exact ascii_of_isAlpha hc
  · decide
  · decide

/-- Nothing can be cut off behind a drive that is alone. -/
theorem dropOctets_drive {c : Char} (hc : c.isAlpha = true) : dropOctets 3 [c, ':'] = none := by
  refine Option.not_isSome_iff_eq_none.1 fun h => ?_
  have hle := (isSome_dropOctets_iff.1 h).le
  rw [length_encode_of_ascii fun d hd =>
    ascii_of_mem_drive hc d (List.mem_append_left ['/'] hd)] at hle
  exact absurd hle (by decide : ¬3 ≤ 2)

/-- Behind a drive and a slash a path can be cut. -/
theorem dropOctets_drive_slash {c : Char} (hc : c.isAlpha = true) (rest : List Char) :
    dropOctets 3 (c :: ':' :: '/' :: rest) = some rest :=
  dropOctets_eq_some_iff.2
    ⟨[c, ':', '/'], rfl, length_encode_of_ascii (ascii_of_mem_drive hc)⟩

/-- **Anchors.** The anchor of a path is found by its octets, and these can be looked at. -/
theorem cutAnchor_eq (path : List Char) : cutAnchor path = some (splitAnchor path) := by
  have hfirst {c : Char} (hc : c.isAlpha = true) (s : List Char) :
      ∃ octet, (encode (c :: s))[0]? = some octet ∧ Char.ofNat octet.toNat = c := by
    obtain ⟨first, more, hencode, hascii, -⟩ := exists_first_octet c
    refine ⟨first, by rw [encode_cons, hencode]; rfl, ?_⟩
    rw [hascii (ascii_of_isAlpha hc), Char.ofNat_toNat]
  unfold cutAnchor
  split
  next rest => rfl
  next hslash =>
    rw [testDrive_encode, Option.bind_some]
    rcases splitAnchor_cases path with ⟨rest, rfl, -⟩ | ⟨c, hc, rfl, he⟩ | ⟨c, rest, hc, rfl, he⟩ | he
    · exact absurd rfl (hslash rest)
    · obtain ⟨octet, hoctet, hchar⟩ := hfirst hc [':']
      have hpath : hasDrive [c, ':'] = true := by simp [hasDrive, hc]
      rw [if_pos hpath, hoctet, Option.map_some, hchar, dropOctets_drive hc, he]
      rfl
    · obtain ⟨octet, hoctet, hchar⟩ := hfirst hc (':' :: '/' :: rest)
      have hpath : hasDrive (c :: ':' :: '/' :: rest) = true := by simp [hasDrive, hc]
      rw [if_pos hpath, hoctet, Option.map_some, hchar, dropOctets_drive_slash hc, he]
      rfl
    · rw [he, if_neg fun h => splitAnchor_ne_none h (he ▸ rfl)]

/-- Behind the drive of a path is a boundary, unless the drive is alone. -/
theorem isBoundary_of_drive {path rest : List Char} {letter : Char}
    (h : splitAnchor path = (some (.drive letter), rest)) :
    IsBoundary 3 path ∨ (encode path).length = 2 ∧ rest = [] := by
  rcases splitAnchor_cases path with ⟨_, -, he⟩ | ⟨c, hc, rfl, he⟩ | ⟨c, _, hc, rfl, -⟩ | he
  · rw [he] at h
    cases h
  · rw [he] at h
    refine .inr ⟨?_, (Prod.mk.inj h).2.symm⟩
    exact length_encode_of_ascii fun d hd =>
      ascii_of_mem_drive hc d (List.mem_append_left ['/'] hd)
  · exact .inl (isSome_dropOctets_iff.1 (Option.isSome_of_eq_some (dropOctets_drive_slash hc _)))
  · rw [he] at h
    cases h

/-! ## URLs of files -/

/-- Controls and spaces stand in front of what is not stripped. -/
theorem exists_strip_append (s : List Char) :
    ∃ before after, s = before ++ Url.strip s ++ after ∧ ∀ c ∈ before, c.toNat ≤ 0x20 := by
  obtain ⟨after, hafter, -⟩ :=
    trimEnd_append_rest (fun c : Char => c.toNat ≤ 0x20) (s.dropWhile (·.toNat ≤ 0x20))
  refine ⟨s.takeWhile (·.toNat ≤ 0x20), after, ?_, fun c hc => ?_⟩
  · rw [List.append_assoc]
    exact (List.takeWhile_append_dropWhile.symm.trans (congrArg _ hafter))
  · simpa using List.mem_takeWhile_imp hc

theorem ascii_of_isBreak {c : Char} (h : Url.isBreak c = true) : c.toNat < 0x80 := by
  simp only [Url.isBreak, Bool.or_eq_true, beq_iff_eq] at h
  rcases h with (rfl | rfl) | rfl <;> decide

theorem parse_of_readUrl {s : List Char} {url : Url} (h : readUrl s = some url) :
    Url.parse s = .ok url := by
  unfold readUrl at h
  split at h
  case h_2 => cases h
  next found hfound =>
    split at h <;> cases h
    exact hfound

/-- In front of the first colon of the URL of a file stand these letters, and nothing else but what
does not count. -/
theorem exists_file_colon {s : List Char} {url : Url} (h : Url.parse s = .ok url)
    (hfile : url.scheme = "file".toList) :
    ∃ before rest, Url.strip s = before ++ ':' :: rest ∧
      (Url.visible before).map Char.toLower = "file".toList := by
  cases hread : Url.readScheme (Url.visible (Url.strip s)) with
  | none =>
    rw [Url.parse_of_readScheme_eq_none hread] at h
    cases h
  | some found =>
    obtain ⟨scheme, rest⟩ := found
    obtain ⟨name, hvisible, hname⟩ := Url.exists_of_readScheme hread
    rw [← Url.scheme_of_parse hread h, hfile] at hname
    have hcolon : ':' ∉ name := fun hm => by
      have hmem : ':'.toLower ∈ "file".toList := hname ▸ List.mem_map_of_mem hm
      exact absurd hmem (by decide)
    obtain ⟨before, rest', hstrip, -, rfl⟩ := Url.exists_colon hvisible hcolon
    rw [hstrip, Url.visible_append, Url.visible_cons (by decide)] at hvisible
    exact ⟨before, rest', hstrip, List.append_cancel_right hvisible ▸ hname.symm⟩

/-- The URL of a file starts with ASCII characters, at least as many as there are in `file:`. -/
theorem exists_ascii_of_file {s : List Char} {url : Url} (h : Url.parse s = .ok url)
    (hfile : url.scheme = "file".toList) :
    ∃ front back, s = front ++ back ∧ (∀ c ∈ front, c.toNat < 0x80) ∧
      fileSchemeSize ≤ front.length := by
  obtain ⟨before, rest, hstrip, hname⟩ := exists_file_colon h hfile
  obtain ⟨blanks, after, hs, hblanks⟩ := exists_strip_append s
  have hbefore (c : Char) (hc : c ∈ before) : c.toNat < 0x80 := by
    by_cases hbreak : Url.isBreak c = true
    · exact ascii_of_isBreak hbreak
    · have hvisible : c ∈ Url.visible before := List.mem_filter.2 ⟨hc, by simpa using hbreak⟩
      have hmem : c.toLower ∈ "file".toList := hname ▸ List.mem_map_of_mem hvisible
      exact ascii_of_isAlpha (isAlpha_of_toLower_mem (by decide) hmem)
  -- what stands before and between the letters only makes the front longer
  refine ⟨blanks ++ (before ++ [':']), rest ++ after, ?_, fun c hc => ?_, ?_⟩
  · rw [hstrip] at hs
    simpa using hs
  · rcases List.mem_append.1 hc with hc | hc
    · exact Nat.lt_of_le_of_lt (hblanks c hc) (by decide)
    · rcases List.mem_append.1 hc with hc | hc
      · exact hbefore c hc
      · rw [List.mem_singleton.1 hc]
        decide
  · have hlength : (Url.visible before).length = 4 := by
      rw [← List.length_map Char.toLower, hname]
      decide
    have hle : (Url.visible before).length ≤ before.length := List.length_filter_le _ _
    simp only [List.length_append, List.length_singleton]
    show 5 ≤ _
    omega

/-- **URLs of files.** Behind as many octets as there are in `file:` is a boundary. -/
theorem isBoundary_of_file {s : List Char} {url : Url} (h : readUrl s = some url)
    (hfile : url.scheme = "file".toList) : IsBoundary fileSchemeSize s := by
  obtain ⟨front, back, rfl, hascii, hlength⟩ :=
    exists_ascii_of_file (parse_of_readUrl h) hfile
  exact isBoundary_of_ascii hascii hlength back

/-- **Slices in range.** Where a root is read as the URL of a file, it has as many octets as `file:`
and a boundary behind them, so that it is cut there. A mark is cut off by its octets wherever a text
starts with it, and so is every `jar:` in front of a root. The anchor of a path is found by its
octets, and what is cut off behind a drive ends at a boundary, unless the drive is alone. -/
theorem slices_in_range :
    (∀ base raw url, readUrl (dropArchiveScheme (trim raw)) = some url →
      url.scheme = "file".toList →
        canonicalChars base raw =
          canonicalOfFileUrl base (trim raw) (dropArchiveScheme (trim raw)) url ∧
        fileSchemeSize ≤ (encode (dropArchiveScheme (trim raw))).length ∧
        IsBoundary fileSchemeSize (dropArchiveScheme (trim raw)) ∧
        ∃ path, dropOctets fileSchemeSize (dropArchiveScheme (trim raw)) = some path) ∧
      (∀ mark s, cutStart mark s = some (dropStart mark s)) ∧
      (∀ s, dropArchiveScheme s = (dropStart "jar:".toList s).elim s dropArchiveScheme) ∧
      (∀ path, cutAnchor path = some (splitAnchor path)) ∧
      ∀ path letter rest, splitAnchor path = (some (.drive letter), rest) →
        IsBoundary 3 path ∨ (encode path).length = 2 ∧ rest = [] := by
  refine ⟨fun base raw url h hfile => ?_, cutStart_eq, dropArchiveScheme_eq, cutAnchor_eq,
    fun _ _ _ => isBoundary_of_drive⟩
  have hboundary := isBoundary_of_file h hfile
  refine ⟨?_, hboundary.le, hboundary,
    Option.isSome_iff_exists.1 (isSome_dropOctets_iff.2 hboundary)⟩
  unfold canonicalChars
  dsimp only
  rw [h]
  exact if_pos hfile

/-- The octets in front of the boundary need not be `file:`. -/
theorem slices_in_range_tab :
    ∃ url, readUrl (dropArchiveScheme (trim "JAR:\x01f\tile:é".toList)) = some url ∧
      url.scheme = "file".toList ∧
      IsBoundary fileSchemeSize (dropArchiveScheme (trim "JAR:\x01f\tile:é".toList)) ∧
      dropOctets fileSchemeSize (dropArchiveScheme (trim "JAR:\x01f\tile:é".toList)) =
        some "e:é".toList := by
  have hread : (readUrl (dropArchiveScheme (trim "JAR:\x01f\tile:é".toList))).isSome := by
    decide +kernel
  obtain ⟨url, hurl⟩ := Option.isSome_iff_exists.1 hread
  have hfile : url.scheme = "file".toList := by
    have hscheme : (readUrl (dropArchiveScheme (trim "JAR:\x01f\tile:é".toList))).map (·.scheme) =
        some "file".toList := by decide +kernel
    rw [hurl] at hscheme
    exact Option.some.inj hscheme
  obtain ⟨-, -, hboundary, -⟩ := slices_in_range.1 [] _ url hurl hfile
  exact ⟨url, hurl, hfile, hboundary, by decide +kernel⟩

end SearchPath.Path
