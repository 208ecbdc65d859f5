import SearchPath.Container.Directory
import SearchPath.Proofs.FileTree
import SearchPath.Proofs.Path.Entry

/-!
# The resources of a directory

1. A resource path either leads to a file below the directory, or it is refused whatever the file
   tree holds (`fileOf_stays_below`).
2. The files below a directory are listed with the backslashes of their names as slashes
   (`filesBelow_eq`). What is listed leads back to the file if the names survive that and their
   first is not taken for a drive (`LeadsBack.locate_file`), and only then
   (`Linkless.leadsBack_of_locate`).
3. Main result (`listing_of_directory`): what a directory lists, which of it is opened again, and
   when nothing is listed twice.
-/

namespace SearchPath

namespace DirectoryContainer

open SearchPath.Text SearchPath.Path
open FileTree (namesOf namesOf_append namesOf_below namesOf_join)

variable {directory : DirectoryContainer} {path file : String} {names : List (List Char)}

/-! ## The names of a resource path -/

theorem namesOf_drive {letter : Char} {segments : List (List Char)} (h : letter.isUpper = true)
    (hs : ∀ s ∈ segments, IsSegment s) :
    namesOf (Anchor.text (.drive letter) ++ join '/' segments) = [letter, ':'] :: segments := by
  have hdrive : namesOf [letter, ':'] = [[letter, ':']] :=
    namesOf_join (List.forall_mem_singleton.2 (isSegment_drive (isAlpha_of_isUpper h)))
  show namesOf ([letter, ':'] ++ '/' :: join '/' segments) = _
  rw [namesOf_append, hdrive, namesOf_join hs]
  rfl

theorem isSegment_of_mem_namesOf {path name : List Char} (h : name ∈ namesOf (entryChars path)) :
    IsSegment name := by
  rcases entryChars_cases path with ⟨segments, htidy, he⟩ | ⟨letter, segments, hupper, htidy, he⟩
  · rw [he, namesOf_join htidy.isSegment] at h
    exact htidy.isSegment name h
  · rw [he, namesOf_drive hupper htidy.isSegment] at h
    rcases List.mem_cons.1 h with rfl | h
    · exact isSegment_drive (isAlpha_of_isUpper hupper)
    · exact htidy.isSegment name h

/-- **What is refused.** The check for `..` at the very start is enough: a path inside a container
has it nowhere else. -/
theorem refused_iff (path : List Char) :
    (entryChars path = [] ∨ entryChars path = ['.', '.'] ∨
        (stripStart ['.', '.', '/'] (entryChars path)).isSome = true) ↔
      namesOf (entryChars path) = [] ∨ above ∈ namesOf (entryChars path) := by
  rcases entryChars_cases path with ⟨segments, h, he⟩ | ⟨letter, segments, hupper, h, he⟩
  all_goals rw [he]
  · have hnames := namesOf_join h.isSegment
    rw [hnames]
    constructor
    · rintro (hnil | habove | hstrip)
      · rw [hnil] at hnames
        exact .inl hnames.symm
      · rw [habove] at hnames
        exact .inr (hnames ▸ List.mem_cons_self)
      · obtain ⟨rest, hrest⟩ := Option.isSome_iff_exists.1 hstrip
        rw [stripStart_eq_some_iff.1 hrest] at hnames
        exact .inr (hnames ▸ List.mem_cons_self)
    · rintro (hnil | hm)
      · exact .inl (by rw [hnil]; rfl)
      · right
        obtain ⟨first, rest, rfl⟩ := List.exists_cons_of_ne_nil (List.ne_nil_of_mem hm)
        have hfirst : first = above := by
          rcases List.mem_cons.1 hm with hm | hm
          · exact hm.symm
          · exact (List.pairwise_cons.1 h.above_first).1 above hm rfl
        subst hfirst
        by_cases hrest : rest = []
        · exact .inl (by rw [hrest]; rfl)
        · right
          rw [join_cons_ne_nil '/' above hrest]
          rfl
  · rw [namesOf_drive hupper h.isSegment]
    constructor
    · rintro (hnil | habove | hstrip)
      · cases hnil
      · cases habove
      · obtain ⟨rest, hrest⟩ := Option.isSome_iff_exists.1 hstrip
        cases stripStart_eq_some_iff.1 hrest
    · rintro (hnil | hm)
      · cases hnil
      · rcases List.mem_cons.1 hm with hm | hm
        · cases hm
        · exact absurd hm (h.no_above rfl)

theorem fileOf_eq (directory : DirectoryContainer) (path : String) :
    directory.fileOf path =
      if namesOf (entryPath path).toList = [] ∨ above ∈ namesOf (entryPath path).toList then
        .error (.missingResource path)
      else .ok (FileTree.join directory.root (entryPath path)) := by
  have hpath : (entryPath path).toList = entryChars path.toList := String.toList_ofList
  have hrefused := refused_iff path.toList
  unfold fileOf
  dsimp only
  rw [hpath]
  split_ifs with h h' h'
  · rfl
  · exact absurd (hrefused.1 h) h'
  · exact absurd (hrefused.2 h') h
  · rfl

/-- What is not refused consists of names that nodes can have. -/
theorem of_fileOf (h : directory.fileOf path = .ok file) :
    file = FileTree.join directory.root (entryPath path) ∧ namesOf (entryPath path).toList ≠ [] ∧
      ∀ name ∈ namesOf (entryPath path).toList, IsName name := by
  rw [fileOf_eq] at h
  split_ifs at h with hnames
  cases h
  refine ⟨rfl, fun hnil => hnames (.inl hnil), fun name hm => ⟨?_, ?_⟩⟩
  · rw [entryPath, String.toList_ofList] at hm
    exact isSegment_of_mem_namesOf hm
  · rintro rfl
    exact hnames (.inr hm)

theorem stream_of_refused {e : ContainerFault} (h : directory.fileOf path = .error e) :
    directory.stream path = .error e := by
  unfold stream
  rw [h]

/-- **Nothing outside the directory.** A resource path leads to the directory followed by at least
one name, none of which is `.` or `..`, or it is refused. What is refused is so whatever the file
tree holds. -/
theorem fileOf_stays_below (directory : DirectoryContainer) (path : String) :
    let names := namesOf (entryPath path).toList
    let file := FileTree.join directory.root (entryPath path)
    (directory.fileOf path = .ok file ∧ (entryPath path).toList.head? ≠ some '/' ∧ names ≠ [] ∧
        (∀ name ∈ names, IsName name) ∧
        namesOf file.toList = namesOf directory.root.toList ++ names) ∨
      (directory.fileOf path = .error (.missingResource path) ∧ (names = [] ∨ above ∈ names) ∧
        ∀ tree : FileTree, let other : DirectoryContainer := ⟨tree, directory.root⟩
          other.stream path = .error (.missingResource path) ∧
          Readable.octets other path = .error (.missingResource path)) := by
  intro names file
  have heq := directory.fileOf_eq path
  split_ifs at heq with hnames
  · refine .inr ⟨heq, hnames, fun tree => ?_⟩
    intro other
    have hstream : other.stream path = .error (.missingResource path) := stream_of_refused heq
    refine ⟨hstream, ?_⟩
    show octetsByStream other.stream path = _
    unfold octetsByStream
    rw [hstream]
    rfl
  · obtain ⟨-, hnil, hname⟩ := of_fileOf heq
    refine .inl ⟨heq, ?_, hnil, hname, ?_⟩
    · rw [entryPath, String.toList_ofList]
      exact head?_entryChars path.toList
    · show namesOf (FileTree.join directory.root (entryPath path)).toList = _
      rw [toList_join, namesOf_below]

/-- Two steps up behind one name leave the directory. -/
example (tree : FileTree) :
    fileOf ⟨tree, "/d"⟩ "a\\../..//b" = .error (.missingResource "a\\../..//b") := rfl

/-! ## What is listed -/

variable {tree : FileTree} {place found : List (List Char)} {content : List UInt8}

theorem slashed_eq_self {name : List Char} (h : '\\' ∉ name) : slashed name = name :=
  unify_eq_self h

/-- The resource path of a file below a directory. -/
def shownAs (names : List (List Char)) : String :=
  String.ofList (join '/' (names.map slashed))

/-- **The listing.** Without links below it a directory lists the files below it, each with its
backslashes as slashes. -/
theorem filesBelow_eq (hw : tree.WellFormed) (hl : tree.LinklessBelow place)
    (hpath : tree.locate path = some place) (depth : Nat) (above : List (List (List Char)))
    (relative : List Char) :
    filesBelow tree depth (place :: above) path relative =
      (tree.filesUnder depth place).map fun names =>
        String.ofList (relative ++ join '/' (names.map slashed)) := by
  induction depth generalizing place path above relative with
  | zero => rfl
  | succ depth ih =>
    obtain ⟨left, hleft⟩ := FileTree.exists_locate_join hpath
    rw [filesBelow, FileTree.filesUnder, List.map_flatMap, List.headD_cons]
    refine List.flatMap_congr fun name hname => ?_
    obtain ⟨_, hm⟩ := FileTree.mem_namesIn_iff.1 hname
    have hslash : '/' ∉ name :=
      (hw.isName _ hm name (List.mem_append_right place List.mem_cons_self)).no_slash
    obtain ⟨node, hnode⟩ := Option.isSome_iff_exists.1 (FileTree.nodeAt_isSome_of_mem hm)
    have hinner : tree.locate (FileTree.join path (String.ofList name)) =
        some (place ++ [name]) := by
      rw [hleft, String.toList_ofList, pieces_eq_singleton hslash]
      exact hw.walk_of_nodeAt hl hnode
    dsimp only
    rw [hinner]
    dsimp only
    rw [hnode]
    cases node with
    | file content => rfl
    | link target => exact absurd hnode (hl.nodeAt_ne_link (List.cons_ne_nil name []) target)
    | directory =>
      have hlink : isLink tree place name = false := by
        unfold isLink
        rw [hnode]
      dsimp only
      rw [hlink, Bool.false_and, if_neg Bool.false_ne_true, ih (hl.below [name]) hinner,
        List.map_map]
      refine List.map_congr_left fun names hnames => ?_
      have hne : names.map slashed ≠ [] := by
        rw [Ne, List.map_eq_nil_iff]
        exact (hw.mem_filesUnder.1 hnames).1
      dsimp only [Function.comp]
      rw [List.map_cons, join_cons_ne_nil '/' _ hne, List.append_assoc, List.append_assoc]
      rfl

/-- The directory stands at a place of a well-formed tree, and no link stands there or below. -/
structure Linkless (directory : DirectoryContainer) (place : List (List Char)) : Prop where
  wellFormed : directory.tree.WellFormed
  located : directory.tree.locate directory.root = some place
  linkless : directory.tree.LinklessBelow place

theorem Linkless.paths_eq (h : directory.Linkless place) :
    directory.paths =
      (directory.tree.filesUnder (depthBound directory.tree) place).map shownAs := by
  unfold paths
  rw [h.located]
  exact filesBelow_eq h.wellFormed h.linkless h.located _ _ _

/-! ## Opening what is listed -/

/-- The names of a file come back from its resource path: no backslash stands in them, and the first
of them is no letter with a colon, which is read as a drive, unless the letter is in upper case and
more names follow. -/
structure LeadsBack (names : List (List Char)) : Prop where
  no_backslash : ∀ name ∈ names, '\\' ∉ name
  drive : ∀ letter rest, names = [letter, ':'] :: rest → letter.isAlpha = true →
    letter.isUpper = true ∧ rest ≠ []

theorem tidy_of_isName (h : ∀ name ∈ names, IsName name) : Tidy true names where
  isSegment name hn := (h name hn).toIsSegment
  above_first := List.pairwise_of_forall_mem_list fun _ _ name hn he =>
    absurd he (h name hn).ne_above
  no_above _ hn := (h above hn).ne_above rfl

theorem leadsBack_iff (hne : names ≠ []) (h : ∀ name ∈ names, IsName name) :
    LeadsBack names ↔ IsEntry (join '/' names) := by
  rw [isEntry_join_iff hne (tidy_of_isName h)]
  exact ⟨fun hb => ⟨hb.1, hb.2⟩, fun hb => ⟨hb.1, hb.2⟩⟩

theorem stream_of_locate (hopen : directory.fileOf path = .ok file)
    (hfile : directory.tree.locate file = some found)
    (hnode : directory.tree.nodeAt found = some (.file content)) :
    directory.stream path = .ok (.ofOctets content) ∧
      Readable.octets directory path = .ok content := by
  have hstream : directory.stream path = .ok (.ofOctets content) := by
    unfold stream FileTree.content? FileTree.lookup
    rw [hopen]
    dsimp only
    rw [hfile, Option.bind_some, hnode]
  refine ⟨hstream, ?_⟩
  obtain ⟨hall, hnone⟩ := ByteStream.readToEnd_ofOctets content
  show octetsByStream directory.stream path = _
  unfold octetsByStream
  rw [hstream]
  dsimp only [bind, Except.bind]
  generalize (ByteStream.ofOctets content).readToEnd = read at hall hnone
  obtain ⟨bytes, failure, rest⟩ := read
  dsimp only at hall hnone
  rw [hall, hnone]
  rfl

theorem stream_of_missing (hopen : directory.fileOf path = .ok file)
    (hfile : directory.tree.locate file = none) :
    directory.stream path = .error (.missingResource path) := by
  unfold stream FileTree.content? FileTree.lookup
  rw [hopen]
  dsimp only
  rw [hfile, Option.bind_none]

theorem locate_of_stream {opened : ByteStream} (h : directory.stream path = .ok opened) :
    ∃ file found content, directory.fileOf path = .ok file ∧
      directory.tree.locate file = some found ∧
      directory.tree.nodeAt found = some (.file content) ∧ opened = .ofOctets content := by
  unfold stream FileTree.content? FileTree.lookup at h
  split at h
  · cases h
  next file hopen =>
    split at h
    next content hcontent =>
      split at hcontent
      next octets hnode =>
        obtain ⟨found, hfound, hnode⟩ := Option.bind_eq_some_iff.1 hnode
        cases hcontent
        cases h
        exact ⟨file, found, content, hopen, hfound, hnode, rfl⟩
      next => cases hcontent
    next => cases h

/-- A resource path leads to the place of its names below the directory and nowhere else. -/
theorem Linkless.eq_of_locate (h : directory.Linkless place)
    (hopen : directory.fileOf path = .ok file)
    (hfile : directory.tree.locate file = some found) :
    found = place ++ namesOf (entryPath path).toList := by
  obtain ⟨rfl, -, hnames⟩ := of_fileOf hopen
  obtain ⟨left, hleft⟩ := FileTree.exists_locate_join h.located
  rw [hleft] at hfile
  refine FileTree.eq_of_walk h.linkless (fun name hn hne => hnames name ?_) hfile
  exact List.mem_filter.2 ⟨hn, decide_eq_true hne⟩

theorem toList_shownAs (h : ∀ name ∈ names, '\\' ∉ name) :
    (shownAs names).toList = join '/' names := by
  have hmap : names.map slashed = names.map id :=
    List.map_congr_left fun name hn => slashed_eq_self (h name hn)
  rw [shownAs, String.toList_ofList, hmap, List.map_id]

theorem Linkless.isName (h : directory.Linkless place) {node : Node}
    (hnode : directory.tree.nodeAt (place ++ names) = some node) : ∀ name ∈ names, IsName name :=
  fun name hn => h.wellFormed.isName_of_nodeAt hnode name (List.mem_append_right place hn)

/-- A file whose names come back is found under its resource path. -/
theorem LeadsBack.locate_file (hb : LeadsBack names) (h : directory.Linkless place)
    (hne : names ≠ []) (hnode : directory.tree.nodeAt (place ++ names) = some (.file content)) :
    ∃ file, directory.fileOf (shownAs names) = .ok file ∧
      directory.tree.locate file = some (place ++ names) := by
  have hnames := h.isName hnode
  have hentry : (entryPath (shownAs names)).toList = join '/' names := by
    rw [entryPath, String.toList_ofList, toList_shownAs hb.no_backslash]
    exact entryChars_of_isEntry ((leadsBack_iff hne hnames).1 hb)
  refine ⟨FileTree.join directory.root (entryPath (shownAs names)), ?_, ?_⟩
  · have hpath : namesOf (entryPath (shownAs names)).toList = names := by
      rw [hentry, namesOf_join fun name hn => (hnames name hn).toIsSegment]
    rw [fileOf_eq, hpath, if_neg]
    rintro (hnil | hm)
    · exact hne hnil
    · exact (hnames above hm).ne_above rfl
  · obtain ⟨left, hleft⟩ := FileTree.exists_locate_join h.located
    rw [hleft, hentry, pieces_join hne fun name hn => (hnames name hn).no_slash]
    exact h.wellFormed.walk_of_nodeAt h.linkless hnode

theorem LeadsBack.stream_eq (hb : LeadsBack names) (h : directory.Linkless place)
    (hne : names ≠ []) (hnode : directory.tree.nodeAt (place ++ names) = some (.file content)) :
    directory.stream (shownAs names) = .ok (.ofOctets content) ∧
      Readable.octets directory (shownAs names) = .ok content := by
  obtain ⟨file, hopen, hfile⟩ := hb.locate_file h hne hnode
  exact stream_of_locate hopen hfile hnode

/-- A file that is found under its resource path has names that come back. -/
theorem Linkless.leadsBack_of_locate (h : directory.Linkless place) (hne : names ≠ [])
    (hnode : directory.tree.nodeAt (place ++ names) = some (.file content))
    (hopen : directory.fileOf (shownAs names) = .ok file)
    (hfile : directory.tree.locate file = some (place ++ names)) : LeadsBack names := by
  have hnames := h.isName hnode
  have hback := List.append_cancel_left (h.eq_of_locate hopen hfile)
  have hentry : (entryPath (shownAs names)).toList = entryChars (shownAs names).toList :=
    String.toList_ofList
  rw [hentry] at hback
  have hslash : ∀ name ∈ names, '\\' ∉ name := by
    intro name hn hc
    rw [hback] at hn
    exact not_mem_entryChars _ (mem_of_mem_pieces (List.mem_of_mem_filter hn) hc)
  have hjoin : join '/' names ≠ [] := by
    intro he
    have hnil := namesOf_join fun name hn => (hnames name hn).toIsSegment
    rw [he] at hnil
    exact hne hnil.symm
  rw [toList_shownAs hslash] at hback hentry
  rw [leadsBack_iff hne hnames]
  refine isEntry_of_entryChars ?_ hjoin
  rcases entryChars_cases (join '/' names) with
    ⟨segments, htidy, he⟩ | ⟨letter, segments, hupper, htidy, he⟩
  · rw [he, namesOf_join htidy.isSegment] at hback
    rw [he, hback]
  · rw [he, namesOf_drive hupper htidy.isSegment] at hback
    by_cases hnil : segments = []
    · -- a drive alone is written with a slash behind it, and nothing is found behind a file
      exfalso
      subst hnil hback
      obtain ⟨rfl, -, -⟩ := of_fileOf hopen
      obtain ⟨left, hleft⟩ := FileTree.exists_locate_join h.located
      have hcut : pieces '/' (Anchor.text (.drive letter) ++ join '/' []) =
          [[letter, ':'], []] := by
        show pieces '/' ([letter, ':'] ++ '/' :: []) = _
        rw [pieces_append,
          pieces_eq_singleton (isSegment_drive (isAlpha_of_isUpper hupper)).no_slash]
        rfl
      have hd := h.wellFormed.directory_of_append (List.cons_ne_nil _ []) hnode
      rw [hleft, hentry, he, hcut,
        FileTree.walk_behind_file hd (hnames _ List.mem_cons_self) hnode] at hfile
      cases hfile
    · rw [he, hback, join_cons_ne_nil '/' _ hnil]
      rfl

/-! ## Listed twice -/

theorem shownAs_eq_join (names : List (List Char)) :
    shownAs names = String.ofList (join '/' (names.flatMap (pieces '\\'))) := by
  have hmap : names.map slashed = (names.map (pieces '\\')).map (join '/') := by
    rw [List.map_map]
    exact List.map_congr_left fun name _ => map_replace_eq_join '\\' '/' name
  have hne : ∀ ps ∈ names.map (pieces '\\'), ps ≠ [] := by
    intro ps hps
    obtain ⟨name, -, rfl⟩ := List.mem_map.1 hps
    exact pieces_ne_nil '\\' name
  rw [shownAs, hmap, join_map_join '/' hne, List.flatMap_def]

/-- Two files are listed under one path if their names, cut at the backslashes, are the same. -/
theorem shownAs_eq_iff {other : List (List Char)} (hne : names ≠ []) (hne' : other ≠ [])
    (h : ∀ name ∈ names, '/' ∉ name) (h' : ∀ name ∈ other, '/' ∉ name) :
    shownAs names = shownAs other ↔
      names.flatMap (pieces '\\') = other.flatMap (pieces '\\') := by
  have hread {names : List (List Char)} (hne : names ≠ []) (h : ∀ name ∈ names, '/' ∉ name) :
      pieces '/' (shownAs names).toList = names.flatMap (pieces '\\') := by
    obtain ⟨name, rest, rfl⟩ := List.exists_cons_of_ne_nil hne
    rw [shownAs_eq_join, String.toList_ofList, pieces_join]
    · rw [List.flatMap_cons]
      exact List.append_ne_nil_of_left_ne_nil (pieces_ne_nil '\\' name) _
    · intro p hp hc
      obtain ⟨name, hn, hp⟩ := List.mem_flatMap.1 hp
      exact h name hn (mem_of_mem_pieces hp hc)
  constructor
  · intro he
    rw [← hread hne h, ← hread hne' h', he]
  · intro he
    rw [shownAs_eq_join, shownAs_eq_join, he]

/-! ## A directory without links -/

/-- What a directory at a place lists: the resource paths of the files below it. -/
structure Listing (directory : DirectoryContainer) (place : List (List Char))
    (files : List (List (List Char))) : Prop where
  /-- The files are those below the place, each under the names that lead to it from there. -/
  mem_iff : ∀ names, names ∈ files ↔
    names ≠ [] ∧ ∃ content, directory.tree.nodeAt (place ++ names) = some (.file content)
  nodup : files.Nodup
  paths_eq : directory.paths = files.map shownAs
  /-- Exactly the files whose names come back are found again under their resource paths. -/
  found_iff : ∀ names ∈ files,
    (∃ file, directory.fileOf (shownAs names) = .ok file ∧
      directory.tree.locate file = some (place ++ names)) ↔ LeadsBack names
  /-- They are opened and read as they are. -/
  opened : ∀ names ∈ files, LeadsBack names → ∀ content,
    directory.tree.nodeAt (place ++ names) = some (.file content) →
      directory.stream (shownAs names) = .ok (.ofOctets content) ∧
        Readable.octets directory (shownAs names) = .ok content
  /-- Whatever is opened is one of the files. -/
  mem_of_stream : ∀ path opened, directory.stream path = .ok opened →
    ∃ names ∈ files, ∃ content, directory.tree.nodeAt (place ++ names) = some (.file content) ∧
      opened = .ofOctets content
  /-- No path is listed twice, unless two files have the same names once these are cut at their
  backslashes. -/
  nodup_paths_iff : directory.paths.Nodup ↔ ∀ names ∈ files, ∀ other ∈ files,
    names.flatMap (pieces '\\') = other.flatMap (pieces '\\') → names = other

/-- **Listing and opening.** A directory without links below it lists each of its files once, with
the backslashes of its names as slashes. A listed path leads back to its file exactly if the names
survive that and are not taken for a drive; what else is opened is another of the files. -/
theorem listing_of_directory (h : directory.Linkless place) :
    ∃ files, Listing directory place files := by
  have hw := h.wellFormed
  have hmem (names : List (List Char)) :
      names ∈ directory.tree.filesUnder (depthBound directory.tree) place ↔
        names ≠ [] ∧ ∃ content, directory.tree.nodeAt (place ++ names) = some (.file content) := by
    rw [hw.mem_filesUnder]
    refine and_congr_right fun _ => and_iff_right_of_imp ?_
    rintro ⟨content, hnode⟩
    have hlen := hw.length_le_of_nodeAt hnode
    have hbound : directory.tree.nodes.length + 2 ≤ depthBound directory.tree := Nat.le_mul_self _
    rw [List.length_append] at hlen
    omega
  have hslash {names : List (List Char)}
      (hn : names ∈ directory.tree.filesUnder (depthBound directory.tree) place) :
      names ≠ [] ∧ ∀ name ∈ names, '/' ∉ name := by
    obtain ⟨hne, content, hnode⟩ := (hmem names).1 hn
    exact ⟨hne, fun name hm => (h.isName hnode name hm).no_slash⟩
  refine ⟨_, hmem, hw.nodup_filesUnder _ _, h.paths_eq, ?_, ?_, ?_, ?_⟩
  · intro names hn
    obtain ⟨hne, content, hnode⟩ := (hmem names).1 hn
    constructor
    · rintro ⟨file, hopen, hfile⟩
      exact h.leadsBack_of_locate hne hnode hopen hfile
    · exact fun hb => hb.locate_file h hne hnode
  · exact fun names hn hb content hnode => hb.stream_eq h ((hmem names).1 hn).1 hnode
  · intro path opened hs
    obtain ⟨file, found, content, hopen, hfile, hnode, rfl⟩ := locate_of_stream hs
    have hfound := h.eq_of_locate hopen hfile
    subst hfound
    obtain ⟨-, hne, -⟩ := of_fileOf hopen
    exact ⟨_, (hmem _).2 ⟨hne, content, hnode⟩, content, hnode, rfl⟩
  · rw [h.paths_eq, List.nodup_map_iff_inj_on (hw.nodup_filesUnder _ _)]
    refine forall₂_congr fun names hn => forall₂_congr fun other ho => ?_
    rw [shownAs_eq_iff (hslash hn).1 (hslash ho).1 (hslash hn).2 (hslash ho).2]

/-- A directory with a backslash in the name of a file and directories that are named like
drives. -/
def misleadingTree : FileTree :=
  ((((FileTree.empty "/w").add "a\\b" (.file [1])).add "a/b" (.file [2])).add "c:/x"
    (.file [3])).add "D:/y" (.file [4])

/-- `a\b` is listed as the file `b` in the directory `a`, which is opened in its place, and what is
listed as `c:/x` is looked for in a directory `C:`. -/
theorem listing_of_misleading_names :
    let directory : DirectoryContainer := ⟨misleadingTree, "/w"⟩
    directory.Linkless ["w".toList] ∧ (∃ files, Listing directory ["w".toList] files) ∧
      directory.paths = ["a/b", "a/b", "c:/x", "D:/y"] ∧
      directory.stream "a/b" = .ok (.ofOctets [2]) ∧
      directory.stream "c:/x" = .error (.missingResource "c:/x") ∧
      directory.stream "D:/y" = .ok (.ofOctets [4]) := by
  have hw : misleadingTree.WellFormed := by decide +kernel
  have hnone : misleadingTree.LinklessBelow [] := by decide +kernel
  have hplace : misleadingTree.nodeAt ["w".toList] = some .directory := by decide +kernel
  have hroot : misleadingTree.locate "/w" = some ([] ++ ["w".toList]) :=
    hw.walk_of_nodeAt hnone hplace
  have h : Linkless ⟨misleadingTree, "/w"⟩ ["w".toList] := ⟨hw, hroot, hnone.below ["w".toList]⟩
  refine ⟨h, listing_of_directory h, h.paths_eq.trans (by decide +kernel), ?_, ?_, ?_⟩
  · have hb : LeadsBack [['a'], ['b']] := ⟨by decide, by rintro letter rest he -; cases he⟩
    exact (hb.stream_eq h (by decide) (by decide +kernel)).1
  · have hcut : pieces '/' (entryPath "c:/x").toList = [['C', ':'], ['x']] := by decide +kernel
    have hmissing : misleadingTree.nodeAt (["w".toList] ++ [['C', ':']]) = none := by decide +kernel
    obtain ⟨left, hleft⟩ := FileTree.exists_locate_join h.located
    have hopen : fileOf ⟨misleadingTree, "/w"⟩ "c:/x" =
        .ok (FileTree.join "/w" (entryPath "c:/x")) := by
      rw [fileOf_eq, if_neg (by decide +kernel)]
    refine stream_of_missing hopen ?_
    rw [hleft, hcut, FileTree.walk_cons hplace (by decide) (by decide), hmissing]
  · have hb : LeadsBack [['D', ':'], ['y']] :=
      ⟨by decide, by rintro letter rest he -; cases he; decide⟩
    exact (hb.stream_eq h (by decide) (by decide +kernel)).1

end DirectoryContainer

end SearchPath
