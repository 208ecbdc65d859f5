import Mathlib.Data.List.Flatten
import Mathlib.Data.List.Induction
import Mathlib.Data.List.Nodup
import Mathlib.Data.List.Perm.Subperm
import SearchPath.FileTree
import SearchPath.Proofs.Path.Segments

/-!
# Walks in file trees

1. What a walk does with the names ahead depends only on where the names before them have led
   (`walk_append_cases`), so a name in a directory is found from the place of the directory
   (`exists_locate_join`).
2. In a well-formed tree every node stands in a directory (`WellFormed.directory_of_append`).
   Below a place without links names lead where they say: to the node under these names
   (`WellFormed.walk_of_nodeAt`), and nowhere else (`eq_of_walk`).
3. `filesUnder` are the names that lead to the files below a place, each of them once
   (`WellFormed.mem_filesUnder`, `WellFormed.nodup_filesUnder`).
4. The order in which a tree lists its nodes shows only in the order of the entries of a directory
   (`Relists.lookup_eq`, `Relists.entries_perm`).
-/

namespace SearchPath

open SearchPath.Text

namespace Path

/-- A name that a node can have: a segment that is no step up. -/
structure IsName (s : List Char) : Prop extends IsSegment s where
  ne_above : s ≠ above

instance (s : List Char) : Decidable (IsName s) :=
  decidable_of_iff (s ≠ [] ∧ s ≠ here ∧ '/' ∉ s ∧ s ≠ above)
    ⟨fun h => ⟨⟨h.1, h.2.1, h.2.2.1⟩, h.2.2.2⟩,
      fun h => ⟨h.ne_nil, h.ne_here, h.no_slash, h.ne_above⟩⟩

/-! ## The path of a name in a directory -/

/-- The path of a name in a directory, in characters. -/
def below (directory name : List Char) : List Char :=
  if directory = [] ∨ directory.getLast? = some '/' then directory ++ name
  else directory ++ '/' :: name

theorem endsWith_slash_iff (s : String) : s.endsWith "/" = true ↔ s.toList.getLast? = some '/' := by
  rw [String.endsWith_eq_endsWith_toSlice, String.Slice.endsWith_string_iff, String.copy_toSlice]
  exact List.singleton_suffix_iff_getLast?_eq_some

theorem toList_join (directory name : String) :
    (FileTree.join directory name).toList = below directory.toList name.toList := by
  unfold FileTree.join below
  by_cases h : directory.toList = [] ∨ directory.toList.getLast? = some '/'
  · have hd : (directory.isEmpty || directory.endsWith "/") = true := by
      rw [Bool.or_eq_true, endsWith_slash_iff, String.isEmpty_iff, ← String.toList_eq_nil_iff]
      exact h
    rw [if_pos h, if_pos hd, String.toList_append]
  · have hd : ¬(directory.isEmpty || directory.endsWith "/") = true := by
      rw [Bool.or_eq_true, endsWith_slash_iff, String.isEmpty_iff, ← String.toList_eq_nil_iff]
      exact h
    rw [if_neg h, if_neg hd, String.toList_append, String.toList_append, List.append_assoc]
    rfl

end Path

/-- The node is a link. -/
def Node.isLink : Node → Bool
  | .link _ => true
  | _ => false

namespace FileTree

open SearchPath.Path

variable {tree : FileTree} {place names found : List (List Char)} {name : List Char} {links : Nat}

/-! ## The names on a path -/

theorem namesOf_append (path more : List Char) :
    namesOf (path ++ '/' :: more) = namesOf path ++ namesOf more := by
  unfold namesOf
  rw [pieces_append, List.filter_append]

theorem namesOf_below (directory name : List Char) :
    namesOf (below directory name) = namesOf directory ++ namesOf name := by
  unfold below
  split_ifs with h
  · rcases h with rfl | h
    · rfl
    · obtain ⟨start, rfl⟩ := List.getLast?_eq_some_iff.1 h
      have hnil : namesOf [] = [] := rfl
      rw [List.append_assoc, List.singleton_append, namesOf_append, namesOf_append, hnil,
        List.append_nil]
  · exact namesOf_append directory name

theorem namesOf_join {segments : List (List Char)} (h : ∀ s ∈ segments, IsSegment s) :
    namesOf (Text.join '/' segments) = segments := by
  by_cases hnil : segments = []
  · rw [hnil]
    rfl
  · unfold namesOf
    rw [pieces_join hnil fun s hs => (h s hs).no_slash, List.filter_eq_self]
    exact fun s hs => decide_eq_true (h s hs).ne_nil

/-! ## Going on -/

theorem follow_append (place : List (List Char)) (target : List Char)
    (ahead more : List (List Char)) :
    follow place target (ahead ++ more) =
      ((follow place target ahead).1, (follow place target ahead).2 ++ more) := by
  unfold follow
  split <;> simp

/-! ### One name -/

theorem walk_of_not_directory (hd : tree.nodeAt place ≠ some .directory)
    (ahead : List (List Char)) : tree.walk links place (name :: ahead) = none := by
  rw [walk, if_pos hd]

theorem walk_of_skipped (hd : tree.nodeAt place = some .directory)
    (hname : name = [] ∨ name = ['.']) (ahead : List (List Char)) :
    tree.walk links place (name :: ahead) = tree.walk links place ahead := by
  rw [walk, if_neg (not_not.2 hd), if_pos hname]

theorem walk_above (hd : tree.nodeAt place = some .directory) (ahead : List (List Char)) :
    tree.walk links place (['.', '.'] :: ahead) = tree.walk links place.dropLast ahead := by
  rw [walk, if_neg (not_not.2 hd), if_neg (by decide), if_pos rfl]

/-- A name that is no step leads on as the node under it says. -/
theorem walk_cons (hd : tree.nodeAt place = some .directory)
    (hname : ¬(name = [] ∨ name = ['.'])) (habove : name ≠ ['.', '.'])
    (ahead : List (List Char)) :
    tree.walk links place (name :: ahead) =
      match tree.nodeAt (place ++ [name]), links with
      | none, _ => none
      | some (.link []), _ => none
      | some (.link (_ :: _)), 0 => none
      | some (.link (c :: target)), links + 1 =>
        tree.walk links (follow place (c :: target) ahead).1 (follow place (c :: target) ahead).2
      | some _, _ => tree.walk links (place ++ [name]) ahead := by
  rw [walk, if_neg (not_not.2 hd), if_neg hname, if_neg habove]
  rcases tree.nodeAt (place ++ [name]) with _ | content | _ | _ | ⟨c, target⟩ <;>
    cases links <;> rfl

/-- **Going on.** Names either lead to a place, from which the walk goes on, or nowhere. -/
theorem walk_append_cases (tree : FileTree) (links : Nat) (place names : List (List Char)) :
    (∃ left reached, ∀ more,
      tree.walk links place (names ++ more) = tree.walk left reached more) ∨
      ∀ more, tree.walk links place (names ++ more) = none := by
  fun_induction walk tree links place names with
  | case1 links place => exact .inl ⟨links, place, fun _ => rfl⟩
  | case2 links place name ahead hd => exact .inr fun more => walk_of_not_directory hd _
  | case3 links place name ahead hd hskip ih =>
    simpa only [List.cons_append, walk_of_skipped (not_not.1 hd) hskip] using ih
  | case4 links place ahead hd hskip ih =>
    simpa only [List.cons_append, walk_above (not_not.1 hd)] using ih
  | case5 links place name ahead hd hskip habove hn =>
    right
    intro more
    rw [List.cons_append, walk_cons (not_not.1 hd) hskip habove, hn]
  | case6 links place name ahead hd hskip habove hn =>
    right
    intro more
    rw [List.cons_append, walk_cons (not_not.1 hd) hskip habove, hn]
  | case7 place name ahead hd hskip habove target hne hn =>
    obtain ⟨c, target, rfl⟩ := List.exists_cons_of_ne_nil hne
    right
    intro more
    rw [List.cons_append, walk_cons (not_not.1 hd) hskip habove, hn]
  | case8 place name ahead hd hskip habove target hne hn links next ih =>
    obtain ⟨c, target, rfl⟩ := List.exists_cons_of_ne_nil hne
    have hstep (more) : tree.walk (links + 1) place (name :: ahead ++ more) =
        tree.walk links next.1 (next.2 ++ more) := by
      rw [List.cons_append, walk_cons (not_not.1 hd) hskip habove, hn]
      dsimp only
      rw [follow_append]
    simpa only [hstep] using ih
  | case9 links place name ahead hd hskip habove node hno hnot hn ih =>
    have hstep (more) : tree.walk links place (name :: ahead ++ more) =
        tree.walk links (place ++ [name]) (ahead ++ more) := by
      rw [List.cons_append, walk_cons (not_not.1 hd) hskip habove, hn]
      cases node with
      | file => rfl
      | directory => rfl
      | link target => exact absurd rfl (hnot target)
    simpa only [hstep] using ih

/-- The place from which a path is walked, and the names on it. -/
def origin (tree : FileTree) : List Char → List (List Char) × List (List Char)
  | '/' :: rest => ([], pieces '/' rest)
  | path => (tree.workingDirectory, pieces '/' path)

theorem origin_of_ne_slash {c : Char} (hc : c ≠ '/') (rest : List Char) :
    tree.origin (c :: rest) = (tree.workingDirectory, pieces '/' (c :: rest)) := by
  unfold origin
  split
  next he => exact absurd (List.cons.inj he).1 hc
  next => rfl

theorem locate_eq_walk {path : String} (h : path.toList ≠ []) :
    tree.locate path =
      tree.walk linkLimit (tree.origin path.toList).1 (tree.origin path.toList).2 := by
  unfold locate
  generalize path.toList = chars at h ⊢
  obtain ⟨c, rest, rfl⟩ := List.exists_cons_of_ne_nil h
  by_cases hc : c = '/'
  · subst hc
    rfl
  · rw [origin_of_ne_slash hc]
    split
    next he => cases he
    next he => exact absurd (List.cons.inj he).1 hc
    next => rfl

theorem origin_append_slash {path : List Char} (h : path ≠ []) (more : List Char) :
    tree.origin (path ++ '/' :: more) =
      ((tree.origin path).1, (tree.origin path).2 ++ pieces '/' more) := by
  obtain ⟨c, rest, rfl⟩ := List.exists_cons_of_ne_nil h
  by_cases hc : c = '/'
  · subst hc
    show ([], pieces '/' (rest ++ '/' :: more)) = ([], pieces '/' rest ++ pieces '/' more)
    rw [pieces_append]
  · rw [List.cons_append, origin_of_ne_slash hc, origin_of_ne_slash hc, ← List.cons_append,
      pieces_append]

/-- What stands behind a slash is walked on its own. -/
theorem exists_origin_slash (tree : FileTree) (start : List Char) :
    ∃ place names, ∀ more,
      tree.origin (start ++ '/' :: more) = (place, names ++ pieces '/' more) := by
  by_cases h : start = []
  · subst h
    exact ⟨[], [], fun _ => rfl⟩
  · exact ⟨_, _, origin_append_slash h⟩

/-- **In a directory.** A name in a directory is looked for from the place of the directory. -/
theorem exists_locate_join {root : String} (h : tree.locate root = some place) :
    ∃ left, ∀ name,
      tree.locate (join root name) = tree.walk left place (pieces '/' name.toList) := by
  have hne : root.toList ≠ [] := by
    intro he
    unfold locate at h
    rw [he] at h
    cases h
  have hjoin (name : String) : (join root name).toList ≠ [] := by
    rw [toList_join]
    unfold below
    split_ifs <;> simp [hne]
  rw [locate_eq_walk hne] at h
  by_cases hlast : root.toList.getLast? = some '/'
  · obtain ⟨start, hstart⟩ := List.getLast?_eq_some_iff.1 hlast
    obtain ⟨first, names, horigin⟩ := exists_origin_slash tree start
    rw [hstart, horigin] at h
    rcases walk_append_cases tree linkLimit first names with ⟨left, reached, hgo⟩ | hnone
    · -- the slash at the end has led to the directory itself
      have hreached : tree.walk left reached [[]] = some place := (hgo [[]]).symm.trans h
      have hd : tree.nodeAt reached = some .directory := by
        by_contra hd
        rw [walk_of_not_directory hd] at hreached
        cases hreached
      rw [walk_of_skipped hd (.inl rfl), walk, Option.some.injEq] at hreached
      subst hreached
      refine ⟨left, fun name => ?_⟩
      rw [locate_eq_walk (hjoin name), toList_join, below, if_pos (.inr hlast), hstart,
        List.append_assoc]
      show tree.walk linkLimit (tree.origin (start ++ '/' :: name.toList)).1
        (tree.origin (start ++ '/' :: name.toList)).2 = _
      rw [horigin, hgo]
    · have := (hnone [[]]).symm.trans h
      cases this
  · rcases walk_append_cases tree linkLimit (tree.origin root.toList).1
      (tree.origin root.toList).2 with ⟨left, reached, hgo⟩ | hnone
    · have hreached := (hgo []).symm
      rw [List.append_nil, h, walk, Option.some.injEq] at hreached
      subst hreached
      refine ⟨left, fun name => ?_⟩
      rw [locate_eq_walk (hjoin name), toList_join, below, if_neg (not_or.2 ⟨hne, hlast⟩),
        origin_append_slash hne, hgo]
    · have := hnone []
      rw [List.append_nil, h] at this
      cases this

/-! ## Well-formed trees -/

/-- The nodes stand under different names, which are names that nodes can have, and every node
stands in a directory. -/
structure WellFormed (tree : FileTree) : Prop where
  distinct : (tree.nodes.map (·.1)).Nodup
  isName : ∀ entry ∈ tree.nodes, ∀ name ∈ entry.1, IsName name
  closed : ∀ entry ∈ tree.nodes, tree.nodeAt entry.1.dropLast = some .directory

/-- No link stands at a place or below it. -/
def LinklessBelow (tree : FileTree) (place : List (List Char)) : Prop :=
  ∀ entry ∈ tree.nodes, place <+: entry.1 → entry.2.isLink = false

instance (tree : FileTree) : Decidable tree.WellFormed :=
  decidable_of_iff ((tree.nodes.map (·.1)).Nodup ∧
      (∀ entry ∈ tree.nodes, ∀ name ∈ entry.1, IsName name) ∧
      ∀ entry ∈ tree.nodes, tree.nodeAt entry.1.dropLast = some .directory)
    ⟨fun h => ⟨h.1, h.2.1, h.2.2⟩, fun h => ⟨h.1, h.2, h.3⟩⟩

instance (tree : FileTree) (place : List (List Char)) : Decidable (tree.LinklessBelow place) :=
  inferInstanceAs (Decidable (∀ entry ∈ tree.nodes, place <+: entry.1 → entry.2.isLink = false))

variable {node : Node} {rest : List (List Char)}

theorem mem_nodes_of_nodeAt (hne : names ≠ []) (h : tree.nodeAt names = some node) :
    (names, node) ∈ tree.nodes := by
  unfold nodeAt at h
  rw [if_neg hne] at h
  obtain ⟨entry, hfind, rfl⟩ := Option.map_eq_some_iff.1 h
  have hnames : entry.1 = names := by simpa using List.find?_some hfind
  rw [← hnames]
  exact List.mem_of_find?_eq_some hfind

theorem nodeAt_isSome_of_mem (h : (names, node) ∈ tree.nodes) : (tree.nodeAt names).isSome := by
  unfold nodeAt
  split_ifs
  · rfl
  · rw [Option.isSome_map, List.find?_isSome]
    exact ⟨(names, node), h, by simp⟩

theorem LinklessBelow.below (hl : tree.LinklessBelow place) (rest : List (List Char)) :
    tree.LinklessBelow (place ++ rest) :=
  fun entry hm hp => hl entry hm ((List.prefix_append place rest).trans hp)

theorem LinklessBelow.nodeAt_ne_link (hl : tree.LinklessBelow place) (hne : rest ≠ [])
    (target : List Char) : tree.nodeAt (place ++ rest) ≠ some (.link target) := by
  intro h
  have hm := mem_nodes_of_nodeAt (List.append_ne_nil_of_right_ne_nil place hne) h
  have := hl _ hm (List.prefix_append place rest)
  cases this

namespace WellFormed

theorem isName_of_nodeAt (hw : tree.WellFormed) (h : tree.nodeAt names = some node) :
    ∀ name ∈ names, IsName name := by
  intro name hn
  exact hw.isName _ (mem_nodes_of_nodeAt (List.ne_nil_of_mem hn) h) name hn

/-- What stands above a node is a directory. -/
theorem directory_of_append (hw : tree.WellFormed) (hne : rest ≠ [])
    (h : tree.nodeAt (names ++ rest) = some node) : tree.nodeAt names = some .directory := by
  induction rest using List.reverseRecOn generalizing node with
  | nil => exact absurd rfl hne
  | append_singleton rest name ih =>
    rw [← List.append_assoc] at h
    have hm := mem_nodes_of_nodeAt (List.append_ne_nil_of_right_ne_nil _ (List.cons_ne_nil _ _)) h
    have hd : tree.nodeAt (names ++ rest) = some .directory := by
      have := hw.closed _ hm
      rwa [List.dropLast_concat] at this
    by_cases hnil : rest = []
    · rwa [hnil, List.append_nil] at hd
    · exact ih hnil hd

end WellFormed

/-! ## Walks below a place without links -/

theorem walk_of_node (hl : tree.LinklessBelow place) (hd : tree.nodeAt place = some .directory)
    (hname : IsName name) (hn : tree.nodeAt (place ++ [name]) = some node)
    (ahead : List (List Char)) :
    tree.walk links place (name :: ahead) = tree.walk links (place ++ [name]) ahead := by
  rw [walk_cons hd (not_or.2 ⟨hname.ne_nil, hname.ne_here⟩) hname.ne_above, hn]
  cases node with
  | file => rfl
  | directory => rfl
  | link target => exact absurd hn (hl.nodeAt_ne_link (List.cons_ne_nil name []) target)

/-- Nothing stands behind a file. -/
theorem walk_behind_file (hd : tree.nodeAt place = some .directory) (hname : IsName name)
    {content : List UInt8} (hn : tree.nodeAt (place ++ [name]) = some (.file content))
    (next : List Char) (ahead : List (List Char)) :
    tree.walk links place (name :: next :: ahead) = none := by
  have hfile : tree.nodeAt (place ++ [name]) ≠ some .directory := by
    rw [hn]
    exact fun h => by cases h
  rw [walk_cons hd (not_or.2 ⟨hname.ne_nil, hname.ne_here⟩) hname.ne_above, hn]
  exact walk_of_not_directory hfile ahead

/-- **Where names lead.** To the node that stands under them. -/
theorem WellFormed.walk_of_nodeAt (hw : tree.WellFormed) (hl : tree.LinklessBelow place)
    (h : tree.nodeAt (place ++ names) = some node) :
    tree.walk links place names = some (place ++ names) := by
  induction names generalizing place with
  | nil => rw [walk, List.append_nil]
  | cons name rest ih =>
    have hname := hw.isName_of_nodeAt h name (List.mem_append_right place List.mem_cons_self)
    have hd := hw.directory_of_append (List.cons_ne_nil name rest) h
    rw [List.append_cons] at h ⊢
    obtain ⟨next, hn⟩ : ∃ next, tree.nodeAt (place ++ [name]) = some next := by
      by_cases hnil : rest = []
      · rw [hnil, List.append_nil] at h
        exact ⟨node, h⟩
      · exact ⟨.directory, hw.directory_of_append hnil h⟩
    rw [walk_of_node hl hd hname hn]
    exact ih (hl.below [name]) h

/-- Names lead nowhere else, however many slashes stand between them. -/
theorem eq_of_walk (hl : tree.LinklessBelow place)
    (hnames : ∀ name ∈ names, name ≠ [] → IsName name)
    (h : tree.walk links place names = some found) :
    found = place ++ names.filter (· ≠ []) := by
  induction names generalizing place with
  | nil =>
    rw [walk, Option.some.injEq] at h
    rw [List.filter_nil, List.append_nil, h]
  | cons name rest ih =>
    have hrest : ∀ name ∈ rest, name ≠ [] → IsName name :=
      fun name hm => hnames name (List.mem_cons_of_mem _ hm)
    have hd : tree.nodeAt place = some .directory := by
      by_contra hd
      rw [walk_of_not_directory hd] at h
      cases h
    by_cases hnil : name = []
    · rw [walk_of_skipped hd (.inl hnil)] at h
      rw [List.filter_cons_of_neg (by simpa using hnil)]
      exact ih hl hrest h
    · have hname := hnames name List.mem_cons_self hnil
      cases hn : tree.nodeAt (place ++ [name]) with
      | none =>
        rw [walk_cons hd (not_or.2 ⟨hnil, hname.ne_here⟩) hname.ne_above, hn] at h
        cases h
      | some node =>
        rw [walk_of_node hl hd hname hn] at h
        rw [List.filter_cons_of_pos (by simpa using hnil), List.append_cons]
        exact ih (hl.below [name]) hrest h

/-- Names lead to what stands under them, or nowhere. -/
theorem WellFormed.bind_walk (hw : tree.WellFormed) (hl : tree.LinklessBelow place)
    (hnames : ∀ name ∈ names, IsName name) :
    (tree.walk links place names).bind tree.nodeAt = tree.nodeAt (place ++ names) := by
  cases hn : tree.nodeAt (place ++ names) with
  | some node => rw [hw.walk_of_nodeAt hl hn, Option.bind_some, hn]
  | none =>
    cases h : tree.walk links place names with
    | none => rfl
    | some found =>
      have hkept : names.filter (· ≠ []) = names :=
        List.filter_eq_self.2 fun name hm => by simpa using (hnames name hm).ne_nil
      rw [Option.bind_some, eq_of_walk hl (fun name hm _ => hnames name hm) h, hkept, hn]

/-! ## The files below a place -/

theorem lastName_eq_some_iff {entry : List (List Char)} :
    (if entry ≠ [] ∧ entry.dropLast = place then entry.getLast? else none) = some name ↔
      entry = place ++ [name] := by
  constructor
  · intro h
    split_ifs at h with he
    obtain ⟨start, rfl⟩ := List.getLast?_eq_some_iff.1 h
    rw [← he.2, List.dropLast_concat]
  · rintro rfl
    rw [if_pos ⟨List.append_ne_nil_of_right_ne_nil _ (List.cons_ne_nil _ _), List.dropLast_concat⟩,
      List.getLast?_concat]

theorem mem_namesIn_iff :
    name ∈ tree.namesIn place ↔ ∃ node, (place ++ [name], node) ∈ tree.nodes := by
  unfold namesIn
  rw [List.mem_filterMap]
  constructor
  · rintro ⟨⟨entry, node⟩, hm, h⟩
    exact ⟨node, lastName_eq_some_iff.1 h ▸ hm⟩
  · rintro ⟨node, hm⟩
    exact ⟨_, hm, lastName_eq_some_iff.2 rfl⟩

/-- The names of the files below a place, each file under the names that lead to it from there,
and none with more names than a bound. -/
def filesUnder (tree : FileTree) : Nat → List (List Char) → List (List (List Char))
  | 0, _ => []
  | depth + 1, place =>
    (tree.namesIn place).flatMap fun name =>
      (match tree.nodeAt (place ++ [name]) with
        | some (.file _) => [[]]
        | some .directory => filesUnder tree depth (place ++ [name])
        | _ => []).map (name :: ·)

namespace WellFormed

theorem nodup_namesIn (hw : tree.WellFormed) (place : List (List Char)) :
    (tree.namesIn place).Nodup := by
  have h := hw.distinct.filterMap (f := fun entry =>
    if entry ≠ [] ∧ entry.dropLast = place then entry.getLast? else none)
    fun entry other name h h' => (lastName_eq_some_iff.1 h).trans (lastName_eq_some_iff.1 h').symm
  rwa [List.filterMap_map] at h

theorem mem_filesUnder (hw : tree.WellFormed) {depth : Nat} :
    names ∈ tree.filesUnder depth place ↔
      names ≠ [] ∧ names.length ≤ depth ∧
        ∃ content, tree.nodeAt (place ++ names) = some (.file content) := by
  induction depth generalizing place names with
  | zero =>
    constructor
    · exact fun h => absurd h List.not_mem_nil
    · rintro ⟨hne, hlen, -⟩
      exact absurd (List.length_eq_zero_iff.1 (Nat.le_zero.1 hlen)) hne
  | succ depth ih =>
    rw [filesUnder, List.mem_flatMap]
    constructor
    · rintro ⟨name, -, h⟩
      obtain ⟨rest, hrest, rfl⟩ := List.mem_map.1 h
      split at hrest
      next content hn =>
        rw [List.mem_singleton.1 hrest]
        exact ⟨List.cons_ne_nil _ _, Nat.le_add_left 1 depth, content, hn⟩
      next =>
        obtain ⟨-, hlen, hfile⟩ := ih.1 hrest
        rw [← List.append_cons] at hfile
        exact ⟨List.cons_ne_nil _ _, Nat.succ_le_succ hlen, hfile⟩
      next => exact absurd hrest List.not_mem_nil
    · rintro ⟨hne, hlen, content, hfile⟩
      obtain ⟨name, rest, rfl⟩ := List.exists_cons_of_ne_nil hne
      have hpath : place ++ [name] ≠ [] :=
        List.append_ne_nil_of_right_ne_nil _ (List.cons_ne_nil _ _)
      by_cases hrest : rest = []
      · subst hrest
        refine ⟨name, mem_namesIn_iff.2 ⟨_, mem_nodes_of_nodeAt hpath hfile⟩, ?_⟩
        rw [hfile]
        exact List.mem_map_of_mem List.mem_cons_self
      · rw [List.append_cons] at hfile
        have hd := hw.directory_of_append hrest hfile
        refine ⟨name, mem_namesIn_iff.2 ⟨_, mem_nodes_of_nodeAt hpath hd⟩, ?_⟩
        rw [hd]
        exact List.mem_map_of_mem (ih.2 ⟨hrest, Nat.le_of_succ_le_succ hlen, content, hfile⟩)

/-- No file is found twice: the files under one name in a directory all begin with that name. -/
theorem nodup_filesUnder (hw : tree.WellFormed) (depth : Nat) (place : List (List Char)) :
    (tree.filesUnder depth place).Nodup := by
  induction depth generalizing place with
  | zero => exact List.nodup_nil
  | succ depth ih =>
    rw [filesUnder, List.nodup_flatMap]
    refine ⟨fun name _ => List.Nodup.map List.cons_injective ?_,
      (hw.nodup_namesIn place).imp fun {name other} hne names h h' => ?_⟩
    · split
      · exact List.nodup_singleton _
      · exact ih _
      · exact List.nodup_nil
    · obtain ⟨rest, -, rfl⟩ := List.mem_map.1 h
      obtain ⟨rest', -, he⟩ := List.mem_map.1 h'
      exact hne (List.cons.inj he).1.symm

/-- A node has no more names than there are nodes: the directories it stands in are nodes too. -/
theorem length_le_of_nodeAt (hw : tree.WellFormed) (h : tree.nodeAt names = some node) :
    names.length ≤ tree.nodes.length := by
  have hsub : ((List.range names.length).map fun n => names.take (n + 1)) ⊆
      tree.nodes.map (·.1) := by
    intro start hstart
    obtain ⟨n, hn, rfl⟩ := List.mem_map.1 hstart
    have hlen : n < names.length := List.mem_range.1 hn
    have hne : names.take (n + 1) ≠ [] := by
      rw [Ne, List.take_eq_nil_iff]
      rintro (h | h)
      · cases h
      · rw [h] at hlen
        exact Nat.not_lt_zero n hlen
    rw [← List.take_append_drop (n + 1) names] at h
    by_cases hdrop : names.drop (n + 1) = []
    · rw [hdrop, List.append_nil] at h
      exact List.mem_map_of_mem (mem_nodes_of_nodeAt hne h)
    · exact List.mem_map_of_mem (mem_nodes_of_nodeAt hne (hw.directory_of_append hdrop h))
  have hnodup : ((List.range names.length).map fun n => names.take (n + 1)).Nodup := by
    refine List.Nodup.map_on (fun n hn m hm he => ?_) List.nodup_range
    have := congrArg List.length he
    rw [List.length_take, List.length_take] at this
    have := List.mem_range.1 hn
    have := List.mem_range.1 hm
    omega
  simpa using (List.subperm_of_subset hnodup hsub).length_le

end WellFormed

/-! ## The order of the nodes -/

/-- Two trees have the same nodes, in whatever order. -/
structure Relists (tree other : FileTree) : Prop where
  workingDirectory_eq : other.workingDirectory = tree.workingDirectory
  nodes_perm : other.nodes.Perm tree.nodes

instance (tree other : FileTree) : Decidable (tree.Relists other) :=
  decidable_of_iff
    (other.workingDirectory = tree.workingDirectory ∧ other.nodes.Perm tree.nodes)
    ⟨fun h => ⟨h.1, h.2⟩, fun h => ⟨h.1, h.2⟩⟩

theorem nodeAt_eq_some_iff (hd : (tree.nodes.map (·.1)).Nodup) (hne : names ≠ []) :
    tree.nodeAt names = some node ↔ (names, node) ∈ tree.nodes := by
  refine ⟨mem_nodes_of_nodeAt hne, fun hm => ?_⟩
  obtain ⟨found, hfound⟩ := Option.isSome_iff_exists.1 (nodeAt_isSome_of_mem hm)
  have hpair := List.inj_on_of_nodup_map hd (mem_nodes_of_nodeAt hne hfound) hm rfl
  rw [hfound, (Prod.mk.inj hpair).2]

/-- A walk sees of a tree what stands under the names that it comes to. -/
theorem walk_congr {other : FileTree} (h : ∀ names, other.nodeAt names = tree.nodeAt names) :
    other.walk links place names = tree.walk links place names := by
  fun_induction tree.walk links place names with
  | case1 => rw [walk]
  | case2 links place name ahead hd => rw [walk, if_pos (h place ▸ hd)]
  | case3 links place name ahead hd hskip ih => rw [walk, h, if_neg hd, if_pos hskip, ih]
  | case4 links place ahead hd hskip ih =>
    rw [walk, h, if_neg hd, if_neg hskip, if_pos rfl, ih]
  | case5 links place name ahead hd hskip habove hn =>
    rw [walk_cons (h place ▸ not_not.1 hd) hskip habove, h, hn]
  | case6 links place name ahead hd hskip habove hn =>
    rw [walk_cons (h place ▸ not_not.1 hd) hskip habove, h, hn]
  | case7 place name ahead hd hskip habove target hne hn =>
    obtain ⟨c, target, rfl⟩ := List.exists_cons_of_ne_nil hne
    rw [walk_cons (h place ▸ not_not.1 hd) hskip habove, h, hn]
  | case8 place name ahead hd hskip habove target hne hn links next ih =>
    obtain ⟨c, target, rfl⟩ := List.exists_cons_of_ne_nil hne
    rw [walk_cons (h place ▸ not_not.1 hd) hskip habove, h, hn]
    exact ih
  | case9 links place name ahead hd hskip habove node hno hnot hn ih =>
    rw [walk_cons (h place ▸ not_not.1 hd) hskip habove, h, hn]
    cases node with
    | file => exact ih
    | directory => exact ih
    | link target => exact absurd rfl (hnot target)

namespace Relists

variable {other : FileTree}

theorem nodeAt_eq (h : tree.Relists other) (hw : tree.WellFormed) (names : List (List Char)) :
    other.nodeAt names = tree.nodeAt names := by
  by_cases hne : names = []
  · rw [nodeAt, nodeAt, if_pos hne, if_pos hne]
  have hd : (other.nodes.map (·.1)).Nodup := (h.nodes_perm.map _).nodup_iff.2 hw.distinct
  refine Option.ext fun node => ?_
  rw [nodeAt_eq_some_iff hd hne, nodeAt_eq_some_iff hw.distinct hne]
  exact h.nodes_perm.mem_iff

theorem wellFormed (h : tree.Relists other) (hw : tree.WellFormed) : other.WellFormed where
  distinct := (h.nodes_perm.map _).nodup_iff.2 hw.distinct
  isName entry he := hw.isName entry (h.nodes_perm.mem_iff.1 he)
  closed entry he := by
    rw [h.nodeAt_eq hw]
    exact hw.closed entry (h.nodes_perm.mem_iff.1 he)

theorem locate_eq (h : tree.Relists other) (hw : tree.WellFormed) (path : String) :
    other.locate path = tree.locate path := by
  unfold locate
  split
  · rfl
  · exact walk_congr (h.nodeAt_eq hw)
  · rw [h.workingDirectory_eq]
    exact walk_congr (h.nodeAt_eq hw)

theorem lookup_eq (h : tree.Relists other) (hw : tree.WellFormed) (path : String) :
    other.lookup path = tree.lookup path := by
  unfold lookup
  rw [h.locate_eq hw]
  exact congrArg _ (funext (h.nodeAt_eq hw))

theorem isDirectory_eq (h : tree.Relists other) (hw : tree.WellFormed) (path : String) :
    other.isDirectory path = tree.isDirectory path := by
  unfold isDirectory
  rw [h.lookup_eq hw]

theorem content?_eq (h : tree.Relists other) (hw : tree.WellFormed) (path : String) :
    other.content? path = tree.content? path := by
  unfold content?
  rw [h.lookup_eq hw]

/-- A directory has the same entries, in whatever order. -/
theorem entries_perm (h : tree.Relists other) (hw : tree.WellFormed) (path : String) :
    ((other.entries? path).getD []).Perm ((tree.entries? path).getD []) := by
  unfold entries?
  rw [h.locate_eq hw]
  cases tree.locate path with
  | none => exact List.Perm.refl _
  | some place =>
    dsimp only
    rw [h.nodeAt_eq hw]
    split_ifs
    · exact (h.nodes_perm.filterMap _).map _
    · exact List.Perm.refl _

end Relists

end FileTree

end SearchPath
