import SearchPath.Proofs.FileTree
import SearchPath.Proofs.Path.FixedPoint
import SearchPath.Proofs.Root.Absorb

/-!
# The entries of a directory as roots

A spelling that ends in `/*` reports every entry of a directory, by the path of its name in the
directory. That path is brought to canonical form once more, so an entry keeps its path only if its
name survives that.

1. The path of a name in a directory (`below`) is written in normal form if that of the directory is
   (`IsNormal.below`), and starts where that one starts (`Placed.below`).
2. In an absolute directory exactly the names without backslashes and without a blank at their end
   keep their paths (`canonicalChars_below_iff`, `settled_below`).
3. Main result (`expansion_of_directory`): what a directory brings in, and under which paths.
-/

namespace SearchPath

namespace Path

open SearchPath.Text

/-! ## The path of a name in a directory -/

variable {base directory name : List Char}

theorem below_injective (directory : List Char) : Function.Injective (below directory) := by
  intro name other h
  unfold below at h
  split_ifs at h
  · exact List.append_cancel_left h
  · exact (List.cons.inj (List.append_cancel_left h)).2

theorem getLast?_below (directory : List Char) (h : name ≠ []) :
    (below directory name).getLast? = name.getLast? := by
  unfold below
  split_ifs
  · exact List.getLast?_append_of_ne_nil _ h
  · rw [List.getLast?_append_of_ne_nil _ (List.cons_ne_nil _ _), List.getLast?_cons_of_ne_nil h]

theorem below_ne_nil (h : name ≠ []) : below directory name ≠ [] := by
  unfold below
  split_ifs <;> simp [h]

theorem mem_below_iff {c : Char} (hc : c ≠ '/') :
    c ∈ below directory name ↔ c ∈ directory ∨ c ∈ name := by
  unfold below
  split_ifs
  · exact List.mem_append
  · rw [List.mem_append, List.mem_cons, or_iff_right hc]

theorem Placed.below (h : Placed directory) (name : List Char) : Placed (below directory name) := by
  unfold Path.below
  split_ifs
  · exact h.append name
  · exact h.append ('/' :: name)

theorem not_nests_below (h : ¬Nests (directory ++ ['/'])) (hn : '/' ∉ name) :
    ¬Nests (below directory name) := by
  unfold below
  split_ifs
  · exact not_nests_append (fun hd => h (hd.trans (List.prefix_append _ _).isInfix)) hn
  · rw [← List.singleton_append, ← List.append_assoc]
    exact not_nests_append h hn

theorem below_text (a : Anchor) {segments : List (List Char)} (h : Tidy true segments)
    (name : List Char) :
    below (a.text ++ join '/' segments) name = a.text ++ join '/' (segments ++ [name]) := by
  by_cases hnil : segments = []
  · have hlast : a.text.getLast? = some '/' := by cases a <;> rfl
    subst hnil
    show below (a.text ++ []) name = a.text ++ name
    rw [List.append_nil, below, if_pos (.inr hlast)]
  · have hlast : (a.text ++ join '/' segments).getLast? ≠ some '/' :=
      getLast?_join_ne_slash a.text hnil fun s hs =>
        ⟨(h.isSegment s hs).ne_nil, (h.isSegment s hs).no_slash⟩
    have hne : a.text ++ join '/' segments ≠ [] := by cases a <;> simp [Anchor.text]
    rw [below, if_neg (not_or.2 ⟨hne, hlast⟩), join_append '/' hnil (List.cons_ne_nil name []),
      List.append_assoc]
    rfl

/-- In an absolute directory whose path is written in normal form the path of a name is written in
normal form. -/
theorem IsNormal.below (h : IsNormal directory) (hp : Placed directory) (hn : IsSegment name)
    (ha : name ≠ above) : IsNormal (below directory name) := by
  obtain ⟨a, segments, hupper, htidy, rfl⟩ := h.exists_text hp.isSome_anchor
  rw [below_text a htidy]
  exact isNormal_text hupper (htidy.append_segment hn ha)

/-! ## Absolute directories -/

theorem exists_canonicalPlain_of_placed {raw : List Char} (h : Placed (canonicalChars base raw)) :
    ∃ path, canonicalChars base raw = canonicalPlain base path := by
  rcases canonicalChars_cases base raw with htrim | hplain
  · rw [htrim] at h
    exact ⟨trim raw, by rw [← canonicalChars_trim, canonicalChars_of_placed base h, trim_trim]⟩
  · exact hplain

theorem not_mem_of_placed {raw : List Char} (h : Placed (canonicalChars base raw)) :
    '\\' ∉ canonicalChars base raw := by
  obtain ⟨path, he⟩ := exists_canonicalPlain_of_placed h
  rw [he]
  exact not_mem_canonicalPlain base path

/-- **Names that keep their paths.** In an absolute directory these are the names without a
backslash and without a blank at the end, as far as the parts between the marks of the path are
written in normal form. -/
theorem canonicalChars_below_iff (base : List Char) (hp : Placed directory)
    (hslash : '\\' ∉ directory) (hne : name ≠ []) :
    canonicalChars base (below directory name) = below directory name ↔
      Settled (below directory name) ∧ '\\' ∉ name ∧
        ∀ c, name.getLast? = some c → isBlank c = false := by
  have hplaced := hp.below name
  by_cases hname : '\\' ∈ name
  · have hmem : '\\' ∈ below directory name := (mem_below_iff (by decide)).2 (.inr hname)
    refine iff_of_false (fun he => ?_) fun h => h.2.1 hname
    rw [canonicalChars_of_placed base hplaced] at he
    rw [← he] at hmem
    exact not_mem_canonicalPlain _ _ hmem
  · have hnone : '\\' ∉ below directory name := by
      rw [mem_below_iff (by decide)]
      exact not_or.2 ⟨hslash, hname⟩
    rw [canonicalChars_eq_self_iff base hplaced hnone, getLast?_below directory hne,
      and_iff_right hname]

/-- Below a rooted base directory every name in an absolute directory without marks has a path that
is written in normal form. -/
theorem settled_below {raw : List Char} (hb : Rooted base) (hp : Placed (canonicalChars base raw))
    (hm : ¬Nests (canonicalChars base raw ++ ['/'])) (hn : IsSegment name) (ha : name ≠ above) :
    Settled (below (canonicalChars base raw) name) := by
  have hfree : ¬Nests (canonicalChars base raw) := fun h =>
    hm (h.trans (List.prefix_append _ _).isInfix)
  obtain ⟨path, he⟩ := exists_canonicalPlain_of_placed hp
  have hsettled : Settled (canonicalChars base raw) := by
    rw [he] at hfree ⊢
    exact settled_canonicalPlain hb hfree
  have hnormal : IsNormal (canonicalChars base raw) := by
    obtain ⟨outer, nested, hparts, houter, -⟩ := hsettled
    rw [nestedParts_of_not_nests hfree] at hparts
    cases hparts
    exact houter
  exact ⟨_, [], nestedParts_of_not_nests (not_nests_below hm hn.no_slash),
    hnormal.below hp hn ha, fun p hm => absurd hm List.not_mem_nil⟩

/-- A path without an anchor is put below the base directory. -/
theorem canonicalChars_relative {path : List Char} (hb : base ≠ [])
    (ha : (splitAnchor path).1 = none) (hm : ¬Nests path) (hslash : '\\' ∉ path)
    (ht : trim path = path) (hs : Url.readScheme (Url.visible (Url.strip path)) = none)
    (hne : path ≠ []) :
    canonicalChars base path = normalForm (unify base ++ '/' :: path) := by
  have hu : unify base ≠ [] := fun he => hb (List.map_eq_nil_iff.1 he)
  have hplain : canonicalPlain base path = anchorAt base path := by
    rw [canonicalPlain_of_not_nests base (by rwa [unify_eq_self hslash]), unify_eq_self hslash]
  rw [canonicalChars_of_no_scheme base (by rwa [ht]), ht, hplain, anchorAt,
    if_neg (by simp [ha])]
  dsimp only
  rw [if_neg hu, if_neg hne]

end Path

namespace Root

/-- Where roots of the same path are the same root, the first of each path are all of them. -/
theorem mem_firsts_iff {roots : List Root} {root : Root}
    (h : ∀ root ∈ roots, ∀ other ∈ roots, root.path = other.path → root = other) :
    root ∈ firsts roots ↔ root ∈ roots := by
  refine ⟨mem_of_mem_firsts, fun hr => ?_⟩
  have hpath : root.path ∈ (firsts roots).map (·.path) :=
    mem_paths_firsts.2 (List.mem_map_of_mem hr)
  obtain ⟨first, hf, he⟩ := List.mem_map.1 hpath
  rw [← h first (mem_of_mem_firsts hf) root hr he]
  exact hf

end Root

namespace Discovery

open SearchPath.Path SearchPath.Root SearchPath.Text

/-! ## Directories reported -/

/-- The root that an entry of a directory becomes. -/
def entryRoot (known : Discovery) (handles : List String) (place name : String) : Root :=
  ⟨known.canonical (FileTree.join place name), handles, .ordinary⟩

/-- The entry is known by its path in the directory. -/
def KeepsPath (known : Discovery) (place name : String) : Prop :=
  known.canonical (FileTree.join place name) = FileTree.join place name

variable {tree : FileTree} {known : Discovery} {raw directory place : String}
variable {handles names : List String}

theorem keepsPath_iff_chars {name : String} :
    known.KeepsPath place name ↔
      canonicalChars known.baseDirectory.toList (below place.toList name.toList) =
        below place.toList name.toList := by
  unfold KeepsPath Discovery.canonical Path.canonical
  rw [← String.toList_inj, String.toList_ofList, toList_join]

theorem entryRoot_eq_iff {name other : String} :
    known.entryRoot handles place name = known.entryRoot handles place other ↔
      known.canonical (FileTree.join place name) = known.canonical (FileTree.join place other) := by
  simp [entryRoot]

theorem mem_firsts_entries {root : Root} :
    root ∈ firsts (names.map (known.entryRoot handles place)) ↔
      ∃ name ∈ names, root = known.entryRoot handles place name := by
  rw [mem_firsts_iff, List.mem_map]
  · simp only [eq_comm]
  · intro root hr other ho he
    obtain ⟨name, -, rfl⟩ := List.mem_map.1 hr
    obtain ⟨name', -, rfl⟩ := List.mem_map.1 ho
    exact entryRoot_eq_iff.2 he

theorem mem_paths_unseen_entries {paths : List String} {path : String} :
    path ∈ (unseen paths (firsts (names.map (known.entryRoot handles place)))).map (·.path) ↔
      path ∉ paths ∧ ∃ name ∈ names, path = known.canonical (FileTree.join place name) := by
  simp only [List.mem_map, mem_unseen, mem_firsts_entries]
  constructor
  · rintro ⟨_, ⟨⟨name, hn, rfl⟩, hp⟩, rfl⟩
    exact ⟨hp, name, hn, rfl⟩
  · rintro ⟨hp, name, hn, rfl⟩
    exact ⟨_, ⟨⟨name, hn, rfl⟩, hp⟩, rfl⟩

theorem admits_of_reserved_nil (h : known.reserved.paths = []) (root : Root) :
    known.admits root = true := by
  have hfree : known.reserved.contains root.path = false := by
    unfold Reserved.contains
    rw [h]
    rfl
  exact decide_eq_true (.inr hfree)

/-- A directory that passes the filters has all its entries offered. -/
theorem report_entriesOf (hspelling : Spelling.ofChars (trim raw.toList) = .entriesOf directory)
    (hplace : known.canonical directory = place) (hgiven : known.accepts directory = true)
    (haccepted : known.accepts place = true) (hnames : tree.entries? place = some names) :
    known.report tree raw handles =
      ((known.offerAll (names.map (known.entryRoot handles place))).1, true) := by
  have hpasses : known.passes raw = true := by
    unfold passes spellings
    rw [hspelling]
    dsimp only
    rw [passesBoth_eq, hplace]
    exact Bool.and_eq_true_iff.2 ⟨hgiven, haccepted⟩
  have hfound : known.discover tree raw handles =
      some (names.map (known.entryRoot handles place)) := by
    unfold discover
    rw [if_pos hpasses, hspelling]
    dsimp only
    rw [hplace, hnames]
    rfl
  unfold report
  rw [hfound, hspelling]

/-- What is known after the entries of a directory are reported. -/
structure Expansion (tree : FileTree) (known : Discovery) (raw : String) (handles : List String)
    (place : String) (names : List String) : Prop where
  answer : (known.report tree raw handles).2 = true
  /-- The new roots are the entries, each under the canonical form of its path. -/
  mem_roots_iff : ∀ root, root ∈ (known.report tree raw handles).1.roots ↔
    root ∈ known.roots ∨
      root.path ∉ known.paths ∧ ∃ name ∈ names, root = known.entryRoot handles place name
  mem_paths_iff : ∀ path, path ∈ (known.report tree raw handles).1.paths ↔
    path ∈ known.paths ∨ ∃ name ∈ names, path = known.canonical (FileTree.join place name)
  /-- In an absolute directory an entry keeps its path unless a backslash stands in its name or a
  blank at the end of it, as long as no mark comes into play. -/
  keepsPath_iff : Placed place.toList → ∀ name ∈ names, known.KeepsPath place name ↔
    Settled (FileTree.join place name).toList ∧ '\\' ∉ name.toList ∧
      ∀ c, name.toList.getLast? = some c → isBlank c = false
  settled : Rooted known.baseDirectory.toList → Placed place.toList →
    ¬Nests (place.toList ++ ['/']) → ∀ name ∈ names, Settled (FileTree.join place name).toList
  /-- In a relative directory the path of an entry is put below the base directory again. -/
  relative : ∀ name ∈ names, ∀ path, path = (FileTree.join place name).toList →
    known.baseDirectory ≠ "" → (splitAnchor path).1 = none → ¬Nests path → '\\' ∉ path →
    trim path = path → Url.readScheme (Url.visible (Url.strip path)) = none →
    known.canonical (FileTree.join place name) =
      String.ofList (normalForm (unify known.baseDirectory.toList ++ '/' :: path))
  /-- Entries that keep their paths are different roots. -/
  distinct : ∀ name ∈ names, ∀ other ∈ names, known.KeepsPath place name →
    known.KeepsPath place other →
    known.entryRoot handles place name = known.entryRoot handles place other → name = other

/-- **Entries of a directory.** Without reserved paths, for a directory that passes the filters,
whatever the base directory and whatever is known. -/
theorem expansion_of_directory (hreserved : known.reserved.paths = [])
    (hspelling : Spelling.ofChars (trim raw.toList) = .entriesOf directory)
    (hplace : known.canonical directory = place) (hgiven : known.accepts directory = true)
    (haccepted : known.accepts place = true) (hnames : tree.entries? place = some names)
    (hproper : ∀ name ∈ names, IsSegment name.toList ∧ name.toList ≠ above) :
    Expansion tree known raw handles place names := by
  have hchars : place.toList = canonicalChars known.baseDirectory.toList directory.toList := by
    rw [← hplace]
    exact String.toList_ofList
  have hreport : known.report tree raw handles = _ :=
    report_entriesOf hspelling hplace hgiven haccepted hnames
  rw [offerAll_eq fun root _ => admits_of_reserved_nil hreserved root] at hreport
  refine ⟨?_, ?_, ?_, ?_, ?_, ?_, ?_⟩
  · rw [hreport]
  · intro root
    rw [hreport, roots_extend, List.mem_append, mem_unseen, mem_firsts_entries, and_comm]
  · intro path
    rw [hreport, paths_extend, List.mem_append, mem_paths_unseen_entries]
    by_cases hp : path ∈ known.paths
    · exact iff_of_true (.inl hp) (.inl hp)
    · rw [and_iff_right hp]
  · intro hp name hn
    have hslash : '\\' ∉ place.toList := by
      rw [hchars] at hp ⊢
      exact not_mem_of_placed hp
    rw [keepsPath_iff_chars, toList_join]
    exact canonicalChars_below_iff _ hp hslash (hproper name hn).1.ne_nil
  · intro hb hp hm name hn
    rw [toList_join]
    rw [hchars] at hp hm ⊢
    exact settled_below hb hp hm (hproper name hn).1 (hproper name hn).2
  · rintro name hn _ rfl hb ha hm hslash ht hs
    have hne : (FileTree.join place name).toList ≠ [] := by
      rw [toList_join]
      exact below_ne_nil (hproper name hn).1.ne_nil
    have hbase : known.baseDirectory.toList ≠ [] := by simpa using hb
    exact congrArg String.ofList (canonicalChars_relative hbase ha hm hslash ht hs hne)
  · intro name _ other _ hname hother he
    rw [entryRoot_eq_iff, hname, hother, ← String.toList_inj, toList_join, toList_join] at he
    exact String.toList_inj.1 (below_injective _ he)

/-- A walk goes on in a directory that stands under the next name. -/
theorem walk_cons_of_directory {links : Nat} {walked : List (List Char)} {name : List Char}
    (hhere : tree.nodeAt walked = some .directory) (hname : name ≠ [] ∧ name ≠ ['.'])
    (habove : name ≠ ['.', '.']) (hnext : tree.nodeAt (walked ++ [name]) = some .directory)
    (ahead : List (List Char)) :
    tree.walk links walked (name :: ahead) = tree.walk links (walked ++ [name]) ahead := by
  rw [FileTree.walk_cons hhere (not_or.2 hname) habove, hnext]

/-- A directory in which a blank ends one name and a backslash stands in another. -/
def awkwardTree : FileTree :=
  (((FileTree.empty "/work").add "d/a" (.file [])).add "d/a " (.file [])).add "d/b\\c" (.file [])

/-- A blank at the end of a name and a backslash in it do not survive: `a ` becomes the root `a`,
which is there already, and `b\\c` becomes `c` in a directory `b`. -/
theorem expansion_of_awkward_names :
    let known := empty "/work" ':' ⟨[]⟩ []
    (awkwardTree.entries? "/work/d" = some ["a", "a ", "b\\c"] ∧
        Expansion awkwardTree known "d/*" ["app"] "/work/d" ["a", "a ", "b\\c"]) ∧
      (known.report awkwardTree "d/*" ["app"]).1.paths = ["/work/d/a", "/work/d/b/c"] := by
  intro known
  have hlocate : awkwardTree.locate "/work/d" = some ["work".toList, "d".toList] := by
    show awkwardTree.walk FileTree.linkLimit [] ["work".toList, "d".toList] = _
    rw [walk_cons_of_directory rfl (by decide) (by decide) (by decide),
      walk_cons_of_directory (by decide) (by decide) (by decide) (by decide), FileTree.walk]
    rfl
  have hnames : awkwardTree.entries? "/work/d" = some ["a", "a ", "b\\c"] := by
    unfold FileTree.entries?
    rw [hlocate]
    decide
  have hproper : ∀ name ∈ ["a", "a ", "b\\c"],
      IsSegment name.toList ∧ name.toList ≠ above := by
    have hall : ∀ name ∈ ["a", "a ", "b\\c"], name.toList ≠ [] ∧ name.toList ≠ here ∧
        '/' ∉ name.toList ∧ name.toList ≠ above := by decide
    intro name hn
    obtain ⟨hnil, hhere, hslash, habove⟩ := hall name hn
    exact ⟨⟨hnil, hhere, hslash⟩, habove⟩
  have hspelling : Spelling.ofChars (trim "d/*".toList) = .entriesOf "d" := by decide
  have hplace : known.canonical "d" = "/work/d" := by decide
  have hgiven : known.accepts "d" = true := rfl
  have haccepted : known.accepts "/work/d" = true := rfl
  have hpaths : ((empty "/work" ':' ⟨[]⟩ []).report awkwardTree "d/*" ["app"]).1.paths =
      ["/work/d/a", "/work/d/b/c"] := by
    rw [report_entriesOf hspelling hplace hgiven haccepted hnames]
    decide +kernel
  exact ⟨⟨hnames, expansion_of_directory rfl hspelling hplace hgiven haccepted hnames hproper⟩,
    hpaths⟩

end Discovery

end SearchPath
