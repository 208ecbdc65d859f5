import Mathlib.Data.List.Sort
import SearchPath.JavaHome
import SearchPath.Proofs.Container.Image
import SearchPath.Proofs.FileTree
import SearchPath.Proofs.Module

/-!
# The modules of a platform

1. A name has an extension behind its last dot (`splitExtension_eq_some_iff`), so the files of one
   extension in a directory are told by their stems (`mem_stems`, `nodup_stems`).
2. The modules of a directory of jmods are one for each stem, sorted (`mem_jmodModules`,
   `names_jmodModules_lt`). Their keys differ, by their files where the directory is given by an
   absolute path and by their names where it is not (`key_jmod_injective`), and they are the same
   in whatever order the directory is listed (`jmodModules_relists`).
3. Main result (`platform_of_home`): which modules a home has, and when it cannot be told.
-/

namespace SearchPath.JavaHome

open SearchPath.Text SearchPath.Path FileTree

variable {tree other : FileTree} {directory extension : String}

/-! ## Files with an extension -/

/-- The name of a file with this stem and this extension. -/
def fileName (stem extension : String) : String :=
  stem ++ "." ++ extension

theorem toList_fileName (stem extension : String) :
    (fileName stem extension).toList = stem.toList ++ '.' :: extension.toList := by
  simp [fileName]

theorem fileName_injective {stem other : String}
    (h : fileName stem extension = fileName other extension) : stem = other := by
  have hlist := congrArg String.toList h
  rw [toList_fileName, toList_fileName] at hlist
  exact String.toList_inj.1 (List.append_cancel_right hlist)

theorem splitExtension_eq_some_iff {name stem : String} (hx : '.' ∉ extension.toList) :
    splitExtension name = some (stem, extension) ↔ name = fileName stem extension ∧ stem ≠ "" := by
  unfold splitExtension
  constructor
  · intro h
    split at h
    next before after hb =>
      split_ifs at h with hne
      obtain ⟨rfl, rfl⟩ := Prod.mk.inj (Option.some.inj h)
      refine ⟨?_, by simpa using hne⟩
      rw [← String.toList_inj, toList_fileName, String.toList_ofList, String.toList_ofList]
      exact eq_of_breakAtLast hb
    next => cases h
  · rintro ⟨rfl, hne⟩
    rw [toList_fileName, breakAtLast_append hx]
    dsimp only
    rw [if_neg (mt String.toList_eq_nil_iff.1 hne), String.ofList_toList, String.ofList_toList]

/-- The names in a directory, none where it cannot be listed. -/
def entriesOf (tree : FileTree) (directory : String) : List String :=
  (tree.entries? directory).getD []

/-- The stem of a name with this extension. -/
def stem? (extension name : String) : Option String :=
  (splitExtension name).bind fun (stem, found) => if found = extension then some stem else none

theorem stem?_eq_some_iff {name stem : String} (hx : '.' ∉ extension.toList) :
    stem? extension name = some stem ↔ name = fileName stem extension ∧ stem ≠ "" := by
  rw [← splitExtension_eq_some_iff hx]
  unfold stem?
  constructor
  · intro h
    obtain ⟨⟨found, last⟩, hs, hl⟩ := Option.bind_eq_some_iff.1 h
    dsimp only at hl
    split_ifs at hl with he
    rw [hs, he, Option.some.inj hl]
  · intro h
    rw [h]
    exact if_pos rfl

theorem filesWith_eq (hx : '.' ∉ extension.toList) :
    filesWith tree extension directory =
      ((entriesOf tree directory).filterMap (stem? extension)).map fun stem =>
        (stem, join directory (fileName stem extension)) := by
  unfold filesWith
  rw [List.map_filterMap]
  refine List.filterMap_congr fun name _ => ?_
  cases hs : stem? extension name with
  | none =>
    unfold stem? at hs
    cases hsplit : splitExtension name with
    | none => rfl
    | some found =>
      rw [hsplit] at hs
      dsimp only [Option.bind_some] at hs ⊢
      split_ifs at hs with he
      rw [if_neg he]
      rfl
  | some stem =>
    obtain ⟨hname, hne⟩ := (stem?_eq_some_iff hx).1 hs
    rw [(splitExtension_eq_some_iff hx).2 ⟨hname, hne⟩, hname]
    exact if_pos rfl

/-- The stems of the files of an extension in a directory. -/
def stems (tree : FileTree) (extension directory : String) : List String :=
  (entriesOf tree directory).filterMap (stem? extension)

theorem mem_stems {stem : String} (hx : '.' ∉ extension.toList) :
    stem ∈ stems tree extension directory ↔
      stem ≠ "" ∧ fileName stem extension ∈ entriesOf tree directory := by
  unfold stems
  rw [List.mem_filterMap]
  constructor
  · rintro ⟨name, hm, hs⟩
    obtain ⟨rfl, hne⟩ := (stem?_eq_some_iff hx).1 hs
    exact ⟨hne, hm⟩
  · rintro ⟨hne, hm⟩
    exact ⟨_, hm, (stem?_eq_some_iff hx).2 ⟨rfl, hne⟩⟩

theorem entries?_of_isDirectory (h : tree.isDirectory directory = true) :
    tree.entries? directory = some (entriesOf tree directory) := by
  unfold entriesOf
  suffices hs : (tree.entries? directory).isSome by
    obtain ⟨entries, he⟩ := Option.isSome_iff_exists.1 hs
    rw [he, Option.getD_some]
  unfold isDirectory lookup at h
  unfold entries?
  cases hl : tree.locate directory with
  | none =>
    rw [hl] at h
    cases h
  | some place =>
    rw [hl, Option.bind_some] at h
    dsimp only
    rw [if_pos (eq_of_beq h)]
    rfl

/-- No name comes twice in a directory. -/
theorem nodup_entriesOf (hw : tree.WellFormed) (directory : String) :
    (entriesOf tree directory).Nodup := by
  unfold entriesOf entries?
  cases tree.locate directory with
  | none => exact List.nodup_nil
  | some place =>
    dsimp only
    split_ifs
    · exact (hw.nodup_namesIn place).map fun _ _ => String.ofList_inj.1
    · exact List.nodup_nil

theorem nodup_stems (hw : tree.WellFormed) (hx : '.' ∉ extension.toList) (directory : String) :
    (stems tree extension directory).Nodup := by
  refine (nodup_entriesOf hw directory).filterMap fun name other stem hs ho => ?_
  rw [((stem?_eq_some_iff hx).1 hs).1, ((stem?_eq_some_iff hx).1 ho).1]

/-- No name in a directory has a slash. -/
theorem slash_not_mem_of_entriesOf (hw : tree.WellFormed) {name : String}
    (h : name ∈ entriesOf tree directory) : '/' ∉ name.toList := by
  unfold entriesOf entries? at h
  cases hl : tree.locate directory with
  | none =>
    rw [hl] at h
    cases h
  | some place =>
    rw [hl] at h
    dsimp only at h
    split_ifs at h
    · obtain ⟨last, hm, rfl⟩ := List.mem_map.1 h
      obtain ⟨node, hnode⟩ := mem_namesIn_iff.1 hm
      rw [String.toList_ofList]
      exact (hw.isName _ hnode last (by simp)).no_slash
    · cases h

/-! ## Directories of jmods -/

/-- The module in a jmod of a directory. -/
def jmod (directory name : String) : Module :=
  (Module.named name).inFile (join directory (fileName name "jmod"))

theorem dot_not_mem_jmod : '.' ∉ "jmod".toList := by decide

theorem jmodModules_eq (tree : FileTree) (directory : String) :
    jmodModules tree directory =
      ((stems tree "jmod" directory).map (jmod directory)).mergeSort
        fun a b => decide (a.name ≤ b.name) := by
  unfold jmodModules
  rw [filesWith_eq dot_not_mem_jmod, List.map_map]
  rfl

theorem mem_jmodModules {module : Module} :
    module ∈ jmodModules tree directory ↔
      ∃ name, name ≠ "" ∧ fileName name "jmod" ∈ entriesOf tree directory ∧
        module = jmod directory name := by
  rw [jmodModules_eq, List.mem_mergeSort, List.mem_map]
  constructor
  · rintro ⟨name, hm, rfl⟩
    obtain ⟨hne, hf⟩ := (mem_stems dot_not_mem_jmod).1 hm
    exact ⟨name, hne, hf, rfl⟩
  · rintro ⟨name, hne, hf, rfl⟩
    exact ⟨name, (mem_stems dot_not_mem_jmod).2 ⟨hne, hf⟩, rfl⟩

theorem sorted_jmodModules (tree : FileTree) (directory : String) :
    (jmodModules tree directory).Pairwise fun a b => a.name ≤ b.name := by
  rw [jmodModules_eq]
  exact pairwise_mergeSort_on Module.name _

theorem nodup_names_jmodModules (hw : tree.WellFormed) (directory : String) :
    ((jmodModules tree directory).map (·.name)).Nodup := by
  rw [jmodModules_eq, ((List.mergeSort_perm _ _).map _).nodup_iff, List.map_map]
  have hname : (·.name) ∘ jmod directory = id := rfl
  rw [hname, List.map_id]
  exact nodup_stems hw dot_not_mem_jmod directory

/-- The names of the modules of a directory are sorted, and none of them comes twice. -/
theorem names_jmodModules_lt (hw : tree.WellFormed) (directory : String) :
    ((jmodModules tree directory).map (·.name)).Pairwise (· < ·) := by
  have hle := List.pairwise_map.2 (sorted_jmodModules tree directory)
  exact (hle.and (nodup_names_jmodModules hw directory)).imp fun h => lt_of_le_of_ne h.1 h.2

/-! ### Keys -/

theorem components_eq (path : List Char) :
    Url.components path = (namesOf path).filter (· ≠ here) := by
  unfold Url.components namesOf
  rw [List.filter_filter]
  refine List.filter_congr fun name _ => ?_
  rw [← Bool.decide_and, decide_eq_decide]
  exact and_comm

theorem components_below (directory name : List Char) :
    Url.components (below directory name) = Url.components directory ++ Url.components name := by
  rw [components_eq, components_eq, components_eq, namesOf_below, List.filter_append]

theorem components_of_no_slash {name : List Char} (hs : '/' ∉ name) (hn : name ≠ [])
    (hh : name ≠ here) : Url.components name = [name] := by
  unfold Url.components
  rw [pieces_eq_singleton hs]
  exact List.filter_eq_self.2 (by simpa using ⟨hn, hh⟩)

theorem absolute?_eq (path : String) :
    (Module.Place.file path).absolute? =
      if path.toList.head? = some '/' then some (Url.components path.toList) else none := by
  unfold Module.Place.absolute? Module.filePath
  dsimp only
  split
  next rest hp =>
    rw [hp, List.head?_cons, if_pos rfl]
    rfl
  next hp =>
    have hhead : path.toList.head? ≠ some '/' := fun hh => by
      obtain ⟨rest, hr⟩ := List.head?_eq_some_iff.1 hh
      exact hp rest hr
    rw [if_neg hhead]
    rfl

theorem head?_below {name : List Char} (hs : '/' ∉ name) (directory : List Char) :
    (below directory name).head? = some '/' ↔ directory.head? = some '/' := by
  cases directory with
  | nil =>
    refine iff_of_false (fun h => hs ?_) (by simp)
    exact List.mem_of_head? h
  | cons c rest =>
    unfold below
    split_ifs <;> rfl

/-- Whether the path of a name in a directory is absolute is up to the directory, and so are the
names of the path but for the last. -/
theorem absolute?_join {name : String} (hs : '/' ∉ name.toList) (hn : name.toList ≠ [])
    (hh : name.toList ≠ here) (directory : String) :
    (Module.Place.file (join directory name)).absolute? =
      if directory.toList.head? = some '/' then
        some (Url.components directory.toList ++ [name.toList])
      else none := by
  rw [absolute?_eq, toList_join, components_below, components_of_no_slash hs hn hh]
  exact if_congr (head?_below hs _) rfl rfl

theorem absolute?_jmod {name : String} (hs : '/' ∉ (fileName name "jmod").toList)
    (directory : String) :
    (Module.Place.file (join directory (fileName name "jmod"))).absolute? =
      if directory.toList.head? = some '/' then
        some (Url.components directory.toList ++ [(fileName name "jmod").toList])
      else none := by
  have hlength : 5 ≤ (fileName name "jmod").toList.length := by
    rw [toList_fileName, List.length_append]
    exact Nat.le_add_left _ _
  refine absolute?_join hs (fun hn => ?_) (fun hh => ?_) directory
  · rw [hn] at hlength
    exact absurd hlength (by decide)
  · rw [hh] at hlength
    exact absurd hlength (by decide)

/-- Jmods of one directory that have the same key have the same name: by their files where the
directory is given by an absolute path, and by their names alone where it is not. -/
theorem key_jmod_injective {name other : String} (hn : '/' ∉ (fileName name "jmod").toList)
    (ho : '/' ∉ (fileName other "jmod").toList)
    (h : (jmod directory name).key = (jmod directory other).key) : name = other := by
  obtain ⟨horigin, hnamed⟩ :=
    (Module.key_built_eq_iff name other [.file _] [.file _]).1 h
  have hone (place : Module.Place) : Module.origin? [place] = place.absolute? := by
    rw [Module.origin?_cons]
    cases place.absolute? <;> rfl
  rw [hone, hone, absolute?_jmod hn, absolute?_jmod ho] at horigin
  rw [hone, absolute?_jmod hn] at hnamed
  by_cases hd : directory.toList.head? = some '/'
  · rw [if_pos hd, if_pos hd, Option.some.injEq, List.append_cancel_left_eq] at horigin
    exact fileName_injective (String.toList_inj.1 (List.cons.inj horigin).1)
  · rw [if_neg hd] at hnamed
    exact hnamed rfl

theorem nodup_keys_jmodModules (hw : tree.WellFormed) (directory : String) :
    ((jmodModules tree directory).map Module.key).Nodup := by
  have hnames := nodup_names_jmodModules hw directory
  refine List.Nodup.map_on (fun module hm other ho hk => ?_) hnames.of_map
  obtain ⟨name, -, hn, rfl⟩ := mem_jmodModules.1 hm
  obtain ⟨name', -, hn', rfl⟩ := mem_jmodModules.1 ho
  rw [key_jmod_injective (slash_not_mem_of_entriesOf hw hn) (slash_not_mem_of_entriesOf hw hn') hk]

/-! ### Order -/

/-- The modules of a directory are the only list of them that is sorted. -/
theorem jmodModules_eq_of_perm (hw : tree.WellFormed) {modules : List Module}
    (hperm : ((stems tree "jmod" directory).map (jmod directory)).Perm modules)
    (hlt : modules.Pairwise fun a b => a.name < b.name) :
    jmodModules tree directory = modules := by
  have hsorted := List.pairwise_map.1 (names_jmodModules_lt hw directory)
  refine List.Perm.eq_of_pairwise (fun a b _ _ hab hba => absurd hab hba.asymm) hsorted hlt ?_
  rw [jmodModules_eq]
  exact (List.mergeSort_perm _ _).trans hperm

/-- The modules of a directory do not depend on the order in which it is listed. -/
theorem jmodModules_relists (hw : tree.WellFormed) (h : tree.Relists other) (directory : String) :
    jmodModules other directory = jmodModules tree directory := by
  refine jmodModules_eq_of_perm (h.wellFormed hw) ?_
    (List.pairwise_map.1 (names_jmodModules_lt hw directory))
  rw [jmodModules_eq]
  have hstems := ((h.entries_perm hw directory).filterMap (stem? "jmod")).map (jmod directory)
  exact hstems.trans (List.mergeSort_perm _ _).symm

/-! ## Platforms -/

/-- The module of this name in a runtime image. -/
def inImage (image name : String) : Module :=
  (Module.named name).partOf image

theorem key_inImage (image name : String) : (inImage image name).key = ⟨"jrt:/" ++ name⟩ := rfl

theorem names_inImage_lt {names : List String} (h : names.Pairwise (· < ·)) (image : String) :
    ((names.map (inImage image)).map (·.name)).Pairwise (· < ·) := by
  have hname : (·.name) ∘ inImage image = id := rfl
  rw [List.map_map, hname, List.map_id]
  exact h

theorem nodup_keys_inImage {names : List String} (h : names.Pairwise (· < ·)) (image : String) :
    ((names.map (inImage image)).map Module.key).Nodup := by
  rw [List.map_map]
  refine List.Nodup.map (fun name other hk => ?_) (h.imp fun hlt => hlt.ne)
  have htext := congrArg ContainerId.text hk
  exact (String.append_right_inj _).1 htext

/-- The modules that a home has: one in each jmod where there is a directory of them, or else one of
each module that is named in the runtime image, or else none. -/
structure IsPlatform (tree : FileTree) (home : String) (modules : List Module) : Prop where
  names_lt : (modules.map (·.name)).Pairwise (· < ·)
  keys_nodup : (modules.map Module.key).Nodup
  jmods : tree.isDirectory (jmodsOf home) = true →
    ∃ entries, tree.entries? (jmodsOf home) = some entries ∧ ∀ module,
      module ∈ modules ↔ ∃ name, name ≠ "" ∧ fileName name "jmod" ∈ entries ∧
        module = jmod (jmodsOf home) name
  image : tree.isDirectory (jmodsOf home) = false →
    ∀ content, tree.content? (imageOf home) = some content →
      ∃ resources, Image.read content = .ok resources ∧ ∀ module,
        module ∈ modules ↔ ∃ name,
          (∃ resource ∈ resources, ∃ path, Image.Names resource.name name path) ∧
          module = inImage (imageOf home) name ∧ module.key = ⟨"jrt:/" ++ name⟩
  neither : tree.isDirectory (jmodsOf home) = false → tree.content? (imageOf home) = none →
    modules = []

section Home

variable {home : String} {content : List UInt8}

theorem platformModules_of_jmods (hd : tree.isDirectory (jmodsOf home) = true) :
    platformModules tree home = .ok (jmodModules tree (jmodsOf home)) :=
  if_pos hd

theorem platformModules_of_image (hd : tree.isDirectory (jmodsOf home) = false)
    (hc : tree.content? (imageOf home) = some content) :
    platformModules tree home = (Image.read content).map fun resources =>
      (Image.modulesAmong resources).map (inImage (imageOf home)) := by
  unfold platformModules Image.modules
  rw [if_neg (Bool.eq_false_iff.1 hd), hc]
  dsimp only
  cases Image.read content <;> rfl

theorem platformModules_of_neither (hd : tree.isDirectory (jmodsOf home) = false)
    (hc : tree.content? (imageOf home) = none) : platformModules tree home = .ok [] := by
  unfold platformModules
  rw [if_neg (Bool.eq_false_iff.1 hd), hc]

theorem isPlatform_of_jmods (hw : tree.WellFormed)
    (hd : tree.isDirectory (jmodsOf home) = true) :
    IsPlatform tree home (jmodModules tree (jmodsOf home)) where
  names_lt := names_jmodModules_lt hw _
  keys_nodup := nodup_keys_jmodModules hw _
  jmods _ := ⟨_, entries?_of_isDirectory hd, fun _ => mem_jmodModules⟩
  image hno := by
    rw [hd] at hno
    cases hno
  neither hno := by
    rw [hd] at hno
    cases hno

theorem isPlatform_of_image {resources : List ImageResource}
    (hd : tree.isDirectory (jmodsOf home) = false)
    (hc : tree.content? (imageOf home) = some content)
    (hr : Image.read content = .ok resources) :
    IsPlatform tree home ((Image.modulesAmong resources).map (inImage (imageOf home))) where
  names_lt := names_inImage_lt (Image.modulesAmong_pairwise resources) _
  keys_nodup := nodup_keys_inImage (Image.modulesAmong_pairwise resources) _
  jmods hyes := by
    rw [hd] at hyes
    cases hyes
  image _ found hfound := by
    obtain rfl := Option.some.inj (hc.symm.trans hfound)
    refine ⟨resources, hr, fun module => ?_⟩
    rw [List.mem_map]
    constructor
    · rintro ⟨name, hm, rfl⟩
      exact ⟨name, Image.mem_modulesAmong.1 hm, rfl, key_inImage _ _⟩
    · rintro ⟨name, hm, rfl, -⟩
      exact ⟨name, Image.mem_modulesAmong.2 hm, rfl⟩
  neither _ hnone := by
    rw [hc] at hnone
    cases hnone

theorem isPlatform_nil (hd : tree.isDirectory (jmodsOf home) = false)
    (hc : tree.content? (imageOf home) = none) : IsPlatform tree home [] where
  names_lt := List.Pairwise.nil
  keys_nodup := List.nodup_nil
  jmods hyes := by
    rw [hd] at hyes
    cases hyes
  image _ content hsome := by
    rw [hc] at hsome
    cases hsome
  neither _ _ := rfl

theorem isPlatform_of_platformModules (hw : tree.WellFormed) {modules : List Module}
    (h : platformModules tree home = .ok modules) : IsPlatform tree home modules := by
  cases hd : tree.isDirectory (jmodsOf home) with
  | true =>
    obtain rfl := Except.ok.inj ((platformModules_of_jmods hd).symm.trans h)
    exact isPlatform_of_jmods hw hd
  | false =>
    cases hc : tree.content? (imageOf home) with
    | none =>
      obtain rfl := Except.ok.inj ((platformModules_of_neither hd hc).symm.trans h)
      exact isPlatform_nil hd hc
    | some content =>
      rw [platformModules_of_image hd hc] at h
      cases hr : Image.read content with
      | error fault =>
        rw [hr] at h
        cases h
      | ok resources =>
        rw [hr] at h
        obtain rfl := Except.ok.inj h
        exact isPlatform_of_image hd hc hr

theorem platformModules_eq_error_iff {fault : ContainerFault} :
    platformModules tree home = .error fault ↔
      tree.isDirectory (jmodsOf home) = false ∧
        ∃ content, tree.content? (imageOf home) = some content ∧
          Image.read content = .error fault := by
  constructor
  · intro h
    cases hd : tree.isDirectory (jmodsOf home) with
    | true =>
      rw [platformModules_of_jmods hd] at h
      cases h
    | false =>
      cases hc : tree.content? (imageOf home) with
      | none =>
        rw [platformModules_of_neither hd hc] at h
        cases h
      | some content =>
        rw [platformModules_of_image hd hc] at h
        cases hr : Image.read content with
        | ok resources =>
          rw [hr] at h
          cases h
        | error found =>
          rw [hr] at h
          obtain rfl := Except.error.inj h
          exact ⟨rfl, content, rfl, hr⟩
  · rintro ⟨hd, content, hc, hr⟩
    rw [platformModules_of_image hd hc, hr]
    rfl

theorem platformModules_relists (hw : tree.WellFormed) (h : tree.Relists other) (home : String) :
    platformModules other home = platformModules tree home := by
  unfold platformModules
  rw [h.isDirectory_eq hw, h.content?_eq hw, jmodModules_relists hw h]

end Home

/-- **Modules of a platform.** The modules of a home are sorted, no two of them have the same name
or the same key, and they are those of its jmods or else those of its runtime image. There is no
answer only where the image is asked for and cannot be read, and the order in which directories are
listed makes no difference. -/
theorem platform_of_home (hw : tree.WellFormed) (home : String) :
    (∀ modules, platformModules tree home = .ok modules → IsPlatform tree home modules) ∧
    (∀ fault, platformModules tree home = .error fault ↔
      tree.isDirectory (jmodsOf home) = false ∧
        ∃ content, tree.content? (imageOf home) = some content ∧
          Image.read content = .error fault) ∧
    ∀ other, tree.Relists other → platformModules other home = platformModules tree home :=
  ⟨fun _ => isPlatform_of_platformModules hw, fun _ => platformModules_eq_error_iff,
    fun _ h => platformModules_relists hw h home⟩

/-- A kit with two jmods and one file of another kind, and a runtime with an image. -/
def kitTree : FileTree :=
  ((((FileTree.empty "/w").add "kit/jmods/b.jmod" (.file [])).add "kit/jmods/a.jmod"
    (.file [])).add "kit/jmods/notes.txt" (.file [])).add "jre/lib/modules"
    (.file Image.imageOfTwo)

/-- The same tree, listed from the other end. -/
def kitTreeBackwards : FileTree :=
  ⟨kitTree.workingDirectory, kitTree.nodes.reverse⟩

theorem platformModules_kitTree : platformModules kitTree "/w/jre" =
    .ok [inImage "/w/jre/lib/modules" "a", inImage "/w/jre/lib/modules" "b"] := by
  have hw : kitTree.WellFormed := by decide +kernel
  have hnone : kitTree.LinklessBelow [] := by decide +kernel
  have hjmods : jmodsOf "/w/jre" = "/w/jre/jmods" := by decide +kernel
  have himage : imageOf "/w/jre" = "/w/jre/lib/modules" := by decide +kernel
  have hnowhere : kitTree.lookup "/w/jre/jmods" = none :=
    (hw.bind_walk hnone (by decide)).trans (by decide +kernel)
  have hfile : kitTree.lookup "/w/jre/lib/modules" = some (.file Image.imageOfTwo) :=
    (hw.bind_walk hnone (by decide)).trans (by decide +kernel)
  have hread : Image.read Image.imageOfTwo = .ok [⟨"/a/y.z", [1, 2]⟩, ⟨"/b/x", [3]⟩] := by
    decide +kernel
  have hnames : Image.modulesAmong [⟨"/a/y.z", [1, 2]⟩, ⟨"/b/x", [3]⟩] = ["a", "b"] := by
    have hsorted : ["a", "b"].mergeSort (fun a b => decide (a ≤ b)) = ["a", "b"] :=
      List.mergeSort_of_pairwise (List.pairwise_pair.2 (by decide))
    exact congrArg List.eraseReps hsorted
  have hd : kitTree.isDirectory (jmodsOf "/w/jre") = false := by
    rw [hjmods, isDirectory, hnowhere]
    rfl
  have hc : kitTree.content? (imageOf "/w/jre") = some Image.imageOfTwo := by
    rw [himage, content?, hfile]
  rw [platformModules_of_image hd hc, hread, Except.map, hnames, himage]
  rfl

/-- The modules of the kit have the URLs of their files as keys where the kit is given by an absolute
path, and are known by their names where it is not. Those of the runtime are in its image. -/
theorem platform_of_kit :
    kitTree.WellFormed ∧ kitTree.Relists kitTreeBackwards ∧
      IsPlatform kitTree "/w/kit" [jmod "/w/kit/jmods" "a", jmod "/w/kit/jmods" "b"] ∧
      platformModules kitTreeBackwards "kit" = .ok [jmod "kit/jmods" "a", jmod "kit/jmods" "b"] ∧
      (jmod "/w/kit/jmods" "a").key = ⟨"file:///w/kit/jmods/a.jmod"⟩ ∧
      (jmod "kit/jmods" "a").key = ⟨"jrt:/a"⟩ ∧
      IsPlatform kitTree "/w/jre"
        [inImage "/w/jre/lib/modules" "a", inImage "/w/jre/lib/modules" "b"] := by
  have hw : kitTree.WellFormed := by decide +kernel
  have hr : kitTree.Relists kitTreeBackwards := by decide +kernel
  have hnone : kitTree.LinklessBelow [] := by decide +kernel
  have hplace : kitTree.nodeAt ["w".toList, "kit".toList, "jmods".toList] = some .directory := by
    decide +kernel
  have hmodules (home directory : String) (he : jmodsOf home = directory)
      (h : kitTree.locate directory = some ["w".toList, "kit".toList, "jmods".toList]) :
      platformModules kitTree home = .ok [jmod directory "a", jmod directory "b"] := by
    have hd : kitTree.isDirectory directory = true := by
      unfold isDirectory lookup
      rw [h]
      decide +kernel
    have hstems : stems kitTree "jmod" directory = ["b", "a"] := by
      unfold stems entriesOf entries?
      rw [h]
      decide +kernel
    subst he
    rw [platformModules_of_jmods hd, jmodModules_eq_of_perm hw ?_ ?_]
    · rw [hstems]
      exact List.Perm.swap _ _ _
    · exact List.pairwise_pair.2 (show "a" < "b" by decide)
  have habsolute := hmodules "/w/kit" "/w/kit/jmods" (by decide +kernel)
    (hw.walk_of_nodeAt hnone hplace)
  have hrelative := hmodules "kit" "kit/jmods" (by decide +kernel)
    (hw.walk_of_nodeAt (hnone.below ["w".toList]) hplace)
  refine ⟨hw, hr, (platform_of_home hw "/w/kit").1 _ habsolute, ?_, by decide +kernel,
    by decide +kernel, (platform_of_home hw "/w/jre").1 _ platformModules_kitTree⟩
  rw [(platform_of_home hw "kit").2.2 _ hr]
  exact hrelative

end SearchPath.JavaHome
