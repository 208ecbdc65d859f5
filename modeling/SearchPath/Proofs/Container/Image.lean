import Mathlib.Data.String.Basic
import SearchPath.Container.Image
import SearchPath.Proofs.Table
import SearchPath.Proofs.Text.Pieces

/-!
# The modules of a runtime image

The modules of an image, and what belongs to each of them, are told from the names of its resources
alone.

1. `Names` says that a name spells a module and a path in it, which it does in one way only;
   `splitName` reads these names and no others (`splitName_eq_some_iff`).
2. The modules are sorted and distinct (`modulesAmong_pairwise`). A module lists the paths that
   names spell in it, in the order of the image (`mem_paths_ofResources`,
   `paths_ofResources_pairwise`), and under each of them the last resource of that name
   (`octets_ofResources`).
3. Main result (`partition_of_image`): the modules of an image that can be read share its resources
   out among them.
-/

namespace SearchPath

open SearchPath.Text

/-! ## Sorted lists without repetitions -/

theorem pairwise_mergeSort_on {α : Type} (name : α → String) (list : List α) :
    (list.mergeSort fun a b => decide (name a ≤ name b)).Pairwise fun a b => name a ≤ name b := by
  have htrans (a b c : α) (hab : decide (name a ≤ name b) = true)
      (hbc : decide (name b ≤ name c) = true) : decide (name a ≤ name c) = true :=
    decide_eq_true (le_trans (of_decide_eq_true hab) (of_decide_eq_true hbc))
  have htotal (a b : α) : (decide (name a ≤ name b) || decide (name b ≤ name a)) = true := by
    simpa using le_total (name a) (name b)
  exact (List.pairwise_mergeSort htrans htotal list).imp fun h => of_decide_eq_true h

section Repetitions

variable {α : Type} [DecidableEq α]

theorem eraseRepsBy_loop_eq (a : α) (rest done : List α) :
    List.eraseRepsBy.loop (fun a b => a == b) a rest done =
      done.reverse ++ List.eraseRepsBy.loop (fun a b => a == b) a rest [] := by
  induction rest generalizing a done with
  | nil => simp [List.eraseRepsBy.loop]
  | cons b rest ih =>
    unfold List.eraseRepsBy.loop
    split
    · exact ih a done
    · rw [ih b (a :: done), ih b [a], List.reverse_cons, List.append_assoc]
      rfl

theorem eraseReps_cons_cons (a b : α) (rest : List α) :
    (a :: b :: rest).eraseReps =
      if a = b then (b :: rest).eraseReps else a :: (b :: rest).eraseReps := by
  show List.eraseRepsBy.loop (fun a b => a == b) a (b :: rest) [] = _
  unfold List.eraseRepsBy.loop
  by_cases h : a = b
  · rw [if_pos h, h, beq_self_eq_true]
    rfl
  · rw [if_neg h, beq_false_of_ne h]
    exact eraseRepsBy_loop_eq b rest [a]

@[simp] theorem mem_eraseReps {a : α} {list : List α} : a ∈ list.eraseReps ↔ a ∈ list := by
  induction list with
  | nil => exact Iff.rfl
  | cons b rest ih =>
    cases rest with
    | nil => exact Iff.rfl
    | cons c rest =>
      rw [eraseReps_cons_cons]
      by_cases h : b = c
      · rw [if_pos h, ih, h]
        simp
      · rw [if_neg h, List.mem_cons, ih, List.mem_cons (a := a) (b := b)]

theorem pairwise_lt_eraseReps {list : List String} (h : list.Pairwise (· ≤ ·)) :
    list.eraseReps.Pairwise (· < ·) := by
  induction list with
  | nil => exact List.Pairwise.nil
  | cons a rest ih =>
    cases rest with
    | nil => exact List.pairwise_singleton _ a
    | cons b rest =>
      obtain ⟨hfirst, hrest⟩ := List.pairwise_cons.1 h
      rw [eraseReps_cons_cons]
      by_cases hab : a = b
      · rw [if_pos hab]
        exact ih hrest
      · rw [if_neg hab, List.pairwise_cons]
        refine ⟨fun c hc => ?_, ih hrest⟩
        have hlt : a < b := lt_of_le_of_ne (hfirst b List.mem_cons_self) hab
        rcases List.mem_cons.1 (mem_eraseReps.1 hc) with rfl | hc
        · exact hlt
        · exact lt_of_lt_of_le hlt ((List.pairwise_cons.1 hrest).1 c hc)

end Repetitions

/-! ## Names -/

namespace Image

/-- The name under which a resource of a module stands in an image. -/
def fullName (module path : String) : String :=
  "/" ++ module ++ "/" ++ path

/-- The name spells a module, which is not empty and has no slash, and a path that is not empty. -/
structure Names (name module path : String) : Prop where
  eq : name = fullName module path
  module_ne : module ≠ ""
  no_slash : '/' ∉ module.toList
  path_ne : path ≠ ""

variable {name module path : String} {resource : ImageResource} {resources : List ImageResource}

theorem toList_fullName (module path : String) :
    (fullName module path).toList = '/' :: (module.toList ++ '/' :: path.toList) := by
  simp [fullName]

/-- A name spells a module and a path in one way only. -/
theorem Names.unique {other rest : String} (h : Names name module path)
    (ho : Names name other rest) : module = other ∧ path = rest := by
  have heq := congrArg String.toList (h.eq.symm.trans ho.eq)
  rw [toList_fullName, toList_fullName] at heq
  have hcut := breakAt_singleton_eq_some_iff.2 ⟨(List.cons.inj heq).2, ho.no_slash⟩
  rw [breakAt_singleton_eq_some_iff.2 ⟨rfl, h.no_slash⟩] at hcut
  obtain ⟨hm, hp⟩ := Prod.mk.inj (Option.some.inj hcut)
  exact ⟨String.toList_inj.1 hm, String.toList_inj.1 hp⟩

theorem splitName_of_names (h : Names name module path) :
    splitName name = some (module, path) := by
  have hm : module.toList ≠ [] := fun he => h.module_ne (String.toList_eq_nil_iff.1 he)
  have hp : path.toList ≠ [] := fun he => h.path_ne (String.toList_eq_nil_iff.1 he)
  unfold splitName
  rw [h.eq, toList_fullName]
  split
  next rest he =>
    cases he
    rw [breakAt_singleton_eq_some_iff.2 ⟨rfl, h.no_slash⟩]
    dsimp only
    rw [if_neg (not_or.2 ⟨hm, hp⟩), String.ofList_toList, String.ofList_toList]
  next hno => exact absurd rfl (hno _)

theorem names_of_splitName (h : splitName name = some (module, path)) :
    Names name module path := by
  unfold splitName at h
  split at h
  next rest hname =>
    split at h
    next before after hcut =>
      split_ifs at h with hne
      obtain ⟨rfl, rfl⟩ := Prod.mk.inj (Option.some.inj h)
      obtain ⟨rfl, hslash⟩ := breakAt_singleton_eq_some_iff.1 hcut
      rw [not_or] at hne
      refine ⟨?_, by simpa using hne.1, by simpa using hslash, by simpa using hne.2⟩
      rw [← String.toList_inj, hname, toList_fullName, String.toList_ofList, String.toList_ofList]
    next => cases h
  next => cases h

/-- **Reading names.** A name is split into what it spells. -/
theorem splitName_eq_some_iff : splitName name = some (module, path) ↔ Names name module path :=
  ⟨names_of_splitName, splitName_of_names⟩

/-! ## Modules -/

theorem mem_modulesAmong :
    module ∈ modulesAmong resources ↔
      ∃ resource ∈ resources, ∃ path, Names resource.name module path := by
  unfold modulesAmong
  dsimp only
  rw [mem_eraseReps, List.mem_mergeSort, List.mem_filterMap]
  constructor
  · rintro ⟨resource, hm, hr⟩
    obtain ⟨⟨owner, path⟩, hs, rfl⟩ := Option.map_eq_some_iff.1 hr
    exact ⟨resource, hm, path, splitName_eq_some_iff.1 hs⟩
  · rintro ⟨resource, hm, path, hn⟩
    exact ⟨resource, hm, by rw [splitName_eq_some_iff.2 hn]; rfl⟩

/-- The modules are sorted, and none of them comes twice. -/
theorem modulesAmong_pairwise (resources : List ImageResource) :
    (modulesAmong resources).Pairwise (· < ·) := by
  have hsorted := pairwise_mergeSort_on id
    (resources.filterMap fun resource => (splitName resource.name).map (·.1))
  exact pairwise_lt_eraseReps hsorted

end Image

/-! ## One module -/

namespace ImageContainer

open SearchPath.Image

variable {name module path : String} {resource : ImageResource} {resources : List ImageResource}

theorem pathIn_eq_some_iff : pathIn module name = some path ↔ Names name module path := by
  unfold pathIn
  constructor
  · intro h
    split at h
    next owner found hs =>
      split_ifs at h with ho
      obtain rfl := Option.some.inj h
      exact ho ▸ splitName_eq_some_iff.1 hs
    next => cases h
  · intro h
    rw [splitName_eq_some_iff.2 h]
    exact if_pos rfl

theorem owns_iff : owns module name = true ↔ ∃ path, pathIn module name = some path := by
  unfold owns pathIn
  cases splitName name with
  | none => simp
  | some found => simp [eq_comm]

/-- Keeping the resources of a module alone leaves the module as it is. -/
theorem ofResources_filter_owns (module : String) (resources : List ImageResource) :
    ofResources module (resources.filter fun resource => owns module resource.name) =
      ofResources module resources := by
  unfold ofResources
  congr 2
  rw [List.filterMap_filter]
  refine List.filterMap_congr fun resource _ => ?_
  by_cases h : owns module resource.name = true
  · rw [if_pos h]
  · have hnone : pathIn module resource.name = none := by
      rw [Option.eq_none_iff_forall_not_mem]
      exact fun path hp => h (owns_iff.2 ⟨path, hp⟩)
    rw [if_neg h, hnone]
    rfl

/-- The resources of a module under their paths. -/
def entriesIn (module : String) (resources : List ImageResource) : List (String × List UInt8) :=
  resources.filterMap fun resource =>
    (pathIn module resource.name).map fun path => (path, resource.content)

theorem paths_entriesIn (module : String) (resources : List ImageResource) :
    (entriesIn module resources).map (·.1) =
      (resources.map (·.name)).filterMap (pathIn module) := by
  unfold entriesIn
  rw [List.map_filterMap, List.filterMap_map]
  refine List.filterMap_congr fun resource _ => ?_
  show ((pathIn module resource.name).map fun path => (path, resource.content)).map (·.1) = _
  rw [Option.map_map]
  exact Option.map_id'

theorem mem_entriesIn :
    path ∈ (entriesIn module resources).map (·.1) ↔
      ∃ resource ∈ resources, Names resource.name module path := by
  rw [paths_entriesIn, List.mem_filterMap]
  constructor
  · rintro ⟨name, hn, hp⟩
    obtain ⟨resource, hm, rfl⟩ := List.mem_map.1 hn
    exact ⟨resource, hm, pathIn_eq_some_iff.1 hp⟩
  · rintro ⟨resource, hm, hn⟩
    exact ⟨resource.name, List.mem_map_of_mem hm, pathIn_eq_some_iff.2 hn⟩

/-- **What a module lists.** These are the paths that names spell in it. -/
theorem mem_paths_ofResources :
    path ∈ (ofResources module resources).paths ↔
      ∃ resource ∈ resources, Names resource.name module path :=
  Table.mem_names_ofList.trans mem_entriesIn

/-- Of two texts that a function takes from a list, the one whose source comes first comes first. -/
theorem idxOf_lt_of_filterMap {f : String → Option String} {names : List String}
    {a b x y : String} (ha : ∀ name, f name = some x ↔ name = a)
    (hb : ∀ name, f name = some y ↔ name = b)
    (h : (names.filterMap f).idxOf x < (names.filterMap f).idxOf y) :
    names.idxOf a < names.idxOf b := by
  induction names with
  | nil => exact absurd h (Nat.lt_irrefl _)
  | cons name names ih =>
    by_cases hna : name = a
    · have hx : f name = some x := (ha name).2 hna
      have hnb : name ≠ b := by
        intro hnb
        have hy := (hb name).2 hnb
        rw [hx] at hy
        rw [Option.some.inj hy] at h
        exact absurd h (Nat.lt_irrefl _)
      rw [hna, List.idxOf_cons_self, List.idxOf_cons_ne names (hna ▸ hnb)]
      exact Nat.succ_pos _
    · have hx : f name ≠ some x := fun he => hna ((ha name).1 he)
      have hy : f name ≠ some y := by
        intro he
        rw [List.filterMap_cons_some he, List.idxOf_cons_self] at h
        exact absurd h (Nat.not_lt_zero _)
      have hnb : name ≠ b := fun he => hy ((hb name).2 he)
      rw [List.idxOf_cons_ne names hna, List.idxOf_cons_ne names hnb]
      refine Nat.succ_lt_succ (ih ?_)
      cases hf : f name with
      | none =>
        rw [List.filterMap_cons_none hf] at h
        exact h
      | some z =>
        have hzx : z ≠ x := fun he => hx (he ▸ hf)
        have hzy : z ≠ y := fun he => hy (he ▸ hf)
        rw [List.filterMap_cons_some hf, List.idxOf_cons_ne _ hzx, List.idxOf_cons_ne _ hzy] at h
        exact Nat.lt_of_succ_lt_succ h

/-- The paths of a module stand in the order in which their names come first in the image. -/
theorem paths_ofResources_pairwise (module : String) (resources : List ImageResource) :
    (ofResources module resources).paths.Pairwise fun path other =>
      (resources.map (·.name)).idxOf (fullName module path) <
        (resources.map (·.name)).idxOf (fullName module other) := by
  have horder := Table.names_ofList_pairwise (entriesIn module resources)
  rw [paths_entriesIn] at horder
  have hsource {path : String} (hp : path ∈ (ofResources module resources).paths) (name : String) :
      pathIn module name = some path ↔ name = fullName module path := by
    obtain ⟨resource, -, hn⟩ := mem_paths_ofResources.1 hp
    rw [pathIn_eq_some_iff]
    exact ⟨fun h => h.eq, fun h => ⟨h, hn.module_ne, hn.no_slash, hn.path_ne⟩⟩
  exact horder.imp_of_mem fun hp ho hlt => idxOf_lt_of_filterMap (hsource hp) (hsource ho) hlt

/-- **What a module reads.** Of the resources of one name the last one counts. -/
theorem octets_ofResources {after : List ImageResource} (hn : Names resource.name module path)
    (hlast : ∀ later ∈ after, later.name ≠ resource.name) (before : List ImageResource) :
    (ofResources module (before ++ resource :: after)).octets path = .ok resource.content := by
  have hentries : entriesIn module (before ++ resource :: after) =
      entriesIn module before ++ (path, resource.content) :: entriesIn module after := by
    unfold entriesIn
    rw [List.filterMap_append, List.filterMap_cons, pathIn_eq_some_iff.2 hn]
    rfl
  have hafter : path ∉ (entriesIn module after).map (·.1) := by
    intro hm
    obtain ⟨later, hl, hnl⟩ := mem_entriesIn.1 hm
    exact hlast later hl (hnl.eq.trans hn.eq.symm)
  have hget : (ofResources module (before ++ resource :: after)).resources.get? path =
      some resource.content := by
    show (Table.ofList (entriesIn module (before ++ resource :: after))).get? path = _
    rw [hentries]
    exact Table.get?_ofList hafter _ _
  unfold octets
  rw [hget]

theorem octets_ofResources_missing
    (h : ∀ resource ∈ resources, ¬Names resource.name module path) :
    (ofResources module resources).octets path = .error (.missingResource path) := by
  have hnone : path ∉ (entriesIn module resources).map (·.1) := by
    rw [mem_entriesIn]
    rintro ⟨resource, hm, hn⟩
    exact h resource hm hn
  have hget : (ofResources module resources).resources.get? path = none :=
    Table.get?_ofList_eq_none hnone
  unfold octets
  rw [hget]

end ImageContainer

/-! ## All modules -/

namespace Image

/-- The modules share the resources of an image out among them; each of them is read as the
container that is given for it. -/
structure Partition (resources : List ImageResource) (modules : List String)
    (container : String → ImageContainer) : Prop where
  sorted : modules.Pairwise (· < ·)
  /-- Every module lists a path, and no path twice. -/
  lists : ∀ module ∈ modules, (container module).paths ≠ [] ∧ (container module).paths.Nodup
  /-- Paths stand in the order in which their names come first in the image. -/
  in_order : ∀ module, (container module).paths.Pairwise fun path other =>
    (resources.map (·.name)).idxOf (fullName module path) <
      (resources.map (·.name)).idxOf (fullName module other)
  /-- A module lists nothing but what the image has of it. -/
  mem_paths_iff : ∀ module path, path ∈ (container module).paths ↔
    ∃ resource ∈ resources, Names resource.name module path
  /-- A resource of a module and a path is listed there and nowhere else. -/
  owner : ∀ resource ∈ resources, ∀ module path, Names resource.name module path →
    module ∈ modules ∧ path ∈ (container module).paths ∧
      ∀ other ∈ modules, ∀ rest ∈ (container other).paths,
        fullName other rest = resource.name → other = module ∧ rest = path
  /-- Of the resources of one name the last one is read. -/
  octets_last : ∀ before resource after, resources = before ++ resource :: after →
    (∀ later ∈ after, later.name ≠ resource.name) →
    ∀ module path, Names resource.name module path →
      (container module).octets path = .ok resource.content
  octets_missing : ∀ module path, (∀ resource ∈ resources, ¬Names resource.name module path) →
    (container module).octets path = .error (.missingResource path)
  paths_other : ∀ module, module ∉ modules → (container module).paths = []

open SearchPath.ImageContainer

/-- Resources are shared out among the modules that their names spell, whatever they were decoded
from. -/
theorem partition_of_resources (resources : List ImageResource) :
    Partition resources (modulesAmong resources) (ofResources · resources) := by
  constructor
  case sorted => exact modulesAmong_pairwise resources
  case lists =>
    intro module hm
    refine ⟨?_, (paths_ofResources_pairwise module resources).imp fun hlt he => ?_⟩
    · obtain ⟨resource, hr, path, hn⟩ := mem_modulesAmong.1 hm
      exact List.ne_nil_of_mem (mem_paths_ofResources.2 ⟨resource, hr, hn⟩)
    · rw [he] at hlt
      exact Nat.lt_irrefl _ hlt
  case in_order => exact fun module => paths_ofResources_pairwise module resources
  case mem_paths_iff => exact fun _ _ => mem_paths_ofResources
  case owner =>
    intro resource hr module path hn
    refine ⟨mem_modulesAmong.2 ⟨resource, hr, path, hn⟩,
      mem_paths_ofResources.2 ⟨resource, hr, hn⟩, fun other _ rest hrest he => ?_⟩
    obtain ⟨source, -, hs⟩ := mem_paths_ofResources.1 hrest
    exact Names.unique ⟨he.symm, hs.module_ne, hs.no_slash, hs.path_ne⟩ hn
  case octets_last =>
    rintro before resource after rfl hlast module path hn
    exact octets_ofResources hn hlast before
  case octets_missing => exact fun _ _ => octets_ofResources_missing
  case paths_other =>
    intro module hm
    refine List.eq_nil_iff_forall_not_mem.2 fun path hp => hm ?_
    obtain ⟨resource, hr, hn⟩ := mem_paths_ofResources.1 hp
    exact mem_modulesAmong.2 ⟨resource, hr, path, hn⟩

/-- A name that comes twice is listed where it comes first and read where it comes last, and further
slashes belong to the path. -/
example :
    let image := ofResources "a" [⟨"/a/x", [1]⟩, ⟨"/b/y", [2]⟩, ⟨"/a//z", [3]⟩, ⟨"/a/x", [4]⟩]
    image.paths = ["x", "/z"] ∧ image.octets "x" = .ok [4] := by
  decide +kernel

/-- **The modules of an image.** Either an image cannot be read, and then neither its modules can be
told nor any of them be opened; or all of them can be opened, and its resources are shared out among
them. -/
theorem partition_of_image (content : List UInt8) :
    match Image.read content with
    | .error e => Image.modules content = .error e ∧ ∀ module, ofContent module content = .error e
    | .ok resources => ∃ modules container, Image.modules content = .ok modules ∧
        (∀ module, ofContent module content = .ok (container module)) ∧
        Partition resources modules container := by
  unfold Image.modules ofContent
  cases Image.read content with
  | error e => exact ⟨rfl, fun _ => rfl⟩
  | ok resources =>
    refine ⟨modulesAmong resources, (ofResources · resources), rfl, fun module => ?_,
      partition_of_resources resources⟩
    exact congrArg Except.ok (ofResources_filter_owns module resources)

/-- An image of `/a/y.z` and `/b/x`, with its numbers lowest octet first. -/
def imageOfTwo : List UInt8 :=
  -- header: number, version, flags, number of resources, and the sizes of the parts
  [0xDA, 0xDA, 0xFE, 0xCA, 0, 0, 1, 0, 0, 0, 0, 0, 2, 0, 0, 0] ++
    [2, 0, 0, 0, 20, 0, 0, 0, 13, 0, 0, 0] ++
  -- hash table, and where the two locations start
  [0, 0, 0, 0, 0, 0, 0, 0] ++ [0, 0, 0, 0, 11, 0, 0, 0] ++
  -- parent, base, extension, offset and size of each
  [0x10, 1, 0x18, 4, 0x20, 6, 0x28, 0, 0x38, 2, 0] ++ [0x10, 8, 0x18, 11, 0x28, 2, 0x38, 1, 0] ++
  -- strings and content
  [0, 0x2F, 0x61, 0, 0x79, 0, 0x7A, 0, 0x2F, 0x62, 0, 0x78, 0] ++ [1, 2, 3]

example :
    Image.read imageOfTwo = .ok [⟨"/a/y.z", [1, 2]⟩, ⟨"/b/x", [3]⟩] ∧
      (ofContent "a" imageOfTwo).map (·.paths) = .ok ["y.z"] ∧
      (ofContent "b" imageOfTwo).bind (·.octets "x") = .ok [3] ∧
      (ofContent "b" imageOfTwo).bind (·.octets "y.z") = .error (.missingResource "y.z") := by
  decide +kernel

end Image

end SearchPath
