import SearchPath.Proofs.Policy.Rules
import SearchPath.Settings

/-!
# The order of rules

A policy keeps what its rules add in lists, in the order in which the rules came. What it decides
depends on the members of the lists alone.

1. Policies with the same members in every list decide alike (`Alike.sameDecisions`).
2. The members come from the rules, whatever their order and number (`Alike.addAll`), and the rules
   on whole paths are put in place beside them (`withGlobs_addAll`).
3. `Lists` says list by list which rules settings ask for; their policy is alike to any that is
   built from such rules (`alike_policy`).
4. Main result (`sameDecisions_of_sameRules`): the same rules in any order and number, before or
   behind the rules on whole paths, and settings with their lists in any order decide alike.
-/

namespace SearchPath

open Policy

/-! ## Lists with the same members -/

/-- Two lists have the same members, in whatever order and number. -/
def SameMembers {α : Type} (as bs : List α) : Prop :=
  as ⊆ bs ∧ bs ⊆ as

namespace SameMembers

variable {α β : Type} {as bs cs ds : List α}

instance [DecidableEq α] : Decidable (SameMembers as bs) :=
  inferInstanceAs (Decidable (_ ∧ _))

theorem mem_iff (h : SameMembers as bs) {a : α} : a ∈ as ↔ a ∈ bs :=
  ⟨fun ha => h.1 ha, fun hb => h.2 hb⟩

theorem of_perm (h : as.Perm bs) : SameMembers as bs :=
  ⟨h.subset, h.symm.subset⟩

theorem refl (as : List α) : SameMembers as as :=
  of_perm (List.Perm.refl as)

theorem map (h : SameMembers as bs) (f : α → β) : SameMembers (as.map f) (bs.map f) :=
  ⟨List.map_subset f h.1, List.map_subset f h.2⟩

theorem filterMap (h : SameMembers as bs) (f : α → Option β) :
    SameMembers (as.filterMap f) (bs.filterMap f) :=
  ⟨List.filterMap_subset f h.1, List.filterMap_subset f h.2⟩

theorem append (h : SameMembers as bs) (ht : SameMembers cs ds) :
    SameMembers (as ++ cs) (bs ++ ds) := by
  constructor
  · exact List.append_subset.2 ⟨List.subset_append_of_subset_left ds h.1,
      List.subset_append_of_subset_right bs ht.1⟩
  · exact List.append_subset.2 ⟨List.subset_append_of_subset_left cs h.2,
      List.subset_append_of_subset_right as ht.2⟩

theorem any_eq (h : SameMembers as bs) (p : α → Bool) : as.any p = bs.any p := by
  rw [Bool.eq_iff_iff, List.any_eq_true, List.any_eq_true]
  simp only [h.mem_iff]

theorem contains_eq [DecidableEq α] (h : SameMembers as bs) (a : α) :
    as.contains a = bs.contains a := by
  rw [Bool.eq_iff_iff, List.contains_iff_mem, List.contains_iff_mem, h.mem_iff]

theorem isEmpty_eq (h : SameMembers as bs) : as.isEmpty = bs.isEmpty := by
  rw [Bool.eq_iff_iff, List.isEmpty_iff, List.isEmpty_iff]
  exact ⟨fun ha => List.subset_nil.1 (ha ▸ h.2), fun hb => List.subset_nil.1 (hb ▸ h.1)⟩

end SameMembers

namespace Policy

/-! ## Policies with the same members -/

/-- Two policies have the same members in every list. -/
structure Alike (policy other : Policy) : Prop where
  acceptedPrefixes : SameMembers policy.acceptedPrefixes other.acceptedPrefixes
  rejectedPrefixes : SameMembers policy.rejectedPrefixes other.rejectedPrefixes
  classPackages : SameMembers policy.classPackages other.classPackages
  classFiles : SameMembers policy.classFiles other.classFiles
  acceptGlobs : SameMembers policy.globs.accept other.globs.accept
  rejectGlobs : SameMembers policy.globs.reject other.globs.reject

/-- Two policies decide every directory and every path alike. -/
structure SameDecisions (policy other : Policy) : Prop where
  matchDirectory : ∀ directory, policy.matchDirectory directory = other.matchDirectory directory
  acceptsClassFile : ∀ path, policy.acceptsClassFile path = other.acceptsClassFile path
  accepts : ∀ status path, policy.accepts status path = other.accepts status path
  /-- What is asked of a resource: its status, and whether it is accepted. -/
  statusOf : ∀ path, policy.statusOf path = other.statusOf path
  acceptsPath : ∀ path, policy.acceptsPath path = other.acceptsPath path
  /-- What is asked of the rules on whole paths. -/
  rejects : ∀ path, policy.globs.rejects path = other.globs.rejects path
  requests : ∀ path, policy.globs.requests path = other.globs.requests path
  globsEmpty : policy.globs.isEmpty = other.globs.isEmpty

variable {policy other : Policy}

theorem Alike.refl (policy : Policy) : policy.Alike policy :=
  ⟨.refl _, .refl _, .refl _, .refl _, .refl _, .refl _⟩

theorem Alike.matchDirectory_eq (h : policy.Alike other) (directory : String) :
    policy.matchDirectory directory = other.matchDirectory directory := by
  unfold matchDirectory
  dsimp only
  rw [h.rejectedPrefixes.any_eq, h.acceptedPrefixes.isEmpty_eq, h.classPackages.isEmpty_eq,
    h.acceptedPrefixes.contains_eq, h.classPackages.contains_eq, h.acceptedPrefixes.any_eq]

theorem Alike.accepts_eq (h : policy.Alike other) (status : DirectoryMatch) (path : String) :
    policy.accepts status path = other.accepts status path := by
  cases status with
  | classPackage => exact h.classFiles.contains_eq path
  | rejected | below | accepted | unmatched => rfl

theorem Alike.rejects_eq (h : policy.Alike other) (path : String) :
    policy.globs.rejects path = other.globs.rejects path :=
  h.rejectGlobs.any_eq _

/-- **Decisions by members.** -/
theorem Alike.sameDecisions (h : policy.Alike other) : policy.SameDecisions other where
  matchDirectory := h.matchDirectory_eq
  acceptsClassFile := h.classFiles.contains_eq
  accepts := h.accepts_eq
  statusOf path := h.matchDirectory_eq (parentDirectory path)
  acceptsPath path := by
    unfold acceptsPath statusOf
    rw [h.matchDirectory_eq, h.accepts_eq]
  rejects := h.rejects_eq
  requests path := by
    unfold GlobRules.requests
    rw [h.acceptGlobs.any_eq, h.rejects_eq]
  globsEmpty := by
    unfold GlobRules.isEmpty
    rw [h.acceptGlobs.isEmpty_eq, h.rejectGlobs.isEmpty_eq]

/-! ## Rules in any order -/

/-- The same rules leave policies alike that were alike before. -/
theorem Alike.addAll (h : policy.Alike other) {rules others : List Rule}
    (hr : SameMembers rules others) : (policy.addAll rules).Alike (other.addAll others) := by
  rw [addAll_eq, addAll_eq]
  exact ⟨h.acceptedPrefixes.append (hr.filterMap _), h.rejectedPrefixes.append (hr.filterMap _),
    h.classPackages.append ((hr.filterMap _).map _), h.classFiles.append ((hr.filterMap _).map _),
    h.acceptGlobs, h.rejectGlobs⟩

/-- It does not matter when the rules on whole paths are put in place. -/
theorem withGlobs_addAll (policy : Policy) (globs : GlobRules) (front back : List Rule) :
    ((policy.addAll front).withGlobs globs).addAll back =
      (policy.withGlobs globs).addAll (front ++ back) := by
  rw [addAll_eq, addAll_eq, addAll_eq]
  simp [withGlobs, List.filterMap_append]

end Policy

/-! ## Settings -/

namespace Settings

variable {settings other : Settings} {rules others : List Rule}

/-- The rules are what the settings list, in any order and number: an entry of each list comes to
rules of one kind, and there are no others. -/
structure Lists (settings : Settings) (rules : List Rule) : Prop where
  acceptPackages : ∀ name, .accept (.package name) ∈ rules ↔ name ∈ settings.acceptPackages
  rejectPackages : ∀ name, .reject (.package name) ∈ rules ↔ name ∈ settings.rejectPackages
  acceptPaths : ∀ directory, .accept (.path directory) ∈ rules ↔ directory ∈ settings.acceptPaths
  rejectPaths : ∀ directory, .reject (.path directory) ∈ rules ↔ directory ∈ settings.rejectPaths
  acceptClasses : ∀ name, .acceptClass name ∈ rules ↔ name ∈ settings.acceptClasses

theorem Lists.mem_iff (h : settings.Lists rules) (ho : settings.Lists others) (rule : Rule) :
    rule ∈ rules ↔ rule ∈ others := by
  rcases rule with (directory | name) | (directory | name) | name
  · rw [h.acceptPaths, ho.acceptPaths]
  · rw [h.acceptPackages, ho.acceptPackages]
  · rw [h.rejectPaths, ho.rejectPaths]
  · rw [h.rejectPackages, ho.rejectPackages]
  · rw [h.acceptClasses, ho.acceptClasses]

theorem Lists.sameMembers (h : settings.Lists rules) (ho : settings.Lists others) :
    SameMembers rules others :=
  ⟨fun rule hm => (h.mem_iff ho rule).1 hm, fun rule hm => (h.mem_iff ho rule).2 hm⟩

/-- Settings with permuted lists list the same rules. -/
theorem Lists.of_perm (h : settings.Lists rules)
    (hp : ∀ which, (settings.getList which).Perm (other.getList which)) : other.Lists rules where
  acceptPackages name := (h.acceptPackages name).trans (hp .acceptPackages).mem_iff
  rejectPackages name := (h.rejectPackages name).trans (hp .rejectPackages).mem_iff
  acceptPaths directory := (h.acceptPaths directory).trans (hp .acceptPaths).mem_iff
  rejectPaths directory := (h.rejectPaths directory).trans (hp .rejectPaths).mem_iff
  acceptClasses name := (h.acceptClasses name).trans (hp .acceptClasses).mem_iff

/-- The rules of settings are what they list. -/
theorem lists_rules (settings : Settings) : settings.Lists settings.rules := by
  constructor <;> intro entry <;> simp [rules]

/-- The policy of settings is alike to the one that is built from what they list. -/
theorem alike_policy (h : settings.Lists rules) :
    settings.policy.Alike
      ((everything.withGlobs ⟨settings.acceptResourcePaths, settings.rejectResourcePaths⟩).addAll
        rules) :=
  (Alike.refl _).addAll (settings.lists_rules.sameMembers h)

/-- Settings with permuted lists ask for policies alike. -/
theorem alike_policy_of_perm (hp : ∀ which, (settings.getList which).Perm (other.getList which)) :
    settings.policy.Alike other.policy := by
  have hstart :
      (everything.withGlobs ⟨settings.acceptResourcePaths, settings.rejectResourcePaths⟩).Alike
        (everything.withGlobs ⟨other.acceptResourcePaths, other.rejectResourcePaths⟩) :=
    { Alike.refl everything with
      acceptGlobs := .of_perm (hp .acceptResourcePaths)
      rejectGlobs := .of_perm (hp .rejectResourcePaths) }
  exact hstart.addAll ((settings.lists_rules.of_perm hp).sameMembers other.lists_rules)

end Settings

namespace Policy

/-- **Decisions do not depend on the order of rules.** Two lists of the same rules, in any order and
number, lead any policy to the same decisions. So do, instead of settings, the rules that they list
in any order, with the rules on whole paths put in place among them, and settings with permuted
lists. -/
theorem sameDecisions_of_sameRules (policy : Policy) {rules others : List Rule}
    (hrules : SameMembers rules others) (settings : Settings) {front back : List Rule}
    (hlisted : settings.Lists (front ++ back)) {permuted : Settings}
    (hlists : ∀ which, (settings.getList which).Perm (permuted.getList which)) :
    (policy.addAll rules).SameDecisions (policy.addAll others) ∧
      settings.policy.SameDecisions
        (((everything.addAll front).withGlobs
          ⟨settings.acceptResourcePaths, settings.rejectResourcePaths⟩).addAll back) ∧
      settings.policy.SameDecisions permuted.policy := by
  refine ⟨((Alike.refl policy).addAll hrules).sameDecisions, ?_,
    (Settings.alike_policy_of_perm hlists).sameDecisions⟩
  rw [withGlobs_addAll]
  exact (Settings.alike_policy hlisted).sameDecisions

/-- Rules of every kind in another order, one of them twice. -/
theorem sameDecisions_shuffled :
    let rules : List Rule := [.accept (.path "com"), .reject (.package "com.example.internal"),
      .acceptClass "com.example.Foo"]
    let shuffled : List Rule := [.acceptClass "com.example.Foo", .accept (.path "com"),
      .reject (.package "com.example.internal"), .accept (.path "com")]
    let settings : Settings := ⟨["net.a", "net.b"], ["com.example.internal"], ["com", "org"],
      ["org/old", "org/test"], ["com.example.Foo"], ["META-INF/*"], ["*.pem", "*.key"], 8⟩
    let permuted : Settings := ⟨["net.b", "net.a"], ["com.example.internal"], ["org", "com"],
      ["org/test", "org/old"], ["com.example.Foo"], ["META-INF/*"], ["*.key", "*.pem"], 8⟩
    let front : List Rule := [.reject (.path "org/test"), .acceptClass "com.example.Foo",
      .accept (.path "org"), .accept (.package "net.b")]
    let back : List Rule := [.accept (.path "com"), .reject (.package "com.example.internal"),
      .accept (.path "org"), .accept (.package "net.a"), .reject (.path "org/old")]
    (SameMembers rules shuffled ∧ settings.Lists (front ++ back) ∧
      ∀ which, (settings.getList which).Perm (permuted.getList which)) ∧
    (everything.addAll rules).SameDecisions (everything.addAll shuffled) ∧
      settings.policy.SameDecisions
        (((everything.addAll front).withGlobs ⟨["META-INF/*"], ["*.pem", "*.key"]⟩).addAll back) ∧
      settings.policy.SameDecisions permuted.policy := by
  intro rules shuffled settings permuted front back
  have hrules : SameMembers rules shuffled := by decide
  have hlisted : settings.Lists (front ++ back) := by
    constructor <;> intro entry <;> simp [front, back, settings] <;> tauto
  have hlists : ∀ which, (settings.getList which).Perm (permuted.getList which) := by
    intro which
    cases which <;> decide
  exact ⟨⟨hrules, hlisted, hlists⟩,
    sameDecisions_of_sameRules everything hrules settings hlisted hlists⟩

end Policy

end SearchPath
