import Mathlib.Data.List.Basic
import SearchPath.Policy.Basic

/-!
# What rules leave in a policy

1. Each rule adds its own entries to the lists of a policy and changes nothing else, so after any
   rules every list holds, in their order, what each of them has added (`addAll_eq`).
2. A directory is rejected exactly if a rejected prefix starts it
   (`matchDirectory_eq_rejected_iff`).
-/

namespace SearchPath.Policy

/-! ## Rules one after the other -/

/-- The prefix that a rule accepts. -/
def Rule.accepted? : Rule → Option String
  | .accept place => some place.start
  | _ => none

/-- The prefix that a rule rejects. -/
def Rule.rejected? : Rule → Option String
  | .reject place => some place.start
  | _ => none

/-- The prefix of the package of a class. -/
def packageOfClass (name : String) : String :=
  prefixOfPackage (splitClassName name).1

/-- The path of a class. -/
def fileOfClass (name : String) : String :=
  packageOfClass name ++ (splitClassName name).2 ++ ".class"

/-- The name of the class that a rule accepts. -/
def Rule.class? : Rule → Option String
  | .acceptClass name => some name
  | _ => none

theorem add_eq (policy : Policy) (rule : Rule) :
    policy.add rule =
      { acceptedPrefixes := policy.acceptedPrefixes ++ rule.accepted?.toList
        rejectedPrefixes := policy.rejectedPrefixes ++ rule.rejected?.toList
        classPackages := policy.classPackages ++ rule.class?.toList.map packageOfClass
        classFiles := policy.classFiles ++ rule.class?.toList.map fileOfClass
        globs := policy.globs } := by
  cases rule <;>
    simp [add, Rule.accepted?, Rule.rejected?, Rule.class?, packageOfClass, fileOfClass]

/-- **Policies by their rules.** -/
theorem addAll_eq (policy : Policy) (rules : List Rule) :
    policy.addAll rules =
      { acceptedPrefixes := policy.acceptedPrefixes ++ rules.filterMap Rule.accepted?
        rejectedPrefixes := policy.rejectedPrefixes ++ rules.filterMap Rule.rejected?
        classPackages := policy.classPackages ++ (rules.filterMap Rule.class?).map packageOfClass
        classFiles := policy.classFiles ++ (rules.filterMap Rule.class?).map fileOfClass
        globs := policy.globs } := by
  induction rules generalizing policy with
  | nil => simp [addAll]
  | cons rule rules ih =>
    show (policy.add rule).addAll rules = _
    rw [ih, add_eq]
    cases rule <;> simp [Rule.accepted?, Rule.rejected?, Rule.class?, List.filterMap_cons]

/-! ## Rejection -/

theorem mem_rejectedPrefixes {rules : List Rule} {start : String} :
    start ∈ (everything.addAll rules).rejectedPrefixes ↔
      ∃ place, Rule.reject place ∈ rules ∧ place.start = start := by
  rw [addAll_eq]
  show start ∈ [] ++ rules.filterMap Rule.rejected? ↔ _
  rw [List.nil_append, List.mem_filterMap]
  constructor
  · rintro ⟨rule, hm, hr⟩
    cases rule with
    | reject place => exact ⟨place, hm, Option.some.inj hr⟩
    | accept place => cases hr
    | acceptClass name => cases hr
  · rintro ⟨place, hm, rfl⟩
    exact ⟨.reject place, hm, rfl⟩

/-- The text of a directory that prefixes are compared with: none for the top. -/
def stem (directory : String) : String :=
  if directory = "/" then "" else directory

theorem matchDirectory_eq_rejected_iff {policy : Policy} {directory : String} :
    policy.matchDirectory directory = .rejected ↔
      policy.rejectedPrefixes.any (startsWith · (stem directory)) = true := by
  show (if policy.rejectedPrefixes.any (startsWith · (stem directory)) = true then
    DirectoryMatch.rejected else _) = _ ↔ _
  constructor
  · intro h
    by_contra hr
    rw [if_neg hr] at h
    split_ifs at h
  · intro h
    rw [if_pos h]

end SearchPath.Policy
