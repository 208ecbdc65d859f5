import SearchPath.Root.Discovery

/-!
# Nested loader values

A loader value is reported as the lists at its leaves are, one after the other, in whatever shape
the value nests them.

1. `reportLists` reports lists one after the other and keeps the answer to each. Every list has its
   answer (`length_reportLists`), and is reported to what the lists before it have left
   (`reportLists_cut`).
2. A value leaves what the lists at its leaves leave, and its answer joins theirs
   (`reportValue_eq`).
3. Main result (`nesting_is_irrelevant`): a value does what its leaves do, and no leaf is left out.
-/

namespace SearchPath.Discovery

open SearchPath.Root

/-! ## Lists one after the other -/

/-- What is known after lists are reported one after the other, and the answer to each. -/
def reportLists (tree : FileTree) (known : Discovery) (handles : List String) :
    List String → Discovery × List Bool
  | [] => (known, [])
  | list :: rest =>
    let first := known.reportList tree list handles
    let later := reportLists tree first.1 handles rest
    (later.1, first.2 :: later.2)

section Lists

variable (tree : FileTree) (known : Discovery) (handles : List String)

theorem reportLists_fst (lists : List String) :
    (known.reportLists tree handles lists).1 =
      lists.foldl (fun known list => (known.reportList tree list handles).1) known := by
  induction lists generalizing known with
  | nil => rfl
  | cons list rest ih => exact ih _

theorem reportLists_append (lists more : List String) :
    known.reportLists tree handles (lists ++ more) =
      let first := known.reportLists tree handles lists
      let later := first.1.reportLists tree handles more
      (later.1, first.2 ++ later.2) := by
  induction lists generalizing known with
  | nil => rfl
  | cons list rest ih =>
    rw [List.cons_append, reportLists, ih]
    rfl

/-- Every list has its answer. -/
theorem length_reportLists (lists : List String) :
    (known.reportLists tree handles lists).2.length = lists.length := by
  induction lists generalizing known with
  | nil => rfl
  | cons list rest ih => exact congrArg (· + 1) (ih _)

/-- A list among others is reported to what those before it have left, and those behind it to what
it leaves. -/
theorem reportLists_cut (before after : List String) (list : String) :
    let earlier := known.reportLists tree handles before
    let report := earlier.1.reportList tree list handles
    let later := report.1.reportLists tree handles after
    known.reportLists tree handles (before ++ list :: after) =
      (later.1, earlier.2 ++ report.2 :: later.2) :=
  reportLists_append tree known handles before (list :: after)

end Lists

/-! ## Values -/

/-- The answers to several lists as one: whether any of them was found to name a path. -/
def joined (reported : Discovery × List Bool) : Discovery × Bool :=
  (reported.1, reported.2.any id)

theorem joined_append (known : Discovery) (answers more : List Bool) :
    joined (known, answers ++ more) = (known, answers.any id || more.any id) :=
  congrArg (known, ·) List.any_append

section Values

variable (tree : FileTree) (handles : List String)

/-- A single list has a single answer. -/
theorem reportList_eq_joined (known : Discovery) (list : String) :
    known.reportList tree list handles = joined (known.reportLists tree handles [list]) :=
  Prod.ext rfl (Bool.or_false _).symm

mutual

/-- **Values.** A value is reported as the lists at its leaves are. -/
theorem reportValue_eq (known : Discovery) : ∀ value : LoaderValue,
    known.reportValue tree handles value = joined (known.reportLists tree handles value.leaves)
  | .path list => by
    rw [LoaderValue.leaves, Discovery.reportValue]
    exact reportList_eq_joined tree handles known list
  | .sequence items => by
    rw [LoaderValue.leaves, Discovery.reportValue]
    exact reportValues_eq known items
  | .foreign text => by
    rw [LoaderValue.leaves, Discovery.reportValue]
    exact reportList_eq_joined tree handles known text

theorem reportValues_eq (known : Discovery) : ∀ items : List LoaderValue,
    known.reportValues tree handles items =
      joined (known.reportLists tree handles (LoaderValue.leavesOf items))
  | [] => by
    rw [LoaderValue.leavesOf, Discovery.reportValues]
    rfl
  | item :: rest => by
    -- the rest is reported to what the leaves of the first item have left
    have hrest := reportValues_eq (known.reportLists tree handles item.leaves).1 rest
    rw [LoaderValue.leavesOf, Discovery.reportValues, reportValue_eq known item,
      reportLists_append, joined_append]
    dsimp only [joined] at hrest ⊢
    rw [hrest]

end

end Values

/-- A value does what the lists at its leaves do, one after the other from left to right. -/
structure ReportedByLeaves (tree : FileTree) (known : Discovery) (handles : List String)
    (value : LoaderValue) : Prop where
  /-- What is known afterwards is what the lists leave. -/
  known_eq : (known.reportValue tree handles value).1 =
    value.leaves.foldl (fun known list => (known.reportList tree list handles).1) known
  /-- The value is found to name a path exactly if one of the lists is, in its turn. -/
  found_iff : (known.reportValue tree handles value).2 = true ↔
    true ∈ (known.reportLists tree handles value.leaves).2
  /-- No leaf is left out, whatever was answered to those before it. -/
  answered : (known.reportLists tree handles value.leaves).2.length = value.leaves.length
  /-- A leaf has the answer that the list has after those before it, and what follows starts from
  what the list leaves. -/
  leaf_reported : ∀ before list after, value.leaves = before ++ list :: after →
    let earlier := (known.reportLists tree handles before).1
    let report := earlier.reportList tree list handles
    (known.reportLists tree handles value.leaves).2[before.length]? = some report.2 ∧
      (known.reportValue tree handles value).1 = (report.1.reportLists tree handles after).1
  /-- The shape does not matter. -/
  same_leaves : ∀ other : LoaderValue, other.leaves = value.leaves →
    known.reportValue tree handles other = known.reportValue tree handles value

/-- **Nesting.** Whatever is known already, and however deep a value is. -/
theorem nesting_is_irrelevant (tree : FileTree) (known : Discovery) (handles : List String)
    (value : LoaderValue) : ReportedByLeaves tree known handles value where
  known_eq := by
    rw [reportValue_eq, ← reportLists_fst]
    rfl
  found_iff := by
    rw [reportValue_eq]
    simp [joined]
  answered := length_reportLists tree known handles value.leaves
  leaf_reported before list after h := by
    have hanswers := length_reportLists tree known handles before
    rw [reportValue_eq, h, reportLists_cut]
    refine ⟨?_, rfl⟩
    rw [← hanswers, List.getElem?_append_right (Nat.le_refl _), Nat.sub_self]
    rfl
  same_leaves other h := by rw [reportValue_eq, reportValue_eq, h]

end SearchPath.Discovery
