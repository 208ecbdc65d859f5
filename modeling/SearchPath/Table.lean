/-!
# Tables

A table keeps values under names of some kind in the order in which the names came first; a name
that comes again gets the new value and keeps its place. Main statement: looking a name up after a
value is put gives that value for its name and leaves every other name as it was (`get?_put`).
-/

namespace SearchPath

structure Table (κ α : Type) where
  entries : List (κ × α)
  deriving Repr

namespace Table

variable {κ α : Type}

/-! ## Operations -/

def empty : Table κ α :=
  ⟨[]⟩

def names (table : Table κ α) : List κ :=
  table.entries.map (·.1)

def values (table : Table κ α) : List α :=
  table.entries.map (·.2)

variable [DecidableEq κ]

def get? (table : Table κ α) (name : κ) : Option α :=
  table.entries.lookup name

/-- The entries with a value under a name: in its place, or behind all others. -/
def putInto (name : κ) (value : α) : List (κ × α) → List (κ × α)
  | [] => [(name, value)]
  | entry :: rest =>
    if entry.1 = name then (name, value) :: rest else entry :: putInto name value rest

def put (table : Table κ α) (name : κ) (value : α) : Table κ α :=
  ⟨putInto name value table.entries⟩

def erase (table : Table κ α) (name : κ) : Table κ α :=
  ⟨table.entries.filter fun entry => entry.1 != name⟩

def ofList (entries : List (κ × α)) : Table κ α :=
  entries.foldl (fun table entry => table.put entry.1 entry.2) empty

/-! ## Looking up -/

theorem get?_cons (key other : κ) (value : α) (rest : List (κ × α)) :
    (Table.mk ((key, value) :: rest)).get? other =
      if other = key then some value else (Table.mk rest).get? other := by
  by_cases h : other = key
  · simp [get?, h]
  · simp [get?, List.lookup_cons, beq_eq_false_iff_ne.2 h, h]

theorem get?_put (table : Table κ α) (name other : κ) (value : α) :
    (table.put name value).get? other = if other = name then some value else table.get? other := by
  obtain ⟨entries⟩ := table
  simp only [put]
  induction entries with
  | nil => rw [putInto, get?_cons]
  | cons entry rest ih =>
    obtain ⟨key, kept⟩ := entry
    rw [putInto]
    split
    next hk =>
      rw [get?_cons, get?_cons]
      split <;> simp_all
    next hk =>
      rw [get?_cons, get?_cons, ih]
      split <;> simp_all

theorem get?_erase (table : Table κ α) (name other : κ) :
    (table.erase name).get? other = if other = name then none else table.get? other := by
  obtain ⟨entries⟩ := table
  induction entries with
  | nil => simp [get?, erase]
  | cons entry rest ih =>
    obtain ⟨key, value⟩ := entry
    simp only [erase] at ih
    rw [get?_cons]
    by_cases hk : key = name
    · rw [erase, List.filter_cons_of_neg (by simp [hk]), ih, hk]
      split <;> simp_all
    · rw [erase, List.filter_cons_of_pos (by simp [hk]), get?_cons, ih]
      split <;> simp_all

end Table

end SearchPath
