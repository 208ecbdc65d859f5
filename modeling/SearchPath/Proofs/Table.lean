import Mathlib.Data.List.Basic
import Mathlib.Data.List.Induction
import Mathlib.Tactic.SplitIfs
import SearchPath.Table

/-!
# Tables with distinct names

No operation on tables makes a name come twice. In a table of distinct names the values can be
counted: putting a value adds it to the values under all other names (`values_put_perm`), and a
value that is found stands once before them (`values_perm_of_get?`). A table made of a list keeps
the names in the order in which they come first (`names_ofList_pairwise`), each with its last value
(`get?_ofList`). A function on values commutes with every operation (`get?_map`, `put_map`,
`erase_map`).
-/

namespace SearchPath.Table

variable {κ α : Type} [DecidableEq κ]

/-! ## What is found -/

theorem get?_eq_none_iff {table : Table κ α} {name : κ} :
    table.get? name = none ↔ name ∉ table.names := by
  unfold get? names
  rw [List.lookup_eq_none_iff]
  constructor
  · intro h hm
    obtain ⟨entry, he, rfl⟩ := List.mem_map.1 hm
    simpa using h entry he
  · intro h entry he
    rw [bne_iff_ne]
    rintro rfl
    exact h (List.mem_map_of_mem he)

theorem mem_of_get? {table : Table κ α} {name : κ} {value : α}
    (h : table.get? name = some value) : (name, value) ∈ table.entries := by
  obtain ⟨before, after, he, -⟩ := List.lookup_eq_some_iff.1 h
  rw [he]
  exact List.mem_append_right _ List.mem_cons_self

theorem mem_values_of_get? {table : Table κ α} {name : κ} {value : α}
    (h : table.get? name = some value) : value ∈ table.values :=
  List.mem_map.2 ⟨_, mem_of_get? h, rfl⟩

/-- Where names are distinct, every entry is found. -/
theorem get?_of_mem {table : Table κ α} (hd : table.names.Nodup) {name : κ} {value : α}
    (hm : (name, value) ∈ table.entries) : table.get? name = some value := by
  obtain ⟨entries⟩ := table
  induction entries with
  | nil => exact absurd hm List.not_mem_nil
  | cons entry rest ih =>
    obtain ⟨key, kept⟩ := entry
    have hd' : key ∉ (Table.mk rest).names ∧ (Table.mk rest).names.Nodup := List.nodup_cons.1 hd
    rw [get?_cons]
    rcases List.mem_cons.1 hm with he | hrest
    · obtain ⟨rfl, rfl⟩ := Prod.mk.inj he
      exact if_pos rfl
    · have hne : name ≠ key := by
        rintro rfl
        exact hd'.1 (List.mem_map_of_mem hrest)
      rw [if_neg hne]
      exact ih hd'.2 hrest

/-! ## Putting a new name -/

/-- A value under a new name stands behind all others. -/
theorem entries_put_of_get?_eq_none {table : Table κ α} {name : κ} (value : α)
    (h : table.get? name = none) :
    (table.put name value).entries = table.entries ++ [(name, value)] := by
  obtain ⟨entries⟩ := table
  show putInto name value entries = entries ++ [(name, value)]
  rw [get?_eq_none_iff] at h
  induction entries with
  | nil => rfl
  | cons entry rest ih =>
    have hne : entry.1 ≠ name := fun he => h (he ▸ List.mem_cons_self)
    rw [putInto, if_neg hne, ih fun hm => h (List.mem_cons_of_mem _ hm), List.cons_append]

theorem values_put_of_get?_eq_none {table : Table κ α} {name : κ} (value : α)
    (h : table.get? name = none) : (table.put name value).values = table.values ++ [value] := by
  unfold values
  rw [entries_put_of_get?_eq_none value h, List.map_append]
  rfl

theorem names_put_of_get?_eq_none {table : Table κ α} {name : κ} (value : α)
    (h : table.get? name = none) : (table.put name value).names = table.names ++ [name] := by
  unfold names
  rw [entries_put_of_get?_eq_none value h, List.map_append]
  rfl

/-! ## Distinct names -/

theorem names_put_of_mem {table : Table κ α} {name : κ} (value : α) (h : name ∈ table.names) :
    (table.put name value).names = table.names := by
  obtain ⟨entries⟩ := table
  show (putInto name value entries).map (·.1) = entries.map (·.1)
  induction entries with
  | nil => exact absurd h List.not_mem_nil
  | cons entry rest ih =>
    rw [putInto]
    split
    next he => rw [List.map_cons, List.map_cons, he]
    next he =>
      have hm : name ∈ (Table.mk rest).names :=
        (List.mem_cons.1 h).resolve_left fun heq => he heq.symm
      rw [List.map_cons, List.map_cons, ih hm]

theorem nodup_names_put {table : Table κ α} (h : table.names.Nodup) (name : κ) (value : α) :
    (table.put name value).names.Nodup := by
  by_cases hm : name ∈ table.names
  · rw [names_put_of_mem value hm]
    exact h
  · rw [names_put_of_get?_eq_none value (get?_eq_none_iff.2 hm), List.nodup_append]
    refine ⟨h, by simp, ?_⟩
    intro a ha b hb
    rw [List.mem_singleton.1 hb]
    rintro rfl
    exact hm ha

theorem nodup_names_erase {table : Table κ α} (h : table.names.Nodup) (name : κ) :
    (table.erase name).names.Nodup :=
  h.sublist (List.filter_sublist.map _)

theorem erase_of_get?_eq_none {table : Table κ α} {name : κ} (h : table.get? name = none) :
    table.erase name = table := by
  obtain ⟨entries⟩ := table
  show Table.mk (entries.filter fun entry => entry.1 != name) = ⟨entries⟩
  rw [List.filter_eq_self.2]
  intro entry he
  rw [bne_iff_ne]
  rintro rfl
  exact get?_eq_none_iff.1 h (List.mem_map_of_mem he)

/-- A value put where it stands already changes nothing. -/
theorem put_of_get? {table : Table κ α} {name : κ} {value : α}
    (h : table.get? name = some value) : table.put name value = table := by
  obtain ⟨entries⟩ := table
  show Table.mk (putInto name value entries) = ⟨entries⟩
  congr 1
  induction entries with
  | nil => cases h
  | cons entry rest ih =>
    obtain ⟨key, kept⟩ := entry
    rw [get?_cons] at h
    rw [putInto]
    by_cases hk : key = name
    · rw [if_pos hk.symm, Option.some.injEq] at h
      rw [if_pos hk, h, hk]
    · rw [if_neg (Ne.symm hk)] at h
      rw [if_neg hk, ih h]

/-- In a table of distinct names a value that is found stands once before the others. -/
theorem values_perm_of_get? {table : Table κ α} (hd : table.names.Nodup) {name : κ} {value : α}
    (h : table.get? name = some value) :
    table.values.Perm (value :: (table.erase name).values) := by
  obtain ⟨entries⟩ := table
  induction entries with
  | nil => cases h
  | cons entry rest ih =>
    obtain ⟨key, kept⟩ := entry
    have hd' : key ∉ (Table.mk rest).names ∧ (Table.mk rest).names.Nodup := List.nodup_cons.1 hd
    rw [get?_cons] at h
    by_cases hk : name = key
    · subst hk
      rw [if_pos rfl, Option.some.injEq] at h
      have hrest := erase_of_get?_eq_none (get?_eq_none_iff.2 hd'.1)
      have herase : (Table.mk ((name, kept) :: rest)).erase name = ⟨rest⟩ := by
        rw [← hrest]
        simp [erase]
      rw [herase, h]
      exact List.Perm.refl _
    · rw [if_neg hk] at h
      have herase : ((Table.mk ((key, kept) :: rest)).erase name).values =
          kept :: ((Table.mk rest).erase name).values := by
        simp [erase, values, Ne.symm hk]
      rw [herase]
      exact ((ih hd'.2 h).cons kept).trans (List.Perm.swap value kept _)

/-- In a table of distinct names a value that is put joins the values under all other names. -/
theorem values_put_perm {table : Table κ α} (hd : table.names.Nodup) (name : κ) (value : α) :
    (table.put name value).values.Perm (value :: (table.erase name).values) := by
  have hget : (table.put name value).get? name = some value := by rw [get?_put, if_pos rfl]
  have herase : (table.put name value).erase name = table.erase name := by
    obtain ⟨entries⟩ := table
    show Table.mk ((putInto name value entries).filter fun entry => entry.1 != name) =
      ⟨entries.filter fun entry => entry.1 != name⟩
    clear hd hget
    induction entries with
    | nil => simp [putInto]
    | cons entry rest ih =>
      rw [putInto]
      split
      next he => simp [he]
      next he =>
        rw [List.filter_cons_of_pos (by simpa using he),
          List.filter_cons_of_pos (by simpa using he)]
        rw [Table.mk.injEq] at ih ⊢
        rw [ih]
  rw [← herase]
  exact values_perm_of_get? (nodup_names_put hd name value) hget

/-! ## Tables of lists -/

theorem ofList_append (entries more : List (κ × α)) :
    ofList (entries ++ more) =
      more.foldl (fun table entry => table.put entry.1 entry.2) (ofList entries) :=
  List.foldl_append

theorem ofList_concat (entries : List (κ × α)) (entry : κ × α) :
    ofList (entries ++ [entry]) = (ofList entries).put entry.1 entry.2 :=
  ofList_append entries [entry]

theorem get?_foldl_put_of_not_mem {entries : List (κ × α)} {name : κ}
    (h : name ∉ entries.map (·.1)) (table : Table κ α) :
    (entries.foldl (fun table entry => table.put entry.1 entry.2) table).get? name =
      table.get? name := by
  induction entries generalizing table with
  | nil => rfl
  | cons entry rest ih =>
    rw [List.map_cons, List.mem_cons, not_or] at h
    rw [List.foldl_cons, ih h.2, get?_put, if_neg h.1]

/-- The last value under a name is the one that counts. -/
theorem get?_ofList {after : List (κ × α)} {name : κ} (h : name ∉ after.map (·.1))
    (before : List (κ × α)) (value : α) :
    (ofList (before ++ (name, value) :: after)).get? name = some value := by
  rw [ofList_append, List.foldl_cons, get?_foldl_put_of_not_mem h, get?_put, if_pos rfl]

theorem get?_ofList_eq_none {entries : List (κ × α)} {name : κ}
    (h : name ∉ entries.map (·.1)) : (ofList entries).get? name = none := by
  unfold ofList
  rw [get?_foldl_put_of_not_mem h]
  rfl

theorem mem_names_put_iff {table : Table κ α} {name other : κ} (value : α) :
    other ∈ (table.put name value).names ↔ other ∈ table.names ∨ other = name := by
  by_cases hm : name ∈ table.names
  · rw [names_put_of_mem value hm]
    exact ⟨.inl, fun h => h.elim id fun he => he ▸ hm⟩
  · rw [names_put_of_get?_eq_none value (get?_eq_none_iff.2 hm), List.mem_append,
      List.mem_singleton]

@[simp] theorem mem_names_ofList {entries : List (κ × α)} {name : κ} :
    name ∈ (ofList entries).names ↔ name ∈ entries.map (·.1) := by
  induction entries using List.reverseRecOn with
  | nil => exact Iff.rfl
  | append_singleton entries entry ih =>
    rw [ofList_concat, mem_names_put_iff, ih, List.map_append, List.mem_append, List.map_singleton,
      List.mem_singleton]

/-- **The order of a table.** Its names stand in the order in which they come first in the list. -/
theorem names_ofList_pairwise (entries : List (κ × α)) :
    (ofList entries).names.Pairwise fun name other =>
      (entries.map (·.1)).idxOf name < (entries.map (·.1)).idxOf other := by
  induction entries using List.reverseRecOn with
  | nil => exact List.Pairwise.nil
  | append_singleton entries entry ih =>
    -- the place of a name does not change when entries follow
    have hplace : ∀ name ∈ (ofList entries).names,
        ((entries ++ [entry]).map (·.1)).idxOf name = (entries.map (·.1)).idxOf name := by
      intro name hn
      rw [List.map_append, List.idxOf_append_of_mem (mem_names_ofList.1 hn)]
    have hkept : (ofList entries).names.Pairwise fun name other =>
        ((entries ++ [entry]).map (·.1)).idxOf name <
          ((entries ++ [entry]).map (·.1)).idxOf other := by
      refine ih.imp_of_mem fun hn ho hlt => ?_
      rw [hplace _ hn, hplace _ ho]
      exact hlt
    rw [ofList_concat]
    by_cases hm : entry.1 ∈ (ofList entries).names
    · rw [names_put_of_mem _ hm]
      exact hkept
    · rw [names_put_of_get?_eq_none _ (get?_eq_none_iff.2 hm), List.pairwise_append]
      refine ⟨hkept, List.pairwise_singleton _ _, fun name hn other ho => ?_⟩
      rw [List.mem_singleton.1 ho, hplace name hn, List.map_append,
        List.idxOf_append_of_notMem fun he => hm (mem_names_ofList.2 he)]
      exact Nat.lt_add_right _ (List.idxOf_lt_length_iff.2 (mem_names_ofList.1 hn))

/-! ## Properties of all values -/

/-- All values that can be found have a property. -/
def All (p : α → Prop) (table : Table κ α) : Prop :=
  ∀ name value, table.get? name = some value → p value

theorem all_empty (p : α → Prop) : (empty : Table κ α).All p := by
  intro name value h
  cases h

theorem All.put {p : α → Prop} {table : Table κ α} (h : table.All p) (name : κ) {value : α}
    (hv : p value) : (table.put name value).All p := by
  intro other found hf
  rw [get?_put] at hf
  split_ifs at hf with he
  · cases hf
    exact hv
  · exact h other found hf

theorem All.erase {p : α → Prop} {table : Table κ α} (h : table.All p) (name : κ) :
    (table.erase name).All p := by
  intro other found hf
  rw [get?_erase] at hf
  split_ifs at hf with he
  exact h other found hf

/-! ## Values mapped -/

variable {β : Type}

/-- The table with all its values mapped. -/
def map (f : α → β) (table : Table κ α) : Table κ β :=
  ⟨table.entries.map fun entry => (entry.1, f entry.2)⟩

theorem get?_map (f : α → β) (table : Table κ α) (name : κ) :
    (table.map f).get? name = (table.get? name).map f := by
  obtain ⟨entries⟩ := table
  unfold map get?
  dsimp only
  induction entries with
  | nil => rfl
  | cons entry rest ih =>
    rw [List.map_cons, List.lookup_cons, List.lookup_cons, ih]
    cases name == entry.1 <;> rfl

theorem put_map (f : α → β) (table : Table κ α) (name : κ) (value : α) :
    (table.map f).put name (f value) = (table.put name value).map f := by
  obtain ⟨entries⟩ := table
  unfold map put
  congr 1
  dsimp only
  induction entries with
  | nil => rfl
  | cons entry rest ih =>
    rw [List.map_cons, putInto, putInto, ih]
    by_cases hn : entry.1 = name
    · rw [if_pos hn, if_pos hn]
      rfl
    · rw [if_neg hn, if_neg hn]
      rfl

theorem erase_map (f : α → β) (table : Table κ α) (name : κ) :
    (table.map f).erase name = (table.erase name).map f := by
  unfold map erase
  rw [List.filter_map]
  rfl

end SearchPath.Table
