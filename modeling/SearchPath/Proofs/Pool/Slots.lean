import Mathlib.Tactic.SplitIfs
import SearchPath.Pool
import SearchPath.Proofs.Table

/-!
# Slots by key

What a pool shows of a container is the slot of its key. Each change of a pool is described by what
it does to the slot of every key: one more lease (`slot?_lent`), a reader put in (`filled`), a lease
given up (`leases_release`), and closing (`slot?_close`).

Asking for a lease does one of four things (`acquire_cases`): it is refused, it shares the reader
that is there, it makes the reader, or making it fails.
-/

namespace SearchPath.Pool

variable {σ ρ : Type}

/-! ## Views -/

/-- The keys of the slots. -/
def keys (pool : Pool ρ) : List ContainerId :=
  pool.slots.map (·.1)

/-- The reader in the slot of a key. -/
def reader? (pool : Pool ρ) (key : ContainerId) : Option ρ :=
  (pool.slot? key).bind (·.reader)

theorem lower_of_le {count amount : Nat} (h : amount ≤ count) :
    lower count amount = count - amount :=
  if_pos h

theorem isOpen_eq (pool : Pool ρ) (key : ContainerId) :
    pool.isOpen key = (pool.reader? key).isSome := rfl

theorem leases_eq_zero {pool : Pool ρ} {key : ContainerId} (h : pool.slot? key = none) :
    pool.leases key = 0 := by
  rw [leases, h]
  rfl

theorem slot?_eq_none_iff {pool : Pool ρ} {key : ContainerId} :
    pool.slot? key = none ↔ key ∉ pool.keys :=
  (Table.get?_eq_none_iff : (Table.mk pool.slots).get? key = none ↔ _)

theorem mem_keys_iff {pool : Pool ρ} {key : ContainerId} :
    key ∈ pool.keys ↔ pool.slot? key ≠ none := by
  rw [Ne, slot?_eq_none_iff, Decidable.not_not]

theorem slot?_of_mem {pool : Pool ρ} (h : pool.keys.Nodup) {entry : ContainerId × Slot ρ}
    (hm : entry ∈ pool.slots) : pool.slot? entry.1 = some entry.2 := by
  have hd : (Table.mk pool.slots).names.Nodup := h
  exact Table.get?_of_mem hd hm

theorem slot?_of_leases_pos {pool : Pool ρ} {key : ContainerId} (h : 0 < pool.leases key) :
    ∃ slot, pool.slot? key = some slot ∧ slot.leases = pool.leases key := by
  cases hs : pool.slot? key with
  | none =>
    rw [leases_eq_zero hs] at h
    exact absurd h (Nat.lt_irrefl 0)
  | some slot => exact ⟨slot, rfl, by rw [leases, hs]; rfl⟩

/-! ## One slot changed -/

@[simp] theorem keys_modify (pool : Pool ρ) (key : ContainerId) (f : Slot ρ → Slot ρ) :
    (pool.modify key f).keys = pool.keys := by
  unfold keys modify
  rw [List.map_map]
  refine List.map_congr_left fun entry _ => ?_
  show (if entry.1 = key then (entry.1, f entry.2) else entry).1 = entry.1
  split_ifs <;> rfl

@[simp] theorem size_modify (pool : Pool ρ) (key : ContainerId) (f : Slot ρ → Slot ρ) :
    (pool.modify key f).size = pool.size :=
  List.length_map _

@[simp] theorem reserved_modify (pool : Pool ρ) (key : ContainerId) (f : Slot ρ → Slot ρ) :
    (pool.modify key f).reserved = pool.reserved := rfl

@[simp] theorem capacity_modify (pool : Pool ρ) (key : ContainerId) (f : Slot ρ → Slot ρ) :
    (pool.modify key f).capacity = pool.capacity := rfl

theorem slot?_modify (pool : Pool ρ) (key other : ContainerId) (f : Slot ρ → Slot ρ) :
    (pool.modify key f).slot? other =
      if other = key then (pool.slot? other).map f else pool.slot? other := by
  obtain ⟨capacity, reserved, slots⟩ := pool
  show (slots.map fun entry => if entry.1 = key then (entry.1, f entry.2) else entry).lookup other =
    if other = key then (slots.lookup other).map f else slots.lookup other
  induction slots with
  | nil => split_ifs <;> rfl
  | cons entry rest ih =>
    obtain ⟨held, slot⟩ := entry
    rw [List.map_cons]
    by_cases ho : other = held
    · subst ho
      by_cases hk : other = key
      · simp [hk]
      · simp [hk]
    · have hne : (other == held) = false := beq_eq_false_iff_ne.2 ho
      have hfst : (if held = key then (held, f slot) else (held, slot)).1 = held := by
        split_ifs <;> rfl
      rw [List.lookup_cons, hfst, hne, List.lookup_cons, hne]
      exact ih

theorem modify_of_slot?_eq_none {pool : Pool ρ} {key : ContainerId} (h : pool.slot? key = none)
    (f : Slot ρ → Slot ρ) : pool.modify key f = pool := by
  obtain ⟨capacity, reserved, slots⟩ := pool
  show Pool.mk capacity reserved (slots.map fun entry => _) = _
  congr 1
  refine (List.map_congr_left fun entry he => if_neg ?_).trans (List.map_id slots)
  rintro rfl
  exact slot?_eq_none_iff.1 h (List.mem_map_of_mem he)

theorem modify_append (pool : Pool ρ) (key : ContainerId) (reserved : Nat) (slot : Slot ρ)
    (f : Slot ρ → Slot ρ) :
    modify { pool with reserved := reserved, slots := pool.slots ++ [(key, slot)] } key f =
      { pool with
        reserved := reserved
        slots := (pool.modify key f).slots ++ [(key, f slot)] } := by
  unfold modify
  dsimp only
  rw [List.map_append, List.map_singleton, if_pos rfl]

theorem modify_modify_cancel (pool : Pool ρ) (key : ContainerId) {f g : Slot ρ → Slot ρ}
    (h : ∀ slot, g (f slot) = slot) : (pool.modify key f).modify key g = pool := by
  obtain ⟨capacity, reserved, slots⟩ := pool
  show Pool.mk capacity reserved ((slots.map fun entry => _).map fun entry => _) = _
  rw [List.map_map]
  congr 1
  refine (List.map_congr_left fun entry _ => ?_).trans (List.map_id slots)
  obtain ⟨held, slot⟩ := entry
  by_cases hk : held = key
  · simp [hk, h]
  · simp [hk]

/-! ## One more lease -/

/-- Whether the pool refuses a lease on a key: it has no slot, and no room for one. -/
def Refuses (pool : Pool ρ) (key : ContainerId) : Prop :=
  pool.slot? key = none ∧ pool.capacity ≤ pool.reserved

/-- The pool with one more lease on a key, whose slot is made if there is none. -/
def lent (pool : Pool ρ) (key : ContainerId) : Pool ρ :=
  match pool.slot? key with
  | some _ => pool.modify key fun s => { s with leases := s.leases + 1 }
  | none => { pool with reserved := pool.reserved + 1, slots := pool.slots ++ [(key, ⟨none, 1⟩)] }

theorem reserve_of_refuses {pool : Pool ρ} {key : ContainerId} (h : pool.Refuses key) :
    pool.reserve key = .error (.poolExhausted pool.capacity) := by
  unfold reserve
  rw [h.1]
  exact if_neg (Nat.not_lt.2 h.2)

theorem reserve_of_not_refuses {pool : Pool ρ} {key : ContainerId} (h : ¬ pool.Refuses key) :
    pool.reserve key = .ok (pool.reader? key, pool.lent key) := by
  unfold reserve reader? lent
  cases hs : pool.slot? key with
  | some slot => rfl
  | none =>
    have hroom : pool.reserved < pool.capacity := Nat.not_le.1 fun hc => h ⟨hs, hc⟩
    exact if_pos hroom

@[simp] theorem capacity_lent (pool : Pool ρ) (key : ContainerId) :
    (pool.lent key).capacity = pool.capacity := by
  unfold lent
  split <;> rfl

theorem keys_lent_of_some {pool : Pool ρ} {key : ContainerId} {slot : Slot ρ}
    (h : pool.slot? key = some slot) : (pool.lent key).keys = pool.keys := by
  unfold lent
  rw [h]
  exact keys_modify _ _ _

theorem keys_lent_of_none {pool : Pool ρ} {key : ContainerId} (h : pool.slot? key = none) :
    (pool.lent key).keys = pool.keys ++ [key] := by
  unfold lent
  rw [h]
  show (pool.slots ++ [(key, (⟨none, 1⟩ : Slot ρ))]).map (·.1) = pool.slots.map (·.1) ++ [key]
  rw [List.map_append]
  rfl

theorem keys_subset_lent (pool : Pool ρ) (key : ContainerId) :
    pool.keys ⊆ (pool.lent key).keys := by
  cases hs : pool.slot? key with
  | some slot =>
    rw [keys_lent_of_some hs]
    exact List.Subset.refl _
  | none =>
    rw [keys_lent_of_none hs]
    exact List.subset_append_left _ _

theorem slot?_lent (pool : Pool ρ) (key other : ContainerId) :
    (pool.lent key).slot? other =
      if other = key then some ⟨pool.reader? key, pool.leases key + 1⟩ else pool.slot? other := by
  unfold lent
  cases hs : pool.slot? key with
  | some slot =>
    show (pool.modify key fun s => { s with leases := s.leases + 1 }).slot? other = _
    rw [slot?_modify, reader?, leases]
    by_cases ho : other = key
    · rw [if_pos ho, if_pos ho, ho, hs]
      rfl
    · rw [if_neg ho, if_neg ho]
  | none =>
    show (pool.slots ++ [(key, (⟨none, 1⟩ : Slot ρ))]).lookup other = _
    rw [List.lookup_append, reader?, leases, hs]
    by_cases ho : other = key
    · have hnone : pool.slots.lookup other = none := ho ▸ hs
      rw [if_pos ho, hnone, ho]
      simp
    · have hne : (other == key) = false := beq_eq_false_iff_ne.2 ho
      rw [if_neg ho, List.lookup_cons, hne]
      exact Option.or_none

theorem mem_keys_lent (pool : Pool ρ) (key : ContainerId) : key ∈ (pool.lent key).keys := by
  rw [mem_keys_iff, slot?_lent, if_pos rfl]
  exact Option.some_ne_none _

theorem reader?_lent (pool : Pool ρ) (key other : ContainerId) :
    (pool.lent key).reader? other = pool.reader? other := by
  unfold reader?
  rw [slot?_lent]
  split_ifs with h
  · rw [h]
    rfl
  · rfl

theorem leases_lent (pool : Pool ρ) (key other : ContainerId) :
    (pool.lent key).leases other = pool.leases other + if other = key then 1 else 0 := by
  unfold leases
  rw [slot?_lent]
  split_ifs with h
  · rw [h]
    rfl
  · rfl

/-! ## A reader in a slot -/

/-- The pool with a reader in the slot of a key. -/
def filled (pool : Pool ρ) (key : ContainerId) (reader : ρ) : Pool ρ :=
  pool.modify key fun s => { s with reader := some reader }

theorem leases_filled (pool : Pool ρ) (key other : ContainerId) (reader : ρ) :
    (pool.filled key reader).leases other = pool.leases other := by
  unfold leases filled
  rw [slot?_modify]
  split_ifs
  · cases pool.slot? other <;> rfl
  · rfl

theorem reader?_filled_lent (pool : Pool ρ) (key other : ContainerId) (reader : ρ) :
    ((pool.lent key).filled key reader).reader? other =
      if other = key then some reader else pool.reader? other := by
  unfold reader? filled
  rw [slot?_modify, slot?_lent]
  split_ifs <;> rfl

/-! ## A lease given up -/

theorem leases_release (pool : Pool ρ) {key : ContainerId} (h : 0 < pool.leases key)
    (other : ContainerId) :
    (pool.release key).leases other = pool.leases other - if other = key then 1 else 0 := by
  obtain ⟨slot, hs, hl⟩ := slot?_of_leases_pos h
  unfold leases release
  rw [slot?_modify]
  split_ifs with ho
  · rw [ho, hs]
    exact lower_of_le (hl ▸ h)
  · rfl

@[simp] theorem reader?_release (pool : Pool ρ) (key other : ContainerId) :
    (pool.release key).reader? other = pool.reader? other := by
  unfold reader? release
  rw [slot?_modify]
  split_ifs
  · cases pool.slot? other <;> rfl
  · rfl

@[simp] theorem keys_release (pool : Pool ρ) (key : ContainerId) :
    (pool.release key).keys = pool.keys := keys_modify _ _ _

/-! ## Asking for a lease -/

/-- What asking for a lease on the container of a module can give. -/
inductive Acquired (opener : Opener σ ρ) (pool : Pool ρ) (memory : σ) (module : Module) :
    Except ContainerFault (Lease ρ) × Pool ρ × σ → Prop
  /-- There is no slot and no room for one, and the opener is not asked. -/
  | refused (h : pool.Refuses module.key) :
      Acquired opener pool memory module (.error (.poolExhausted pool.capacity), pool, memory)
  /-- The slot has a reader, and the opener is not asked. -/
  | shared {reader : ρ} (h : pool.reader? module.key = some reader) :
      Acquired opener pool memory module
        (.ok ⟨module.key, reader⟩, pool.lent module.key, memory)
  | created {reader : ρ} {after : σ} (hc : pool.reader? module.key = none)
      (hr : ¬ pool.Refuses module.key) (ha : opener module memory = (.ok reader, after)) :
      Acquired opener pool memory module
        (.ok ⟨module.key, reader⟩, (pool.lent module.key).filled module.key reader, after)
  | failed {fault : ContainerFault} {after : σ} (hc : pool.reader? module.key = none)
      (hr : ¬ pool.Refuses module.key) (ha : opener module memory = (.error fault, after)) :
      Acquired opener pool memory module
        (.error fault, (pool.lent module.key).release module.key, after)

theorem not_refuses_of_reader? {pool : Pool ρ} {key : ContainerId} {reader : ρ}
    (h : pool.reader? key = some reader) : ¬ pool.Refuses key := by
  intro hr
  rw [reader?, hr.1] at h
  cases h

theorem acquire_cases (opener : Opener σ ρ) (pool : Pool ρ) (memory : σ) (module : Module) :
    Acquired opener pool memory module (pool.acquire opener memory module) := by
  unfold acquire
  by_cases hr : pool.Refuses module.key
  · rw [reserve_of_refuses hr]
    exact .refused hr
  rw [reserve_of_not_refuses hr]
  cases hc : pool.reader? module.key with
  | some reader => exact .shared hc
  | none =>
    rcases ha : opener module memory with ⟨fault | reader, after⟩
    · exact .failed hc hr ha
    · exact .created hc hr ha

/-- The slot of a lease that was just taken is there. -/
theorem mem_keys_acquire {opener : Opener σ ρ} {pool after : Pool ρ} {memory left : σ}
    {module : Module} {lease : Lease ρ}
    (h : pool.acquire opener memory module = (.ok lease, after, left)) :
    lease.key ∈ after.keys := by
  have hcases := pool.acquire_cases opener memory module
  rw [h] at hcases
  cases hcases with
  | shared => exact pool.mem_keys_lent module.key
  | created =>
    show module.key ∈ (Pool.modify _ _ _).keys
    rw [keys_modify]
    exact pool.mem_keys_lent module.key

/-! ## Closing -/

@[simp] theorem capacity_close (pool : Pool ρ) : pool.close.1.capacity = pool.capacity := rfl

/-- The slots that are closed and those that stay are all slots. -/
theorem size_close_add (pool : Pool ρ) : pool.close.1.size + pool.close.2 = pool.size := by
  have h : pool.close.1.size ≤ pool.size := List.length_filter_le _ _
  have hc : pool.close.2 = pool.size - pool.close.1.size := rfl
  omega

/-- What closing returns is the number of slots without leases. -/
theorem close_snd (pool : Pool ρ) : pool.close.2 = pool.slots.countP (·.2.leases = 0) := by
  have hlen := List.length_eq_countP_add_countP (l := pool.slots)
    (p := fun entry => 0 < entry.2.leases)
  have hkept : pool.close.1.size = pool.slots.countP fun entry => 0 < entry.2.leases :=
    List.countP_eq_length_filter.symm
  have hrest : (pool.slots.countP fun entry => ¬ (decide (0 < entry.2.leases)) = true) =
      pool.slots.countP (·.2.leases = 0) := by
    refine List.countP_congr fun entry _ => ?_
    simp
  have hsize := pool.size_close_add
  unfold size at hsize hkept
  omega

theorem nodup_keys_close {pool : Pool ρ} (h : pool.keys.Nodup) : pool.close.1.keys.Nodup :=
  h.sublist (List.filter_sublist.map _)

/-- Closing keeps the slots with leases as they are and gives up the others. -/
theorem slot?_close {pool : Pool ρ} (h : pool.keys.Nodup) (key : ContainerId) :
    pool.close.1.slot? key = if 0 < pool.leases key then pool.slot? key else none := by
  obtain ⟨capacity, reserved, slots⟩ := pool
  show (slots.filter fun entry => 0 < entry.2.leases).lookup key =
    if 0 < ((slots.lookup key).map (·.leases)).getD 0 then slots.lookup key else none
  induction slots with
  | nil => rfl
  | cons entry rest ih =>
    obtain ⟨held, slot⟩ := entry
    have hd : held ∉ rest.map (·.1) ∧ (rest.map (·.1)).Nodup := List.nodup_cons.1 h
    by_cases hk : key = held
    · subst hk
      rw [List.lookup_cons_self]
      by_cases hl : 0 < slot.leases
      · rw [List.filter_cons_of_pos (by simpa using hl), List.lookup_cons_self]
        exact (if_pos hl).symm
      · rw [List.filter_cons_of_neg (by simpa using hl)]
        refine Eq.trans ?_ (if_neg hl).symm
        refine List.lookup_eq_none_iff.2 fun entry he => ?_
        rw [bne_iff_ne]
        rintro rfl
        exact hd.1 (List.mem_map_of_mem (List.mem_filter.1 he).1)
    · have hne : (key == held) = false := beq_eq_false_iff_ne.2 hk
      rw [List.lookup_cons, hne]
      by_cases hl : 0 < slot.leases
      · rw [List.filter_cons_of_pos (by simpa using hl), List.lookup_cons, hne]
        exact ih hd.2
      · rw [List.filter_cons_of_neg (by simpa using hl)]
        exact ih hd.2

end SearchPath.Pool
