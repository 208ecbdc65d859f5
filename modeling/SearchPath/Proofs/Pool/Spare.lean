import SearchPath.Proofs.Pool.Balance

/-!
# Spare slots

A pool can have a slot without a reader and without leases: a lease was asked for, and the container
could not be opened. Two pools that are alike but for such a slot of one key (`Spare`) answer every
question alike, but for the number of slots. Leases are taken and given up on both with the same
result (`Spare.acquire`, `Spare.release`), unless the one refuses a lease since the spare slot takes
the last place (`Spare.refuses_alone_iff`). Closing the pools makes them alike (`Spare.close`).
-/

namespace SearchPath.Pool

variable {σ ρ : Type}

/-- A pool is like another one, and may have a spare slot for a key. -/
structure Spare (key : ContainerId) (pool other : Pool ρ) : Prop where
  capacity_eq : pool.capacity = other.capacity
  slot?_eq : ∀ held, pool.slot? held = other.slot? held ∨
    held = key ∧ pool.slot? held = some ⟨none, 0⟩ ∧ other.slot? held = none

variable {key : ContainerId} {pool other : Pool ρ}

/-! ## Questions -/

theorem Spare.reader?_eq (h : pool.Spare key other) (held : ContainerId) :
    pool.reader? held = other.reader? held := by
  unfold reader?
  rcases h.slot?_eq held with he | ⟨-, hp, ho⟩
  · rw [he]
  · rw [hp, ho]
    rfl

theorem Spare.leases_eq (h : pool.Spare key other) (held : ContainerId) :
    pool.leases held = other.leases held := by
  unfold leases
  rcases h.slot?_eq held with he | ⟨-, hp, ho⟩
  · rw [he]
  · rw [hp, ho]
    rfl

theorem Spare.slot?_eq_of_ne_none (h : pool.Spare key other) {held : ContainerId}
    (hs : other.slot? held ≠ none) : pool.slot? held = other.slot? held := by
  rcases h.slot?_eq held with he | ⟨-, -, ho⟩
  · exact he
  · exact absurd ho hs

/-! ## Changes -/

theorem Spare.lent (h : pool.Spare key other) (held : ContainerId) :
    (pool.lent held).Spare key (other.lent held) where
  capacity_eq := by
    rw [capacity_lent, capacity_lent]
    exact h.capacity_eq
  slot?_eq asked := by
    rw [slot?_lent, slot?_lent, h.reader?_eq, h.leases_eq]
    split_ifs
    · exact .inl rfl
    · exact h.slot?_eq asked

/-- The slot of a key changed in both pools, where the second one has it. -/
theorem Spare.modify (h : pool.Spare key other) {held : ContainerId}
    (hs : other.slot? held ≠ none) (f : Slot ρ → Slot ρ) :
    (pool.modify held f).Spare key (other.modify held f) where
  capacity_eq := h.capacity_eq
  slot?_eq asked := by
    rw [slot?_modify, slot?_modify]
    split_ifs with ha
    · rw [ha, h.slot?_eq_of_ne_none hs]
      exact .inl rfl
    · exact h.slot?_eq asked

theorem Spare.release (h : pool.Spare key other) {held : ContainerId}
    (hs : other.slot? held ≠ none) : (pool.release held).Spare key (other.release held) :=
  h.modify hs _

/-- Closing gives the spare slot up. -/
theorem Spare.close (h : pool.Spare key other) (hp : pool.keys.Nodup) (ho : other.keys.Nodup) :
    pool.close.1.Spare key other.close.1 where
  capacity_eq := h.capacity_eq
  slot?_eq held := by
    refine .inl ?_
    rw [slot?_close hp, slot?_close ho, h.leases_eq]
    split_ifs with hl
    · obtain ⟨slot, hs, -⟩ := slot?_of_leases_pos hl
      exact h.slot?_eq_of_ne_none (hs ▸ Option.some_ne_none slot)
    · rfl

/-- **Asking for a lease.** Two pools that both refuse it, or both do not, answer alike. -/
theorem Spare.acquire (h : pool.Spare key other) (opener : Opener σ ρ) (memory : σ)
    {module : Module} (hr : pool.Refuses module.key ↔ other.Refuses module.key) :
    ∃ answer left after after',
      pool.acquire opener memory module = (answer, after, left) ∧
      other.acquire opener memory module = (answer, after', left) ∧ after.Spare key after' := by
  unfold Pool.acquire
  by_cases hp : pool.Refuses module.key
  · rw [reserve_of_refuses hp, reserve_of_refuses (hr.1 hp), h.capacity_eq]
    exact ⟨_, _, _, _, rfl, rfl, h⟩
  rw [reserve_of_not_refuses hp, reserve_of_not_refuses fun ho => hp (hr.2 ho), h.reader?_eq]
  have hlent := h.lent module.key
  cases other.reader? module.key with
  | some reader => exact ⟨_, _, _, _, rfl, rfl, hlent⟩
  | none =>
    dsimp only
    rcases opener module memory with ⟨fault | reader, left⟩
    · exact ⟨_, _, _, _, rfl, rfl, hlent.release (mem_keys_iff.1 (mem_keys_lent other _))⟩
    · exact ⟨_, _, _, _, rfl, rfl, hlent.modify (mem_keys_iff.1 (mem_keys_lent other _)) _⟩

/-! ## Sizes -/

theorem Spare.size_eq (h : pool.Spare key other) (hp : pool.keys.Nodup) (ho : other.keys.Nodup)
    (he : pool.slot? key = other.slot? key) : pool.size = other.size := by
  have hsame : ∀ held, pool.slot? held = other.slot? held := by
    intro held
    rcases h.slot?_eq held with hs | ⟨rfl, -, -⟩
    · exact hs
    · exact he
  have hperm : pool.keys.Perm other.keys := by
    refine (List.perm_ext_iff_of_nodup hp ho).2 fun held => ?_
    rw [mem_keys_iff, mem_keys_iff, hsame]
  rw [size_eq_length_keys, size_eq_length_keys]
  exact hperm.length_eq

/-- A spare slot counts. -/
theorem Spare.size_eq_add_one (h : pool.Spare key other) (hp : pool.keys.Nodup)
    (ho : other.keys.Nodup) (hn : pool.slot? key ≠ other.slot? key) :
    pool.size = other.size + 1 := by
  have hkey : pool.slot? key = some ⟨none, 0⟩ ∧ other.slot? key = none := by
    rcases h.slot?_eq key with hs | ⟨-, hs⟩
    · exact absurd hs hn
    · exact hs
  have hperm : pool.keys.Perm (key :: other.keys) := by
    refine (List.perm_ext_iff_of_nodup hp (List.nodup_cons.2 ⟨slot?_eq_none_iff.1 hkey.2, ho⟩)).2
      fun held => ?_
    rw [List.mem_cons, mem_keys_iff, mem_keys_iff]
    rcases h.slot?_eq held with hs | ⟨rfl, hs, -⟩
    · rw [hs]
      refine ⟨.inr, ?_⟩
      rintro (rfl | hm)
      · exact absurd hs hn
      · exact hm
    · rw [hs]
      exact ⟨fun _ => .inl rfl, fun _ => Option.some_ne_none _⟩
  rw [size_eq_length_keys, size_eq_length_keys]
  exact hperm.length_eq

theorem Spare.refuses {held held' : ContainerId → Nat} (h : pool.Spare key other)
    (hp : pool.Counted held) (ho : other.Counted held') {asked : ContainerId}
    (hr : other.Refuses asked) : pool.Refuses asked := by
  obtain ⟨hnone, hfull⟩ := (ho.refuses_iff asked).1 hr
  have hcap := h.capacity_eq
  have hle := hp.size_le
  refine (hp.refuses_iff asked).2 ?_
  by_cases hsame : pool.slot? key = other.slot? key
  · have hsize := h.size_eq hp.keys_nodup ho.keys_nodup hsame
    refine ⟨?_, by omega⟩
    rcases h.slot?_eq asked with hs | ⟨rfl, -, -⟩
    · exact hs.trans hnone
    · exact hsame.trans hnone
  · have hsize := h.size_eq_add_one hp.keys_nodup ho.keys_nodup hsame
    omega

/-- **Room.** A pool refuses a lease that the other one does not refuse exactly if it is full with a
spare slot, and the key has no slot. -/
theorem Spare.refuses_alone_iff {held held' : ContainerId → Nat} (h : pool.Spare key other)
    (hp : pool.Counted held) (ho : other.Counted held') (asked : ContainerId) :
    pool.Refuses asked ∧ ¬ other.Refuses asked ↔
      pool.slot? key ≠ other.slot? key ∧ pool.slot? asked = none ∧ pool.size = pool.capacity := by
  have hcap := h.capacity_eq
  rw [hp.refuses_iff, ho.refuses_iff]
  by_cases hsame : pool.slot? key = other.slot? key
  · have hsize := h.size_eq hp.keys_nodup ho.keys_nodup hsame
    have hslot : pool.slot? asked = other.slot? asked := by
      rcases h.slot?_eq asked with hs | ⟨rfl, -, -⟩
      · exact hs
      · exact hsame
    rw [hslot, hsize, hcap]
    exact ⟨fun hr => absurd hr.1 hr.2, fun hr => absurd hsame hr.1⟩
  · have hsize := h.size_eq_add_one hp.keys_nodup ho.keys_nodup hsame
    constructor
    · rintro ⟨hr, -⟩
      exact ⟨hsame, hr⟩
    · rintro ⟨-, hr⟩
      exact ⟨hr, fun ⟨_, hfull⟩ => by omega⟩

/-! ## Leases given up at once -/

/-- A lease taken and given up leaves a slot that was there as it was. -/
theorem release_lent_of_ne_none (hs : pool.slot? key ≠ none) :
    (pool.lent key).release key = pool := by
  obtain ⟨slot, hs⟩ := Option.ne_none_iff_exists'.1 hs
  unfold Pool.lent
  rw [hs]
  refine modify_modify_cancel pool key fun slot => ?_
  show { slot with leases := lower (slot.leases + 1) 1 } = slot
  rw [lower_of_le (Nat.succ_pos _)]
  rfl

/-- Where there was no slot, it leaves one. -/
theorem release_lent_of_none (hs : pool.slot? key = none) :
    (pool.lent key).release key =
      { pool with reserved := pool.reserved + 1, slots := pool.slots ++ [(key, ⟨none, 0⟩)] } := by
  unfold Pool.lent Pool.release
  rw [hs]
  dsimp only
  rw [modify_append, modify_of_slot?_eq_none hs, lower_of_le (Nat.le_refl 1)]

theorem spare_release_lent (pool : Pool ρ) (key : ContainerId) :
    ((pool.lent key).release key).Spare key pool where
  capacity_eq := capacity_lent pool key
  slot?_eq held := by
    cases hs : pool.slot? key with
    | some slot =>
      rw [release_lent_of_ne_none (hs ▸ Option.some_ne_none slot)]
      exact .inl rfl
    | none =>
      unfold Pool.release
      rw [slot?_modify, slot?_lent]
      split_ifs with hk
      · refine .inr ⟨hk, ?_, hk ▸ hs⟩
        rw [reader?, leases, hs]
        rfl
      · exact .inl rfl

end SearchPath.Pool
