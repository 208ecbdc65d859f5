import SearchPath.Proofs.Pool.Slots

/-!
# The balance of a pool

A pool keeps three quantities that are changed one by one: its slots, the count of leases in every
slot, and the number of slots reserved against the capacity.

1. `Counted` ties them to a number of leases for every key. It holds also in the middle of an
   operation, between a lease taken and given up.
2. `Balanced` ties the pool to the leases that are out: they are what is counted, and each of them
   has the reader of the slot of its key. It holds before and after every operation
   (`Balanced.acquire`, `Balanced.release`, `Balanced.close`).
-/

namespace SearchPath

/-- How many of the leases are on the container of a key. -/
def Lease.countOn {ρ : Type} (out : List (Lease ρ)) (key : ContainerId) : Nat :=
  out.countP (·.key = key)

namespace Pool

variable {σ ρ : Type}

/-! ## Counts -/

/-- The counts of a pool are right for the number of leases on every key. -/
structure Counted (pool : Pool ρ) (held : ContainerId → Nat) : Prop where
  keys_nodup : pool.keys.Nodup
  reserved_eq : pool.reserved = pool.size
  size_le : pool.size ≤ pool.capacity
  leases_eq : ∀ key, pool.leases key = held key

theorem Counted.congr {pool : Pool ρ} {held other : ContainerId → Nat} (h : pool.Counted held)
    (he : ∀ key, held key = other key) : pool.Counted other :=
  ⟨h.keys_nodup, h.reserved_eq, h.size_le, fun key => (h.leases_eq key).trans (he key)⟩

theorem counted_empty (capacity : Nat) : (Pool.empty capacity : Pool ρ).Counted fun _ => 0 :=
  ⟨List.nodup_nil, rfl, Nat.zero_le _, fun _ => rfl⟩

theorem size_eq_length_keys (pool : Pool ρ) : pool.size = pool.keys.length :=
  (List.length_map _).symm

/-- A pool that counts right refuses a key exactly if it has no slot for it and is full. -/
theorem Counted.refuses_iff {pool : Pool ρ} {held : ContainerId → Nat} (h : pool.Counted held)
    (key : ContainerId) :
    pool.Refuses key ↔ pool.slot? key = none ∧ pool.size = pool.capacity := by
  unfold Refuses
  have hle := h.size_le
  rw [h.reserved_eq]
  constructor
  · rintro ⟨hs, hc⟩
    exact ⟨hs, by omega⟩
  · rintro ⟨hs, hc⟩
    exact ⟨hs, by omega⟩

theorem Counted.lent {pool : Pool ρ} {held : ContainerId → Nat} (h : pool.Counted held)
    {key : ContainerId} (hr : ¬ pool.Refuses key) :
    (pool.lent key).Counted fun other => held other + if other = key then 1 else 0 := by
  have hleases : ∀ other,
      (pool.lent key).leases other = held other + if other = key then 1 else 0 :=
    fun other => by rw [leases_lent, h.leases_eq]
  cases hs : pool.slot? key with
  | some slot =>
    have hpool : pool.lent key = pool.modify key fun s => { s with leases := s.leases + 1 } := by
      unfold Pool.lent
      rw [hs]
    refine ⟨?_, ?_, ?_, hleases⟩
    · rw [keys_lent_of_some hs]
      exact h.keys_nodup
    · rw [hpool, reserved_modify, size_modify]
      exact h.reserved_eq
    · rw [hpool, size_modify, capacity_modify]
      exact h.size_le
  | none =>
    have hpool : pool.lent key =
        { pool with reserved := pool.reserved + 1, slots := pool.slots ++ [(key, ⟨none, 1⟩)] } := by
      unfold Pool.lent
      rw [hs]
    have hsize : (pool.lent key).size = pool.size + 1 := by
      rw [hpool]
      exact List.length_append
    have hroom : pool.size ≠ pool.capacity := fun hc => hr ((h.refuses_iff key).2 ⟨hs, hc⟩)
    refine ⟨?_, ?_, ?_, hleases⟩
    · rw [keys_lent_of_none hs, List.nodup_append]
      refine ⟨h.keys_nodup, by simp, ?_⟩
      intro a ha b hb
      rw [List.mem_singleton.1 hb]
      rintro rfl
      exact slot?_eq_none_iff.1 hs ha
    · rw [hsize, hpool, ← h.reserved_eq]
    · have := h.size_le
      rw [hsize, capacity_lent]
      omega

theorem Counted.filled {pool : Pool ρ} {held : ContainerId → Nat} (h : pool.Counted held)
    (key : ContainerId) (reader : ρ) : (pool.filled key reader).Counted held where
  keys_nodup := (keys_modify pool key _).symm ▸ h.keys_nodup
  reserved_eq := h.reserved_eq.trans (size_modify pool key _).symm
  size_le := Nat.le_trans (Nat.le_of_eq (size_modify pool key _)) h.size_le
  leases_eq other := (leases_filled pool key other reader).trans (h.leases_eq other)

/-- A lease that is counted can be given up. -/
theorem Counted.release {pool : Pool ρ} {held : ContainerId → Nat} {key : ContainerId}
    (h : pool.Counted fun other => held other + if other = key then 1 else 0) :
    (pool.release key).Counted held where
  keys_nodup := (keys_release pool key).symm ▸ h.keys_nodup
  reserved_eq := h.reserved_eq.trans (size_modify pool key _).symm
  size_le := Nat.le_trans (Nat.le_of_eq (size_modify pool key _)) h.size_le
  leases_eq other := by
    have hpos : 0 < pool.leases key := by
      rw [h.leases_eq, if_pos rfl]
      exact Nat.succ_pos _
    rw [leases_release pool hpos, h.leases_eq]
    show held other + (if other = key then 1 else 0) - (if other = key then 1 else 0) = held other
    omega

theorem Counted.close {pool : Pool ρ} {held : ContainerId → Nat} (h : pool.Counted held) :
    pool.close.1.Counted held where
  keys_nodup := nodup_keys_close h.keys_nodup
  reserved_eq := by
    have hsize := pool.size_close_add
    show lower pool.reserved pool.close.2 = pool.close.1.size
    rw [h.reserved_eq, lower_of_le (by omega)]
    omega
  size_le := by
    have hsize := pool.size_close_add
    have hle := h.size_le
    rw [capacity_close]
    omega
  leases_eq key := by
    have hs := slot?_close h.keys_nodup key
    by_cases hpos : 0 < pool.leases key
    · rw [if_pos hpos] at hs
      rw [leases, hs]
      exact h.leases_eq key
    · rw [if_neg hpos] at hs
      rw [leases_eq_zero hs, ← h.leases_eq]
      omega

/-! ## Leases that are out -/

/-- The pool and the leases that are out agree. -/
structure Balanced (pool : Pool ρ) (out : List (Lease ρ)) : Prop where
  counted : pool.Counted (Lease.countOn out)
  /-- The slot that a lease was taken on is still there, with the reader of the lease. -/
  reader?_eq : ∀ lease ∈ out, pool.reader? lease.key = some lease.reader

theorem balanced_empty (capacity : Nat) : (Pool.empty capacity : Pool ρ).Balanced [] :=
  ⟨counted_empty capacity, fun _ h => absurd h List.not_mem_nil⟩

theorem Balanced.perm {pool : Pool ρ} {out other : List (Lease ρ)} (h : pool.Balanced out)
    (hp : out.Perm other) : pool.Balanced other :=
  ⟨h.counted.congr fun _ => hp.countP_eq _, fun lease hl => h.reader?_eq lease (hp.mem_iff.2 hl)⟩

theorem countOn_cons (lease : Lease ρ) (out : List (Lease ρ)) (key : ContainerId) :
    Lease.countOn (lease :: out) key =
      Lease.countOn out key + if key = lease.key then 1 else 0 := by
  unfold Lease.countOn
  rw [List.countP_cons]
  by_cases h : key = lease.key
  · simp [h]
  · simp [h, Ne.symm h]

theorem countOn_pos_of_mem {lease : Lease ρ} {out : List (Lease ρ)} (h : lease ∈ out) :
    0 < Lease.countOn out lease.key :=
  List.countP_pos_iff.2 ⟨lease, h, by simp⟩

/-- A lease that is out is counted in the slot of its key. -/
theorem Balanced.leases_pos {pool : Pool ρ} {out : List (Lease ρ)} (h : pool.Balanced out)
    {lease : Lease ρ} (hl : lease ∈ out) : 0 < pool.leases lease.key :=
  (h.counted.leases_eq lease.key).symm ▸ countOn_pos_of_mem hl

theorem Balanced.release {pool : Pool ρ} {lease : Lease ρ} {out : List (Lease ρ)}
    (h : pool.Balanced (lease :: out)) : (pool.release lease.key).Balanced out where
  counted := (h.counted.congr (countOn_cons lease out)).release
  reader?_eq other ho := by
    rw [reader?_release]
    exact h.reader?_eq other (List.mem_cons_of_mem _ ho)

theorem Balanced.close {pool : Pool ρ} {out : List (Lease ρ)} (h : pool.Balanced out) :
    pool.close.1.Balanced out where
  counted := h.counted.close
  reader?_eq lease hl := by
    rw [reader?, slot?_close h.counted.keys_nodup, if_pos (h.leases_pos hl)]
    exact h.reader?_eq lease hl

/-- A lease on a key, with a reader that the slot of the key has got. -/
theorem Balanced.cons {pool after : Pool ρ} {out : List (Lease ρ)} {lease : Lease ρ}
    (h : pool.Balanced out)
    (hc : after.Counted fun key => Lease.countOn out key + if key = lease.key then 1 else 0)
    (hr : ∀ key,
      after.reader? key = if key = lease.key then some lease.reader else pool.reader? key)
    (hs : ∀ other ∈ out, other.key = lease.key → other.reader = lease.reader) :
    after.Balanced (lease :: out) where
  counted := hc.congr fun key => (countOn_cons lease out key).symm
  reader?_eq other ho := by
    rw [hr]
    rcases List.mem_cons.1 ho with rfl | ho
    · exact if_pos rfl
    · split_ifs with hk
      · rw [hs other ho hk]
      · exact h.reader?_eq other ho

/-- **Asking for a lease.** The pool stays balanced, with the new lease out if there is one. -/
theorem Balanced.acquire {pool : Pool ρ} {out : List (Lease ρ)} (h : pool.Balanced out)
    (opener : Opener σ ρ) (memory : σ) (module : Module) :
    (pool.acquire opener memory module).2.1.Balanced
      ((pool.acquire opener memory module).1.toOption.toList ++ out) := by
  have hcases := pool.acquire_cases opener memory module
  generalize pool.acquire opener memory module = result at hcases ⊢
  cases hcases with
  | refused => exact h
  | @shared reader hc =>
    have hcount := h.counted.lent (not_refuses_of_reader? hc)
    refine h.cons hcount (fun key => ?_) fun other ho hk => ?_
    · rw [reader?_lent]
      split_ifs with hk
      · rw [hk]
        exact hc
      · rfl
    · have := h.reader?_eq other ho
      rw [hk, hc] at this
      exact (Option.some.inj this).symm
  | @created reader after hc hr ha =>
    have hcount := (h.counted.lent hr).filled module.key reader
    refine h.cons hcount (fun key => reader?_filled_lent pool _ key reader) fun other ho hk => ?_
    have := h.reader?_eq other ho
    rw [hk, hc] at this
    cases this
  | failed hc hr ha =>
    refine ⟨(h.counted.lent hr).release, fun other ho => ?_⟩
    rw [reader?_release, reader?_lent]
    exact h.reader?_eq other ho

end Pool

end SearchPath
