import SearchPath.Proofs.Session.Moves

/-!
# The accounts of a session

Main result (`accounts_after`): after any run, with any opener, the three quantities of the pool
agree with the leases that are outstanding, a lease is refused before the opener is asked exactly
when its container has no slot and the pool is full, and closing the pool gives up exactly the slots
that nobody holds.

A count that is lowered below zero goes on from the top (`Pool.lower`), so it would be wrong from
then on. `Lowers` says of one count at one moment that this does not happen; `Accounts` has it for
every moment of a step at which a lease is given up.
-/

namespace SearchPath

open Pool

variable {σ ρ : Type}

namespace Pool

/-- Giving up a lease on a key lowers the count of its slot by one. -/
def Lowers (pool : Pool ρ) (key : ContainerId) : Prop :=
  (pool.release key).leases key + 1 = pool.leases key

theorem lowers_of_leases_pos {pool : Pool ρ} {key : ContainerId} (h : 0 < pool.leases key) :
    pool.Lowers key := by
  unfold Lowers
  rw [leases_release pool h, if_pos rfl]
  omega

theorem Balanced.lowers {pool : Pool ρ} {out : List (Lease ρ)} (h : pool.Balanced out)
    {lease : Lease ρ} (hl : lease ∈ out) : pool.Lowers lease.key :=
  lowers_of_leases_pos (h.leases_pos hl)

/-- The slot of a lease that is out is in the pool and counts it. -/
theorem Balanced.slot?_of_mem {pool : Pool ρ} {out : List (Lease ρ)} (h : pool.Balanced out)
    {lease : Lease ρ} (hl : lease ∈ out) :
    ∃ slot, pool.slot? lease.key = some slot ∧ slot.reader = some lease.reader ∧
      slot.leases = Lease.countOn out lease.key := by
  obtain ⟨slot, hs, hc⟩ := slot?_of_leases_pos (h.leases_pos hl)
  have hr := h.reader?_eq lease hl
  rw [reader?, hs] at hr
  exact ⟨slot, hs, hr, hc.trans (h.counted.leases_eq lease.key)⟩

/-- The count of a key for which a lease is reserved can be lowered again. -/
theorem lowers_of_reserve {pool after : Pool ρ} {key : ContainerId} {reader : Option ρ}
    (h : pool.reserve key = .ok (reader, after)) : after.Lowers key := by
  by_cases hr : pool.Refuses key
  · rw [reserve_of_refuses hr] at h
    cases h
  · rw [reserve_of_not_refuses hr] at h
    cases h
    refine lowers_of_leases_pos ?_
    rw [leases_lent, if_pos rfl]
    exact Nat.succ_pos _

/-- A lease is refused without asking the opener exactly if the pool refuses its key. -/
theorem acquire_recording_refused_iff (opener : Opener σ ρ) (pool : Pool ρ) (memory : σ)
    (module : Module) :
    ((pool.acquire (Session.recording opener) (memory, []) module).1 =
        .error (.poolExhausted pool.capacity) ∧
      (pool.acquire (Session.recording opener) (memory, []) module).2.2.2 = []) ↔
    pool.Refuses module.key := by
  have hasked : ∀ {answer : Except ContainerFault ρ} {left : Session.Recorded σ},
      Session.recording opener module (memory, []) = (answer, left) → left.2 = [module] := by
    intro answer left ha
    cases ha
    rfl
  have hcases := pool.acquire_cases (Session.recording opener) (memory, []) module
  generalize pool.acquire (Session.recording opener) (memory, []) module = result at hcases ⊢
  cases hcases with
  | refused hr => exact ⟨fun _ => hr, fun _ => ⟨rfl, rfl⟩⟩
  | shared hc =>
    refine ⟨fun h => ?_, fun hr => absurd hr (not_refuses_of_reader? hc)⟩
    cases h.1
  | created hc hr ha =>
    refine ⟨fun h => ?_, fun h => absurd h hr⟩
    cases h.1
  | failed hc hr ha =>
    refine ⟨fun h => ?_, fun h => absurd h hr⟩
    have hnil := h.2
    rw [hasked ha] at hnil
    cases hnil

theorem Balanced.slot?_close {pool : Pool ρ} {out : List (Lease ρ)} (h : pool.Balanced out)
    (key : ContainerId) :
    pool.close.1.slot? key = if Lease.countOn out key = 0 then none else pool.slot? key := by
  rw [Pool.slot?_close h.counted.keys_nodup, h.counted.leases_eq]
  split_ifs <;> first | rfl | omega

theorem Balanced.close_snd {pool : Pool ρ} {out : List (Lease ρ)} (h : pool.Balanced out) :
    pool.close.2 = pool.slots.countP fun entry => Lease.countOn out entry.1 = 0 := by
  rw [Pool.close_snd]
  refine List.countP_congr fun entry he => ?_
  have hs := Pool.slot?_of_mem h.counted.keys_nodup he
  have hl : entry.2.leases = Lease.countOn out entry.1 := by
    rw [← h.counted.leases_eq, leases, hs]
    rfl
  rw [hl]

/-- Once nobody holds a lease, closing empties the pool. -/
theorem Balanced.size_close_nil {pool : Pool ρ} (h : pool.Balanced []) :
    pool.close.1.size = 0 ∧ pool.close.1.reserved = 0 := by
  have hnone : ∀ key, pool.close.1.slot? key = none := fun key => by
    rw [h.slot?_close]
    exact if_pos rfl
  have hkeys : pool.close.1.keys = [] :=
    List.eq_nil_iff_forall_not_mem.2 fun key => slot?_eq_none_iff.1 (hnone key)
  have hsize : pool.close.1.size = 0 := by
    rw [size_eq_length_keys, hkeys]
    rfl
  exact ⟨hsize, h.counted.close.reserved_eq.trans hsize⟩

end Pool

namespace Session

/-! ## The capacity -/

theorem capacity_move {opener : Opener σ ρ} {before after : Pool ρ × σ}
    (h : Move opener before after) : after.1.capacity = before.1.capacity := by
  cases h with
  | acquire pool memory module =>
    have hcases := pool.acquire_cases opener memory module
    generalize pool.acquire opener memory module = result at hcases ⊢
    cases hcases with
    | refused => rfl
    | shared => exact capacity_lent pool _
    | created => exact capacity_lent pool _
    | failed => exact capacity_lent pool _
  | release pool memory key => rfl

theorem capacity_moves {opener : Opener σ ρ} {before after : Pool ρ × σ}
    (h : Moves opener before after) : after.1.capacity = before.1.capacity := by
  induction h with
  | refl => rfl
  | tail _ hm ih => exact (capacity_move hm).trans ih

theorem capacity_perform [Readable ρ] (opener : Opener σ ρ) (tree : FileTree)
    (session : Session σ ρ) (step : Step) :
    (session.perform opener tree step).session.pool.capacity = session.pool.capacity := by
  by_cases hs : step = .closePool
  · subst hs
    rfl
  · exact capacity_moves (session.perform_moved opener tree hs)

theorem capacity_after [Readable ρ] (opener : Opener σ ρ) (tree : FileTree)
    (session : Session σ ρ) (steps : List Step) :
    (session.after opener tree steps).pool.capacity = session.pool.capacity := by
  induction steps generalizing session with
  | nil => rfl
  | cons step rest ih => rw [after_cons, ih, capacity_perform]

/-! ## Accounts -/

/-- What a session owes to its pool, which was made with a capacity. -/
structure Accounts (opener : Opener σ ρ) (capacity : Nat) (session : Session σ ρ) : Prop where
  /-- Every slot counts against the capacity, and nothing else does. -/
  reserved_eq : session.pool.reserved = session.pool.size
  capacity_eq : session.pool.capacity = capacity
  size_le : session.pool.size ≤ capacity
  /-- No key has two slots. -/
  keys_nodup : session.pool.keys.Nodup
  /-- The leases of every key are counted. -/
  leases_eq : ∀ key, session.pool.leases key = Lease.countOn session.outstanding key
  /-- Nobody holds a lease on a key without a slot. -/
  leases_of_none : ∀ key, session.pool.slot? key = none →
    session.pool.leases key = 0 ∧ Lease.countOn session.outstanding key = 0
  /-- The slot of every lease is still in the pool, with the reader of the lease. -/
  slot_of_mem : ∀ lease ∈ session.outstanding, ∃ slot,
    session.pool.slot? lease.key = some slot ∧ slot.reader = some lease.reader ∧
      slot.leases = Lease.countOn session.outstanding lease.key
  /-- No count falls below zero when a holder gives a lease up, -/
  lowers : ∀ lease ∈ session.outstanding, session.pool.Lowers lease.key
  /-- nor when the opener fails for a lease that was reserved, -/
  lowers_reserved : ∀ key reader after,
    session.pool.reserve key = .ok (reader, after) → after.Lowers key
  /-- nor when a lease is given up in the step that took it, or in its place another one, -/
  lowers_acquired : ∀ memory module lease after left,
    session.pool.acquire (recording opener) memory module = (.ok lease, after, left) →
      ∀ other ∈ lease :: session.outstanding, after.Lowers other.key
  /-- nor when the pool is closed. -/
  lowers_closed : session.pool.close.1.reserved + session.pool.close.2 = session.pool.reserved
  /-- A lease is refused without asking the opener if its key has no slot in a full pool. -/
  refused_iff : ∀ memory module,
    ((session.pool.acquire (recording opener) (memory, []) module).1 =
        .error (.poolExhausted capacity) ∧
      (session.pool.acquire (recording opener) (memory, []) module).2.2.2 = []) ↔
    session.pool.slot? module.key = none ∧ session.pool.size = capacity
  /-- Closing gives up exactly the slots without leases, -/
  slot?_close : ∀ key, session.pool.close.1.slot? key =
    if Lease.countOn session.outstanding key = 0 then none else session.pool.slot? key
  /-- and returns their number. -/
  close_snd : session.pool.close.2 =
    session.pool.slots.countP fun entry => Lease.countOn session.outstanding entry.1 = 0
  /-- Once nobody holds a lease, it empties the pool. -/
  close_empty : session.outstanding = [] →
    session.pool.close.1.size = 0 ∧ session.pool.close.1.reserved = 0

theorem Sound.accounts {session : Session σ ρ} (h : session.Sound) (opener : Opener σ ρ) :
    session.Accounts opener session.pool.capacity where
  reserved_eq := h.balanced.counted.reserved_eq
  capacity_eq := rfl
  size_le := h.balanced.counted.size_le
  keys_nodup := h.balanced.counted.keys_nodup
  leases_eq := h.balanced.counted.leases_eq
  leases_of_none key hs := by
    have hzero := leases_eq_zero hs
    exact ⟨hzero, (h.balanced.counted.leases_eq key).symm.trans hzero⟩
  slot_of_mem _ hl := h.balanced.slot?_of_mem hl
  lowers _ hl := h.balanced.lowers hl
  lowers_reserved _ _ _ hr := lowers_of_reserve hr
  lowers_acquired memory module lease after left ha other ho := by
    have hacq := h.balanced.acquire (recording opener) memory module
    rw [ha] at hacq
    exact hacq.lowers ho
  lowers_closed := by
    have hsize := session.pool.size_close_add
    have hbefore := h.balanced.counted.reserved_eq
    have hafter := h.balanced.close.counted.reserved_eq
    omega
  refused_iff memory module :=
    (acquire_recording_refused_iff opener session.pool memory module).trans
      (h.balanced.counted.refuses_iff module.key)
  slot?_close := h.balanced.slot?_close
  close_snd := h.balanced.close_snd
  close_empty hn := Balanced.size_close_nil (hn ▸ h.balanced)

/-- **Accounts.** For every opener and every capacity the accounts are in order after every run. -/
theorem accounts_after [Readable ρ] (opener : Opener σ ρ) (tree : FileTree) (capacity : Nat)
    (memory : σ) (steps : List Step) :
    ((empty capacity memory : Session σ ρ).after opener tree steps).Accounts opener capacity := by
  have hsound := sound_after opener tree capacity memory steps
  have hcapacity := (empty capacity memory : Session σ ρ).capacity_after opener tree steps
  have haccounts := hsound.accounts opener
  rw [hcapacity] at haccounts
  exact haccounts

end Session

end SearchPath
