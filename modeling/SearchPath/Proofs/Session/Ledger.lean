import SearchPath.Proofs.Session.Holders

/-!
# The ledger of a handle

A handle obtains a buffer when it reads, holds it while it is open, and gives it back when it is
closed. What one operation does to a handle is said once (`Orderly`): the buffers held before and
those obtained meanwhile are the buffers given back and those held afterwards, in this order. An
operation that fails obtains nothing, so there is nothing to be given back for it, and neither is
there for a stream.
-/

namespace SearchPath

open Pool

variable {σ ρ : Type}

/-- The buffer given back, with the reader that gets it. -/
def Returned.content (returned : Returned ρ) : ρ × List UInt8 :=
  (returned.reader, returned.buffer)

/-- What has last been done to get at the content of a resource. -/
inductive Opening where
  /-- Nothing: the handle was made. -/
  | made
  | buffered (size : Nat)
  | streaming
  deriving DecidableEq, Repr

/-- The size that a handle knows from an opening. -/
def Opening.size? : Opening → Option Nat
  | .made => none
  | .buffered size => some size
  | .streaming => none

theorem Opening.size?_eq_some_iff {opening : Opening} {size : Nat} :
    opening.size? = some size ↔ opening = .buffered size := by
  cases opening <;> simp [Opening.size?]

namespace Handle

/-! ## What a handle holds -/

/-- The buffer in the handle, with the reader that it came from. -/
def held (handle : Handle ρ) : List (ρ × List UInt8) :=
  match handle.scope with
  | .buffered lease buffer => [(lease.reader, buffer)]
  | _ => []

/-- The lease of an open handle is on the container of its module. -/
def Keyed (handle : Handle ρ) : Prop :=
  ∀ lease, handle.lease? = some lease → lease.key = handle.key

theorem held_of_closed {handle : Handle ρ} (h : handle.isOpen = false) : handle.held = [] := by
  unfold isOpen at h
  unfold held
  cases hs : handle.scope with
  | closed => rfl
  | buffered lease buffer =>
    rw [hs] at h
    cases h
  | streaming lease stream => rfl

theorem keyed_of_closed {handle : Handle ρ} (h : handle.isOpen = false) : handle.Keyed := by
  intro lease hl
  rw [lease?_eq_none_iff.2 h] at hl
  cases hl

/-- An open handle counts as one lease on the container of its module, a closed one as none. -/
theorem Keyed.lease?_on {handle : Handle ρ} (h : handle.Keyed) (key : ContainerId) :
    (handle.lease?.map fun lease => decide (lease.key = key)).getD false =
      (handle.isOpen && decide (handle.key = key)) := by
  cases hl : handle.lease? with
  | none =>
    rw [lease?_eq_none_iff.1 hl]
    rfl
  | some lease =>
    have ho : handle.isOpen = true := by
      rw [← Bool.not_eq_false, ← lease?_eq_none_iff, hl]
      exact Option.some_ne_none lease
    rw [ho, ← h lease hl]
    rfl

/-! ## Closing and draining -/

theorem isOpen_close (handle : Handle ρ) (pool : Pool ρ) :
    (handle.close pool).1.isOpen = false :=
  lease?_eq_none_iff.1 (handle.lease?_close pool)

theorem close_fst (handle : Handle ρ) (pool : Pool ρ) :
    (handle.close pool).1 = { handle with scope := .closed } := by
  unfold close
  cases handle.scope <;> rfl

/-- Closing gives back exactly what the handle holds. -/
theorem content_close (handle : Handle ρ) (pool : Pool ρ) :
    (handle.close pool).2.2.toList.map Returned.content = handle.held := by
  unfold close held
  cases handle.scope <;> rfl

/-- When a buffer is given back, the lease of the handle is still counted. -/
theorem leases_close {handle : Handle ρ} {pool : Pool ρ} {rest : List (Lease ρ)}
    (hk : handle.Keyed) (h : pool.Balanced (handle.lease?.toList ++ rest)) {returned : Returned ρ}
    (hr : (handle.close pool).2.2 = some returned) :
    returned.leases = (handle.close pool).2.1.leases handle.key + 1 := by
  unfold Keyed lease? at hk
  unfold lease? at h
  unfold close at hr ⊢
  cases hs : handle.scope with
  | closed =>
    rw [hs] at hr
    cases hr
  | streaming lease stream =>
    rw [hs] at hr
    cases hr
  | buffered lease buffer =>
    rw [hs] at hr h hk
    cases hr
    have hpos : 0 < pool.leases lease.key := h.leases_pos List.mem_cons_self
    rw [← hk lease rfl]
    show pool.leases lease.key = (pool.release lease.key).leases lease.key + 1
    rw [leases_release pool hpos, if_pos rfl]
    omega

theorem held_drain (handle : Handle ρ) (how : ByteStream.Draining) :
    (handle.drain how).2.held = handle.held := by
  unfold drain held
  cases hs : handle.scope <;> simp [hs]

theorem drain_snd (handle : Handle ρ) (how : ByteStream.Draining) :
    (handle.drain how).2.module = handle.module ∧ (handle.drain how).2.length = handle.length := by
  unfold drain
  cases handle.scope <;> exact ⟨rfl, rfl⟩

theorem Keyed.drain {handle : Handle ρ} (h : handle.Keyed) (how : ByteStream.Draining) :
    (handle.drain how).2.Keyed := by
  intro lease hl
  rw [lease?_drain] at hl
  rw [h lease hl, key, key, (handle.drain_snd how).1]

/-! ## Opening -/

theorem openWith_of_isOpen {α : Type} (opener : Opener σ ρ) {handle : Handle ρ}
    (h : handle.isOpen = true) (pool : Pool ρ) (memory : σ)
    (use : Lease ρ → Except ContainerFault (α × Handle ρ)) :
    handle.openWith opener pool memory use =
      ⟨.error (.usage (.resourceAlreadyOpen handle.path)), handle, pool, memory⟩ :=
  if_pos h

theorem key_of_acquire {opener : Opener σ ρ} {pool after : Pool ρ} {memory left : σ}
    {module : Module} {lease : Lease ρ}
    (h : pool.acquire opener memory module = (.ok lease, after, left)) :
    lease.key = module.key := by
  have hcases := pool.acquire_cases opener memory module
  rw [h] at hcases
  cases hcases <;> rfl

section Reading

variable [Readable ρ]

/-- The buffer that reading obtains for the handle, with its reader: for a closed handle that gets
a lease with a reader that can read the resource. -/
def obtained (opener : Opener σ ρ) (handle : Handle ρ) (pool : Pool ρ) (memory : σ) :
    List (ρ × List UInt8) :=
  if handle.isOpen then []
  else
    match (pool.acquire opener memory handle.module).1 with
    | .error _ => []
    | .ok lease =>
      match Readable.octets lease.reader handle.path with
      | .error _ => []
      | .ok buffer => [(lease.reader, buffer)]

/-- What reading a handle comes to. -/
inductive Read (opener : Opener σ ρ) (handle : Handle ρ) (pool : Pool ρ) (memory : σ) :
    Outcome (List UInt8) σ ρ → Prop
  /-- Nothing is obtained, and the handle is what it was. -/
  | failed {fault : Error} {after : Pool ρ} {left : σ}
      (ho : handle.obtained opener pool memory = []) :
      Read opener handle pool memory ⟨.error fault, handle, after, left⟩
  | read {lease : Lease ρ} {buffer : List UInt8} {after : Pool ρ} {left : σ}
      (hc : handle.isOpen = false) (hk : lease.key = handle.key)
      (ho : handle.obtained opener pool memory = [(lease.reader, buffer)]) :
      Read opener handle pool memory
        ⟨.ok buffer, { handle with scope := .buffered lease buffer, length := some buffer.length },
          after, left⟩

theorem openBuffered_cases (opener : Opener σ ρ) (handle : Handle ρ) (pool : Pool ρ)
    (memory : σ) : Read opener handle pool memory (handle.openBuffered opener pool memory) := by
  unfold openBuffered
  by_cases ho : handle.isOpen = true
  · rw [openWith_of_isOpen opener ho]
    exact .failed (if_pos ho)
  have hobtained : handle.obtained opener pool memory = _ := if_neg ho
  unfold openWith
  rw [if_neg ho]
  rcases ha : pool.acquire opener memory handle.module with ⟨fault | lease, after, left⟩
  · rw [ha] at hobtained
    exact .failed hobtained
  · rw [ha] at hobtained
    dsimp only at hobtained ⊢
    cases hr : Readable.octets lease.reader handle.path with
    | error fault =>
      rw [hr] at hobtained
      exact .failed hobtained
    | ok buffer =>
      rw [hr] at hobtained
      exact .read (Bool.not_eq_true _ ▸ ho) (key_of_acquire ha) hobtained

/-- Reading answers with a buffer exactly if it obtains it. -/
theorem openBuffered_eq_ok_iff (opener : Opener σ ρ) (handle : Handle ρ) (pool : Pool ρ)
    (memory : σ) (buffer : List UInt8) :
    (handle.openBuffered opener pool memory).answer = .ok buffer ↔
      ∃ reader, handle.obtained opener pool memory = [(reader, buffer)] := by
  have hcases := handle.openBuffered_cases opener pool memory
  generalize handle.openBuffered opener pool memory = outcome at hcases ⊢
  cases hcases with
  | failed ho =>
    rw [ho]
    constructor
    · intro h
      cases h
    · rintro ⟨_, h⟩
      cases h
  | @read lease _ _ _ _ _ ho =>
    rw [ho]
    constructor
    · intro h
      cases h
      exact ⟨lease.reader, rfl⟩
    · rintro ⟨_, h⟩
      cases h
      rfl

/-- What opening a stream comes to. -/
inductive Streamed (handle : Handle ρ) : Outcome Unit σ ρ → Prop
  | failed {fault : Error} {after : Pool ρ} {left : σ} :
      Streamed handle ⟨.error fault, handle, after, left⟩
  | opened {lease : Lease ρ} {stream : ByteStream} {after : Pool ρ} {left : σ}
      (hc : handle.isOpen = false) (hk : lease.key = handle.key) :
      Streamed handle
        ⟨.ok (), { handle with scope := .streaming lease stream, length := none }, after, left⟩

theorem openStreaming_cases (opener : Opener σ ρ) (handle : Handle ρ) (pool : Pool ρ)
    (memory : σ) : Streamed handle (handle.openStreaming opener pool memory) := by
  unfold openStreaming
  by_cases ho : handle.isOpen = true
  · rw [openWith_of_isOpen opener ho]
    exact .failed
  unfold openWith
  rw [if_neg ho]
  rcases ha : pool.acquire opener memory handle.module with ⟨fault | lease, after, left⟩
  · exact .failed
  · dsimp only
    cases hr : Readable.stream lease.reader handle.path with
    | error fault => exact .failed
    | ok stream => exact .opened (Bool.not_eq_true _ ▸ ho) (key_of_acquire ha)

theorem module_openBuffered (opener : Opener σ ρ) (handle : Handle ρ) (pool : Pool ρ)
    (memory : σ) : (handle.openBuffered opener pool memory).handle.module = handle.module := by
  have hcases := handle.openBuffered_cases opener pool memory
  generalize handle.openBuffered opener pool memory = outcome at hcases ⊢
  cases hcases <;> rfl

theorem module_openStreaming (opener : Opener σ ρ) (handle : Handle ρ) (pool : Pool ρ)
    (memory : σ) : (handle.openStreaming opener pool memory).handle.module = handle.module := by
  have hcases := handle.openStreaming_cases opener pool memory
  generalize handle.openStreaming opener pool memory = outcome at hcases ⊢
  cases hcases <;> rfl

/-- Loading is reading, and then closing whatever came of it. -/
theorem load_eq (opener : Opener σ ρ) (handle : Handle ρ) (pool : Pool ρ) (memory : σ) :
    (handle.load opener pool memory).1.answer = (handle.openBuffered opener pool memory).answer ∧
      (handle.load opener pool memory).1.handle =
        { (handle.openBuffered opener pool memory).handle with scope := .closed } ∧
      (handle.load opener pool memory).1.pool =
        ((handle.openBuffered opener pool memory).handle.close
          (handle.openBuffered opener pool memory).pool).2.1 ∧
      (handle.load opener pool memory).2 = ((handle.openBuffered opener pool memory).handle.close
        (handle.openBuffered opener pool memory).pool).2.2 := by
  have hcases := handle.openBuffered_cases opener pool memory
  unfold load
  generalize handle.openBuffered opener pool memory = outcome at hcases ⊢
  cases hcases with
  | failed ho => exact ⟨rfl, close_fst _ _, rfl, rfl⟩
  | read hc hk ho => exact ⟨rfl, rfl, rfl, rfl⟩

/-! ## One operation -/

/-- What an operation may do with a handle: before it, obtained and given back meanwhile, how it was
opened, and what is left of it and in the pool. -/
structure Orderly (before : Option (Handle ρ)) (obtained : List (ρ × List UInt8))
    (returned : List (Returned ρ)) (openings : List Opening) (after : Option (Handle ρ))
    (pool : Pool ρ) : Prop where
  /-- What was held before or has been obtained is given back or held. -/
  ledger : before.toList.flatMap held ++ obtained =
    returned.map Returned.content ++ after.toList.flatMap held
  keyed : ∀ handle, after = some handle → handle.Keyed
  /-- A buffer is given back while the lease of its handle is counted. -/
  counted : ∀ give ∈ returned, ∃ handle, before = some handle ∧
    give.leases = pool.leases handle.key + 1
  /-- The size that is known comes from the last opening. -/
  length_eq : ∀ handle, after = some handle →
    (∃ opening, openings = [opening] ∧ handle.length = opening.size?) ∨
      openings = [] ∧ ∃ same, before = some same ∧ handle.length = same.length

omit [Readable ρ] in
/-- The handle is not touched. -/
theorem Orderly.rests {before : Option (Handle ρ)}
    (hk : ∀ handle, before = some handle → handle.Keyed) (pool : Pool ρ) :
    Orderly before [] [] [] before pool where
  ledger := List.append_nil _
  keyed := hk
  counted _ hg := absurd hg List.not_mem_nil
  length_eq handle hh := .inr ⟨rfl, handle, hh, rfl⟩

variable {handle : Handle ρ} {pool : Pool ρ} {rest : List (Lease ρ)}

omit [Readable ρ] in
theorem orderly_close (hk : handle.Keyed) (h : pool.Balanced (handle.lease?.toList ++ rest)) :
    Orderly (some handle) [] (handle.close pool).2.2.toList [] (some (handle.close pool).1)
      (handle.close pool).2.1 where
  ledger := by
    rw [content_close, Option.toList_some, Option.toList_some, List.flatMap_singleton,
      List.flatMap_singleton, held_of_closed (handle.isOpen_close pool)]
  keyed closed hc := by
    cases hc
    exact keyed_of_closed (handle.isOpen_close pool)
  counted give hg := ⟨handle, rfl, leases_close hk h (Option.mem_toList.1 hg)⟩
  length_eq closed hc := by
    cases hc
    exact .inr ⟨rfl, handle, rfl, by rw [close_fst]⟩

omit [Readable ρ] in
theorem orderly_drain (hk : handle.Keyed) (how : ByteStream.Draining) :
    Orderly (some handle) [] [] [] (some (handle.drain how).2) pool where
  ledger := by
    rw [Option.toList_some, Option.toList_some, List.flatMap_singleton, List.flatMap_singleton,
      held_drain]
    exact List.append_nil _
  keyed drained hd := by
    cases hd
    exact hk.drain how
  counted _ hg := absurd hg List.not_mem_nil
  length_eq drained hd := by
    cases hd
    exact .inr ⟨rfl, handle, rfl, (handle.drain_snd how).2⟩

omit [Readable ρ] in
/-- A handle that goes out of use is closed. -/
theorem Orderly.dropped {before : Option (Handle ρ)} {returned : List (Returned ρ)}
    {closed : Handle ρ} (h : Orderly before [] returned [] (some closed) pool)
    (hc : closed.isOpen = false) : Orderly before [] returned [] none pool where
  ledger := by
    have hl := h.ledger
    rw [Option.toList_some, List.flatMap_singleton, held_of_closed hc] at hl
    exact hl
  keyed _ hn := by cases hn
  counted := h.counted
  length_eq _ hn := by cases hn

omit [Readable ρ] in
/-- A new handle takes the place of one that went out of use. -/
theorem Orderly.made {before : Option (Handle ρ)} {returned : List (Returned ρ)}
    (h : Orderly before [] returned [] none pool) (path : String) (module : Module) :
    Orderly before [] returned [.made] (some (fresh path module)) pool where
  ledger := h.ledger
  keyed made hm := by
    cases hm
    exact keyed_of_closed rfl
  counted := h.counted
  length_eq made hm := by
    cases hm
    exact .inl ⟨.made, rfl, rfl⟩

/-- How a handle was opened by reading it with this answer. -/
def openingOf : Except Error (List UInt8) → List Opening
  | .error _ => []
  | .ok buffer => [.buffered buffer.length]

theorem orderly_openBuffered (hk : handle.Keyed) (opener : Opener σ ρ) (memory : σ) :
    Orderly (some handle) (handle.obtained opener pool memory) []
      (openingOf (handle.openBuffered opener pool memory).answer)
      (some (handle.openBuffered opener pool memory).handle)
      (handle.openBuffered opener pool memory).pool := by
  have hcases := handle.openBuffered_cases opener pool memory
  generalize handle.openBuffered opener pool memory = outcome at hcases ⊢
  cases hcases with
  | failed ho =>
    rw [ho]
    refine Orderly.rests (fun same hs => ?_) _
    cases hs
    exact hk
  | read hc hlease ho =>
    rw [ho]
    refine ⟨?_, fun opened hs => ?_, fun _ hg => absurd hg List.not_mem_nil, fun opened hs => ?_⟩
    · rw [Option.toList_some, List.flatMap_singleton, held_of_closed hc]
      rfl
    · cases hs
      intro lease hl
      cases hl
      exact hlease
    · cases hs
      exact .inl ⟨_, rfl, rfl⟩

/-- How a handle was opened by a stream with this answer. -/
def streamingOf : Except Error Unit → List Opening
  | .error _ => []
  | .ok () => [.streaming]

theorem orderly_openStreaming (hk : handle.Keyed) (opener : Opener σ ρ) (memory : σ) :
    Orderly (some handle) [] [] (streamingOf (handle.openStreaming opener pool memory).answer)
      (some (handle.openStreaming opener pool memory).handle)
      (handle.openStreaming opener pool memory).pool := by
  have hcases := handle.openStreaming_cases opener pool memory
  generalize handle.openStreaming opener pool memory = outcome at hcases ⊢
  cases hcases with
  | failed =>
    refine Orderly.rests (fun same hs => ?_) _
    cases hs
    exact hk
  | opened hc hlease =>
    refine ⟨?_, fun opened hs => ?_, fun _ hg => absurd hg List.not_mem_nil, fun opened hs => ?_⟩
    · rw [Option.toList_some, List.flatMap_singleton, held_of_closed hc]
      rfl
    · cases hs
      intro lease hl
      cases hl
      exact hlease
    · cases hs
      exact .inl ⟨_, rfl, rfl⟩

theorem orderly_load (hk : handle.Keyed) (opener : Opener σ ρ) (memory : σ)
    (h : pool.Balanced (handle.lease?.toList ++ rest)) :
    Orderly (some handle) (handle.obtained opener pool memory)
      (handle.load opener pool memory).2.toList
      (openingOf (handle.load opener pool memory).1.answer)
      (some (handle.load opener pool memory).1.handle)
      (handle.load opener pool memory).1.pool := by
  have hread : Orderly (some handle) (handle.obtained opener pool memory) []
      (openingOf (handle.openBuffered opener pool memory).answer)
      (some (handle.openBuffered opener pool memory).handle)
      (handle.openBuffered opener pool memory).pool := orderly_openBuffered hk opener memory
  have hbalanced := openBuffered_balanced opener memory h
  have hsame : (handle.openBuffered opener pool memory).handle.key = handle.key :=
    congrArg Module.key (handle.module_openBuffered opener pool memory)
  obtain ⟨hanswer, hhandle, hpool, hreturned⟩ := handle.load_eq opener pool memory
  have hclosed := orderly_close (hread.keyed _ rfl) hbalanced
  rw [hanswer, hhandle, hpool, hreturned,
    ← close_fst _ (handle.openBuffered opener pool memory).pool]
  refine ⟨?_, hclosed.keyed, fun give hg => ?_, fun closed hs => ?_⟩
  · have hl := hclosed.ledger
    rw [List.append_nil] at hl
    rw [hread.ledger, hl]
    rfl
  · obtain ⟨opened, ho, hg⟩ := hclosed.counted give hg
    cases ho
    exact ⟨handle, rfl, hsame ▸ hg⟩
  · cases hs
    rw [close_fst]
    exact hread.length_eq (handle.openBuffered opener pool memory).handle rfl

end Reading

end Handle

end SearchPath
