import Mathlib.Logic.Relation
import SearchPath.Proofs.Session.Run

/-!
# The moves of a session

Whatever a holder does, the pool and the memory of the opener change by two moves only: a lease is
asked for, or given up (`perform_moved`). Closing the pool is the one step that is none of these.
What both moves keep is kept by every other step; so no slot goes (`keys_subset_moves`).
-/

namespace SearchPath

open Pool Relation

variable {σ ρ : Type}

/-! ## Moves -/

/-- What a holder can do to the pool and to the memory of the opener. -/
inductive Pool.Move (opener : Opener σ ρ) : Pool ρ × σ → Pool ρ × σ → Prop
  | acquire (pool : Pool ρ) (memory : σ) (module : Module) :
      Move opener (pool, memory) (pool.acquire opener memory module).2
  | release (pool : Pool ρ) (memory : σ) (key : ContainerId) :
      Move opener (pool, memory) (pool.release key, memory)

/-- Any number of moves, one after the other. -/
abbrev Pool.Moves (opener : Opener σ ρ) : Pool ρ × σ → Pool ρ × σ → Prop :=
  ReflTransGen (Move opener)

theorem Pool.moves_acquire {opener : Opener σ ρ} {pool after : Pool ρ} {memory left : σ}
    {module : Module} {answer : Except ContainerFault (Lease ρ)}
    (h : pool.acquire opener memory module = (answer, after, left)) :
    Moves opener (pool, memory) (after, left) := by
  have hm : Move opener (pool, memory) (pool.acquire opener memory module).2 :=
    .acquire pool memory module
  rw [h] at hm
  exact .single hm

theorem Pool.moves_release (opener : Opener σ ρ) (pool : Pool ρ) (memory : σ)
    (key : ContainerId) : Moves opener (pool, memory) (pool.release key, memory) :=
  .single (.release pool memory key)

/-- No move takes a slot out of the pool. -/
theorem Pool.keys_subset_move {opener : Opener σ ρ} {before after : Pool ρ × σ}
    (h : Move opener before after) : before.1.keys ⊆ after.1.keys := by
  cases h with
  | acquire pool memory module =>
    have hcases := pool.acquire_cases opener memory module
    generalize pool.acquire opener memory module = result at hcases ⊢
    cases hcases with
    | refused => exact List.Subset.refl _
    | shared => exact pool.keys_subset_lent _
    | created =>
      show pool.keys ⊆ (Pool.modify _ _ _).keys
      rw [keys_modify]
      exact pool.keys_subset_lent _
    | failed =>
      show pool.keys ⊆ (Pool.release _ _).keys
      rw [keys_release]
      exact pool.keys_subset_lent _
  | release pool memory key =>
    show pool.keys ⊆ (pool.release key).keys
    rw [keys_release]
    exact List.Subset.refl _

theorem Pool.keys_subset_moves {opener : Opener σ ρ} {before after : Pool ρ × σ}
    (h : Moves opener before after) : before.1.keys ⊆ after.1.keys := by
  induction h with
  | refl => exact List.Subset.refl _
  | tail _ hm ih => exact List.Subset.trans ih (keys_subset_move hm)

/-! ## Handles and scanners -/

namespace Handle

theorem close_moves (opener : Opener σ ρ) (handle : Handle ρ) (pool : Pool ρ) (memory : σ) :
    Moves opener (pool, memory) ((handle.close pool).2.1, memory) := by
  unfold close
  cases handle.scope with
  | closed => exact .refl
  | buffered lease buffer => exact moves_release opener pool memory lease.key
  | streaming lease stream => exact moves_release opener pool memory lease.key

theorem openWith_moves {α : Type} (opener : Opener σ ρ) (handle : Handle ρ) (pool : Pool ρ)
    (memory : σ) (use : Lease ρ → Except ContainerFault (α × Handle ρ)) :
    Moves opener (pool, memory) ((handle.openWith opener pool memory use).pool,
      (handle.openWith opener pool memory use).memory) := by
  unfold openWith
  by_cases ho : handle.isOpen = true
  · rw [if_pos ho]
  rw [if_neg ho]
  rcases ha : pool.acquire opener memory handle.module with ⟨fault | lease, after, left⟩
  · exact moves_acquire ha
  · dsimp only
    cases use lease with
    | error fault => exact (moves_acquire ha).trans (moves_release opener after left lease.key)
    | ok result => exact moves_acquire ha

variable [Readable ρ]

theorem load_moves (opener : Opener σ ρ) (handle : Handle ρ) (pool : Pool ρ) (memory : σ) :
    Moves opener (pool, memory) ((handle.load opener pool memory).1.pool,
      (handle.load opener pool memory).1.memory) := by
  have hopened : Moves opener (pool, memory) ((handle.openBuffered opener pool memory).pool,
      (handle.openBuffered opener pool memory).memory) := openWith_moves opener handle pool memory _
  have hclosed := hopened.trans (close_moves opener (handle.openBuffered opener pool memory).handle
    (handle.openBuffered opener pool memory).pool (handle.openBuffered opener pool memory).memory)
  unfold load
  dsimp only
  cases (handle.openBuffered opener pool memory).answer with
  | error fault => exact hclosed
  | ok bytes => exact hclosed

end Handle

theorem Scanner.scan_moves [Readable ρ] (opener : Opener σ ρ) (tree : FileTree) (scanner : Scanner)
    (pool : Pool ρ) (memory : σ) :
    Moves opener (pool, memory) ((scanner.scan opener tree pool memory).pool,
      (scanner.scan opener tree pool memory).memory) := by
  unfold scan start
  by_cases hs : scanner.started = true
  · rw [if_pos hs]
  rw [if_neg hs]
  dsimp only
  unfold inspect
  rcases ha : pool.acquire opener memory scanner.module with ⟨fault | lease, after, left⟩
  · exact moves_acquire ha
  · exact (moves_acquire ha).trans (moves_release opener after left lease.key)

namespace Session

/-! ## Steps -/

/-- Recording the questions to an opener does not change its answers. -/
theorem acquire_recording (opener : Opener σ ρ) (pool : Pool ρ) (memory : σ)
    (asked : List Module) (module : Module) :
    ((pool.acquire (recording opener) (memory, asked) module).2.1,
        (pool.acquire (recording opener) (memory, asked) module).2.2.1) =
      (pool.acquire opener memory module).2 := by
  unfold Pool.acquire recording
  rcases pool.reserve module.key with fault | ⟨reader | reader, after⟩
  · rfl
  · dsimp only
    rcases opener module memory with ⟨fault | reader, left⟩ <;> rfl
  · rfl

/-- What is done with a recorded opener is done with the opener itself. -/
theorem moves_of_recording {opener : Opener σ ρ} {before after : Pool ρ × Recorded σ}
    (h : Moves (recording opener) before after) :
    Moves opener (before.1, before.2.1) (after.1, after.2.1) := by
  induction h with
  | refl => exact .refl
  | tail _ hm ih =>
    refine ih.trans ?_
    cases hm with
    | acquire pool memory module =>
      have hacq := acquire_recording opener pool memory.1 memory.2 module
      have hmove : Move opener (pool, memory.1) (pool.acquire opener memory.1 module).2 :=
        .acquire pool memory.1 module
      rw [← hacq] at hmove
      exact .single hmove
    | release pool memory key => exact moves_release opener pool memory.1 key

/-- How the pool and the memory of the opener change between two sessions. -/
def Moved (opener : Opener σ ρ) (session next : Session σ ρ) : Prop :=
  Moves opener (session.pool, session.memory) (next.pool, next.memory)

theorem dropLease_moved (opener : Opener σ ρ) (session : Session σ ρ) (name : String) :
    session.Moved opener (session.dropLease name) := by
  unfold Session.dropLease
  cases session.leases.get? name with
  | none => exact .refl
  | some lease => exact moves_release opener _ _ lease.key

theorem dropHandle_moved (opener : Opener σ ρ) (session : Session σ ρ) (name : String) :
    session.Moved opener (session.dropHandle name).2 := by
  unfold Session.dropHandle
  cases session.handles.get? name with
  | none => exact .refl
  | some handle => exact handle.close_moves opener _ _

theorem keep_moved (opener : Opener σ ρ) (session : Session σ ρ) (name : String)
    (handle : Handle ρ) : session.Moved opener (session.keep name handle).session :=
  session.dropHandle_moved opener name

theorem onHandle_moved {α : Type} (opener : Opener σ ρ) (session : Session σ ρ) (name : String)
    {call : Handle ρ → Pool ρ → Recorded σ →
      Handle.Outcome α (Recorded σ) ρ × Option (Returned ρ)}
    (reply : Except Error α → Reply ρ)
    (hcall : ∀ handle pool memory, Moves (recording opener) (pool, memory)
      ((call handle pool memory).1.pool, (call handle pool memory).1.memory)) :
    session.Moved opener (session.onHandle name call reply).session := by
  unfold Session.onHandle
  cases session.handles.get? name with
  | none => exact .refl
  | some handle => exact moves_of_recording (hcall handle session.pool (session.memory, []))

theorem acquire_moved (opener : Opener σ ρ) (session : Session σ ρ) (name : String)
    (module : Module) : session.Moved opener (session.acquire opener name module).session := by
  unfold Session.acquire
  rcases ha : session.pool.acquire (recording opener) (session.memory, []) module with
    ⟨fault | lease, pool, memory, asked⟩
  · exact moves_of_recording (moves_acquire ha)
  · exact (moves_of_recording (moves_acquire ha)).trans
      (dropLease_moved opener { session with pool := pool, memory := memory } name)

/-! ## Asking for leases -/

theorem memory_dropLease (session : Session σ ρ) (name : String) :
    (session.dropLease name).memory = session.memory := by
  unfold dropLease
  cases session.leases.get? name <;> rfl

theorem keys_dropLease (session : Session σ ρ) (name : String) :
    (session.dropLease name).pool.keys = session.pool.keys := by
  unfold dropLease
  cases session.leases.get? name with
  | none => rfl
  | some lease => exact keys_release session.pool lease.key

/-- A lease that the pool refuses leaves everything as it was. -/
theorem acquire_of_refuses (opener : Opener σ ρ) (session : Session σ ρ) (name : String)
    {module : Module} (hr : session.pool.Refuses module.key) :
    session.acquire opener name module =
      ⟨.leased (.error (.poolExhausted session.pool.capacity)), [], session⟩ := by
  unfold Session.acquire Pool.acquire
  rw [reserve_of_refuses hr]
  rfl

/-- Where the slot has no reader and there is room, a lease asks the opener, and leaves a slot. -/
theorem acquire_of_closed (opener : Opener σ ρ) (session : Session σ ρ) (name : String)
    {module : Module} (hc : session.pool.reader? module.key = none)
    (hr : ¬ session.pool.Refuses module.key) :
    (session.acquire opener name module).events = [.asked module session.scannerStates] ∧
      (session.acquire opener name module).session.memory = (opener module session.memory).2 ∧
      module.key ∈ (session.acquire opener name module).session.pool.keys := by
  have hcases := session.pool.acquire_cases (recording opener) (session.memory, []) module
  have hkey := session.pool.mem_keys_lent module.key
  unfold Session.acquire
  generalize session.pool.acquire (recording opener) (session.memory, []) module = result
    at hcases ⊢
  cases hcases with
  | refused h => exact absurd h hr
  | shared h =>
    rw [hc] at h
    cases h
  | @created reader left _ _ ha =>
    obtain ⟨memory, asked⟩ := left
    have hasked : [module] = asked := congrArg (·.2.2) ha
    have hleft := congrArg (·.2.1) ha
    refine ⟨by rw [← hasked]; rfl, (memory_dropLease _ name).trans hleft.symm, ?_⟩
    show _ ∈ (dropLease _ name).pool.keys
    rw [keys_dropLease]
    show _ ∈ (Pool.modify _ _ _).keys
    rw [keys_modify]
    exact hkey
  | @failed fault left _ _ ha =>
    obtain ⟨memory, asked⟩ := left
    have hasked : [module] = asked := congrArg (·.2.2) ha
    have hleft := congrArg (·.2.1) ha
    refine ⟨by rw [← hasked]; rfl, hleft.symm, ?_⟩
    show _ ∈ (Pool.release _ _).keys
    rw [keys_release]
    exact hkey

section Steps

variable [Readable ρ]

theorem scan_moved (opener : Opener σ ρ) (tree : FileTree) (session : Session σ ρ) (name : String)
    (harvest : Option String) :
    session.Moved opener (session.scan opener tree name harvest).session := by
  unfold Session.scan
  cases session.scanners.get? name with
  | none => exact .refl
  | some scanner =>
    exact moves_of_recording
      (scanner.scan_moves (recording opener) tree session.pool (session.memory, []))

/-- **Steps by moves.** Every step but closing the pool asks for leases and gives leases up. -/
theorem perform_moved (opener : Opener σ ρ) (tree : FileTree) (session : Session σ ρ) {step : Step}
    (hs : step ≠ .closePool) : session.Moved opener (session.perform opener tree step).session := by
  cases step with
  | acquire name module => exact session.acquire_moved opener name module
  | release name => exact session.dropLease_moved opener name
  | closePool => exact absurd rfl hs
  | prepare name module policy => exact .refl
  | scan name harvest => exact session.scan_moved opener tree name harvest
  | find name path handle =>
    dsimp only [Session.perform]
    cases session.scanners.get? name with
    | none => exact .refl
    | some scanner =>
      dsimp only
      cases scanner.handle? (ρ := ρ) path with
      | none => exact .refl
      | some found => exact session.keep_moved opener handle found
  | take harvest index name =>
    dsimp only [Session.perform]
    unfold Session.take
    cases session.harvests.get? harvest with
    | none => exact .refl
    | some found =>
      dsimp only
      cases (found.paths[index]?).join with
      | none => exact .refl
      | some path =>
        exact keep_moved opener { session with
          harvests := session.harvests.put harvest
            { found with paths := found.paths.set index none } } name (.fresh path found.module)
  | openBuffered name =>
    exact session.onHandle_moved opener name _ fun handle pool memory =>
      handle.openWith_moves _ pool memory _
  | load name =>
    exact session.onHandle_moved opener name _ fun handle pool memory =>
      handle.load_moves _ pool memory
  | openStreaming name =>
    exact session.onHandle_moved opener name _ fun handle pool memory =>
      handle.openWith_moves _ pool memory _
  | drain name how =>
    dsimp only [Session.perform]
    cases session.handles.get? name with
    | none => exact .refl
    | some handle => exact .refl
  | closeHandle name =>
    dsimp only [Session.perform]
    cases session.handles.get? name with
    | none => exact .refl
    | some handle => exact handle.close_moves opener _ _
  | dropHandle name => exact session.dropHandle_moved opener name

end Steps

end Session

end SearchPath
