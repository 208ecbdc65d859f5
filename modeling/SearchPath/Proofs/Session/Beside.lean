import SearchPath.Proofs.Pool.Spare
import SearchPath.Proofs.Session.Run

/-!
# Sessions beside each other

Two sessions are beside each other when they have the same holders and the same memory of the
opener, and the pool of the first may have a spare slot for a key (`Beside`).

1. Every operation of a holder does the same in both, where both pools refuse the lease it asks for
   or neither does (`openWith_spare`, `load_spare`, `scan_spare`).
2. So does every step (`perform_beside`). The one step whose answer tells the two apart is closing
   the pool, which counts the spare slot and takes it away.
-/

namespace SearchPath

open Pool

variable {σ ρ : Type}

theorem Pool.Balanced.slot?_ne_none {pool : Pool ρ} {out : List (Lease ρ)} (h : pool.Balanced out)
    {lease : Lease ρ} (hl : lease ∈ out) : pool.slot? lease.key ≠ none := by
  obtain ⟨slot, hs, -⟩ := slot?_of_leases_pos (h.leases_pos hl)
  rw [hs]
  exact Option.some_ne_none slot

/-! ## Handles and scanners -/

section Holders

variable {key : ContainerId} {pool other : Pool ρ}

namespace Handle

theorem close_spare (h : pool.Spare key other) (handle : Handle ρ)
    (hl : ∀ lease, handle.lease? = some lease → other.slot? lease.key ≠ none) :
    ∃ after, handle.close pool = ((handle.close other).1, after, (handle.close other).2.2) ∧
      after.Spare key (handle.close other).2.1 := by
  unfold lease? at hl
  unfold close
  cases hs : handle.scope with
  | closed => exact ⟨pool, rfl, h⟩
  | buffered lease buffer =>
    rw [hs] at hl
    dsimp only
    rw [h.leases_eq]
    exact ⟨_, rfl, h.release (hl lease rfl)⟩
  | streaming lease stream =>
    rw [hs] at hl
    exact ⟨_, rfl, h.release (hl lease rfl)⟩

/-- An operation on a handle leaves the same as another one, but for the pool. -/
def Outcome.Beside {α : Type} (key : ContainerId) (outcome other : Outcome α σ ρ) : Prop :=
  ∃ pool, outcome = { other with pool := pool } ∧ pool.Spare key other.pool

theorem openWith_spare {α : Type} (h : pool.Spare key other) (opener : Opener σ ρ)
    {handle : Handle ρ} (memory : σ) (use : Lease ρ → Except ContainerFault (α × Handle ρ))
    (hr : handle.isOpen = false →
      (pool.Refuses handle.module.key ↔ other.Refuses handle.module.key)) :
    (handle.openWith opener pool memory use).Beside key
      (handle.openWith opener other memory use) := by
  unfold openWith
  by_cases ho : handle.isOpen = true
  · rw [if_pos ho, if_pos ho]
    exact ⟨pool, rfl, h⟩
  rw [if_neg ho, if_neg ho]
  obtain ⟨answer, left, after, after', hp, ho', hs⟩ :=
    h.acquire opener memory (hr (Bool.not_eq_true _ ▸ ho))
  rw [hp, ho']
  cases answer with
  | error fault => exact ⟨after, rfl, hs⟩
  | ok lease =>
    dsimp only
    cases use lease with
    | error fault => exact ⟨_, rfl, hs.release (mem_keys_iff.1 (mem_keys_acquire ho'))⟩
    | ok result => exact ⟨after, rfl, hs⟩

variable [Readable ρ]

theorem load_spare (h : pool.Spare key other) (opener : Opener σ ρ) {handle : Handle ρ}
    (memory : σ) {rest : List (Lease ρ)} (hb : other.Balanced (handle.lease?.toList ++ rest))
    (hr : handle.isOpen = false →
      (pool.Refuses handle.module.key ↔ other.Refuses handle.module.key)) :
    (handle.load opener pool memory).1.Beside key (handle.load opener other memory).1 ∧
      (handle.load opener pool memory).2 = (handle.load opener other memory).2 := by
  have hopened := openBuffered_balanced opener memory hb
  obtain ⟨after, he, hs⟩ : (handle.openBuffered opener pool memory).Beside key
    (handle.openBuffered opener other memory) := openWith_spare h opener memory _ hr
  unfold load
  dsimp only
  rw [he]
  generalize handle.openBuffered opener other memory = opened at hopened hs ⊢
  obtain ⟨closed, hc, hcs⟩ := close_spare hs opened.handle fun lease hl =>
    hopened.slot?_ne_none (List.mem_append_left _ (by simp [hl]))
  dsimp only
  rw [hc]
  cases opened.answer with
  | error fault => exact ⟨⟨closed, rfl, hcs⟩, rfl⟩
  | ok bytes => exact ⟨⟨closed, rfl, hcs⟩, rfl⟩

end Handle

/-- A scan gives its lease back, and leaves the same but for the pool. -/
theorem Scanner.scan_spare [Readable ρ] (h : pool.Spare key other) (opener : Opener σ ρ)
    (tree : FileTree) {scanner : Scanner} (memory : σ)
    (hr : scanner.started = false →
      (pool.Refuses scanner.module.key ↔ other.Refuses scanner.module.key)) :
    ∃ after, scanner.scan opener tree pool memory =
        { scanner.scan opener tree other memory with pool := after } ∧
      after.Spare key (scanner.scan opener tree other memory).pool := by
  unfold scan start
  by_cases hs : scanner.started = true
  · rw [if_pos hs]
    exact ⟨pool, rfl, h⟩
  rw [if_neg hs]
  dsimp only
  unfold inspect
  obtain ⟨answer, left, after, after', hp, ho, hsp⟩ :=
    h.acquire opener memory (hr (Bool.not_eq_true _ ▸ hs))
  rw [hp, ho]
  cases answer with
  | error fault => exact ⟨after, rfl, hsp⟩
  | ok lease => exact ⟨_, rfl, hsp.release (mem_keys_iff.1 (mem_keys_acquire ho))⟩

end Holders

namespace Session

/-! ## Sessions -/

/-- A session has the holders and the memory of another one, and a pool like its pool, but for a
spare slot of a key. -/
def Beside (key : ContainerId) (session other : Session σ ρ) : Prop :=
  ∃ pool, session = { other with pool := pool } ∧ pool.Spare key other.pool

/-- A step answers and shows the same as another one, and leaves a session beside the other's. -/
def Turn.Beside (key : ContainerId) (turn other : Turn σ ρ) : Prop :=
  turn.reply = other.reply ∧ turn.events = other.events ∧ turn.session.Beside key other.session

variable {key : ContainerId} {pool : Pool ρ} {other : Session σ ρ}

theorem Sound.slot?_of_lease (h : other.Sound) {name : String} {lease : Lease ρ}
    (hg : other.leases.get? name = some lease) : other.pool.slot? lease.key ≠ none :=
  h.balanced.slot?_ne_none (List.mem_append_left _ (Table.mem_values_of_get? hg))

theorem Sound.slot?_of_handle (h : other.Sound) {name : String} {handle : Handle ρ}
    (hg : other.handles.get? name = some handle) {lease : Lease ρ}
    (hl : handle.lease? = some lease) : other.pool.slot? lease.key ≠ none :=
  h.balanced.slot?_ne_none (List.mem_append_right _
    (List.mem_filterMap.2 ⟨handle, Table.mem_values_of_get? hg, hl⟩))

theorem dropLease_beside (other : Session σ ρ) (h : pool.Spare key other.pool) {name : String}
    (hs : ∀ lease, other.leases.get? name = some lease → other.pool.slot? lease.key ≠ none) :
    (dropLease { other with pool := pool } name).Beside key (other.dropLease name) := by
  unfold dropLease
  dsimp only
  cases hg : other.leases.get? name with
  | none => exact ⟨pool, rfl, h⟩
  | some lease => exact ⟨_, rfl, h.release (hs lease hg)⟩

theorem dropHandle_beside (h : pool.Spare key other.pool) (hs : other.Sound) (name : String) :
    (dropHandle { other with pool := pool } name).1 = (other.dropHandle name).1 ∧
      (dropHandle { other with pool := pool } name).2.Beside key (other.dropHandle name).2 := by
  unfold dropHandle
  dsimp only
  cases hg : other.handles.get? name with
  | none => exact ⟨rfl, pool, rfl, h⟩
  | some handle =>
    obtain ⟨after, hc, hsp⟩ := Handle.close_spare h handle fun _ => hs.slot?_of_handle hg
    dsimp only
    rw [hc]
    exact ⟨rfl, after, rfl, hsp⟩

theorem keep_beside (other : Session σ ρ) (h : pool.Spare key other.pool) (hs : other.Sound)
    (name : String)
    (handle : Handle ρ) :
    (keep { other with pool := pool } name handle).Beside key (other.keep name handle) := by
  obtain ⟨he, after, hd, hsp⟩ := dropHandle_beside h hs name
  unfold keep keepHandle
  rcases hl : dropHandle { other with pool := pool } name with ⟨events, left⟩
  rw [hl] at he hd
  cases he
  cases hd
  exact ⟨rfl, rfl, after, rfl, hsp⟩

theorem take_beside (h : pool.Spare key other.pool) (hs : other.Sound) (harvest : String)
    (index : Nat) (name : String) :
    (take { other with pool := pool } harvest index name).Beside key
      (other.take harvest index name) := by
  unfold take
  dsimp only
  cases other.harvests.get? harvest with
  | none => exact ⟨rfl, rfl, pool, rfl, h⟩
  | some found =>
    dsimp only
    cases (found.paths[index]?).join with
    | none => exact ⟨rfl, rfl, pool, rfl, h⟩
    | some path =>
      exact keep_beside { other with
          harvests := other.harvests.put harvest
            { found with paths := found.paths.set index none } } h
        (hs.of_pool rfl rfl hs.balanced) name (.fresh path found.module)

theorem onHandle_beside {α : Type} (h : pool.Spare key other.pool) (name : String)
    {call : Handle ρ → Pool ρ → Recorded σ →
      Handle.Outcome α (Recorded σ) ρ × Option (Returned ρ)}
    (reply : Except Error α → Reply ρ)
    (hcall : ∀ handle, other.handles.get? name = some handle →
      (call handle pool (other.memory, [])).1.Beside key
          (call handle other.pool (other.memory, [])).1 ∧
        (call handle pool (other.memory, [])).2 = (call handle other.pool (other.memory, [])).2) :
    (onHandle { other with pool := pool } name call reply).Beside key
      (other.onHandle name call reply) := by
  unfold onHandle
  dsimp only
  cases hg : other.handles.get? name with
  | none => exact ⟨rfl, rfl, pool, rfl, h⟩
  | some handle =>
    obtain ⟨⟨after, ho, hsp⟩, hr⟩ := hcall handle hg
    dsimp only
    rw [ho, hr]
    exact ⟨rfl, rfl, after, rfl, hsp⟩

theorem acquire_beside (h : pool.Spare key other.pool) (hs : other.Sound) (opener : Opener σ ρ)
    (name : String) {module : Module}
    (hr : pool.Refuses module.key ↔ other.pool.Refuses module.key) :
    (acquire opener { other with pool := pool } name module).Beside key
      (other.acquire opener name module) := by
  have hacq := hs.balanced.acquire (recording opener) (other.memory, []) module
  obtain ⟨answer, ⟨left, asked⟩, after, after', hp, ho, hsp⟩ :=
    h.acquire (recording opener) (other.memory, []) hr
  rw [ho] at hacq
  unfold acquire
  dsimp only
  rw [hp, ho]
  cases answer with
  | error fault => exact ⟨rfl, rfl, after, rfl, hsp⟩
  | ok lease =>
    have hfreed : (dropLease { other with pool := after, memory := left } name).Beside key
        (dropLease { other with pool := after', memory := left } name) :=
      dropLease_beside { other with pool := after', memory := left } hsp fun _ hg =>
        hacq.slot?_ne_none
          (List.mem_append_right _ (List.mem_append_left _ (Table.mem_values_of_get? hg)))
    obtain ⟨freed, hd, hfree⟩ := hfreed
    dsimp only at hd ⊢
    rw [hd]
    exact ⟨rfl, rfl, freed, rfl, hfree⟩

/-! ## Steps -/

/-- The module that a step asks the pool for a lease on, if it does. -/
def wants (session : Session σ ρ) : Step → Option Module
  | .acquire _ module => some module
  | .scan name _ => (session.scanners.get? name).bind fun scanner =>
    if scanner.started then none else some scanner.module
  | .openBuffered name | .load name | .openStreaming name =>
    (session.handles.get? name).bind fun handle =>
      if handle.isOpen then none else some handle.module
  | _ => none

theorem wants_of_handle {name : String} {handle : Handle ρ}
    (hg : other.handles.get? name = some handle) (hc : handle.isOpen = false) :
    ((other.handles.get? name).bind fun handle =>
      if handle.isOpen then none else some handle.module) = some handle.module := by
  rw [hg, Option.bind_some, hc]
  rfl

variable [Readable ρ]

theorem scan_beside (h : pool.Spare key other.pool) (opener : Opener σ ρ) (tree : FileTree)
    (name : String) (harvest : Option String)
    (hr : ∀ module, other.wants (.scan name harvest) = some module →
      (pool.Refuses module.key ↔ other.pool.Refuses module.key)) :
    (scan opener tree { other with pool := pool } name harvest).Beside key
      (other.scan opener tree name harvest) := by
  unfold scan
  dsimp only
  cases hg : other.scanners.get? name with
  | none => exact ⟨rfl, rfl, pool, rfl, h⟩
  | some scanner =>
    have hwants : scanner.started = false →
        other.wants (.scan name harvest) = some scanner.module := fun hs => by
      dsimp only [wants]
      rw [hg, Option.bind_some, hs]
      rfl
    obtain ⟨after, hp, hsp⟩ := Scanner.scan_spare h (recording opener) tree (other.memory, [])
      fun hs => hr scanner.module (hwants hs)
    dsimp only [pool_busy, memory_busy]
    rw [hp]
    exact ⟨rfl, rfl, after, rfl, hsp⟩

/-- **Step.** Beside each other, two sessions do the same in every step but closing the pool, where
both pools refuse the lease it asks for or neither does. -/
theorem perform_beside (h : pool.Spare key other.pool) (hs : other.Sound) (opener : Opener σ ρ)
    (tree : FileTree) {step : Step} (hn : step ≠ .closePool)
    (hr : ∀ module, other.wants step = some module →
      (pool.Refuses module.key ↔ other.pool.Refuses module.key)) :
    (perform opener tree { other with pool := pool } step).Beside key
      (other.perform opener tree step) := by
  cases step with
  | acquire name module => exact acquire_beside h hs opener name (hr module rfl)
  | release name =>
    exact ⟨rfl, rfl, dropLease_beside other h fun _ => hs.slot?_of_lease⟩
  | closePool => exact absurd rfl hn
  | prepare name module policy => exact ⟨rfl, rfl, pool, rfl, h⟩
  | scan name harvest => exact scan_beside h opener tree name harvest hr
  | find name path handle =>
    dsimp only [Session.perform]
    cases other.scanners.get? name with
    | none => exact ⟨rfl, rfl, pool, rfl, h⟩
    | some scanner =>
      dsimp only
      cases scanner.handle? (ρ := ρ) path with
      | none => exact ⟨rfl, rfl, pool, rfl, h⟩
      | some found => exact keep_beside other h hs handle found
  | take harvest index name => exact take_beside h hs harvest index name
  | openBuffered name =>
    exact onHandle_beside h name _ fun handle hg =>
      ⟨Handle.openWith_spare h _ _ _ fun hc => hr _ (wants_of_handle hg hc), rfl⟩
  | load name =>
    exact onHandle_beside h name _ fun handle hg =>
      Handle.load_spare h _ _ (hs.balanced_othersThan hg) fun hc => hr _ (wants_of_handle hg hc)
  | openStreaming name =>
    exact onHandle_beside h name _ fun handle hg =>
      ⟨Handle.openWith_spare h _ _ _ fun hc => hr _ (wants_of_handle hg hc), rfl⟩
  | drain name how =>
    dsimp only [Session.perform]
    cases other.handles.get? name with
    | none => exact ⟨rfl, rfl, pool, rfl, h⟩
    | some handle => exact ⟨rfl, rfl, pool, rfl, h⟩
  | closeHandle name =>
    dsimp only [Session.perform]
    cases hg : other.handles.get? name with
    | none => exact ⟨rfl, rfl, pool, rfl, h⟩
    | some handle =>
      obtain ⟨after, hc, hsp⟩ := Handle.close_spare h handle fun _ => hs.slot?_of_handle hg
      dsimp only
      rw [hc]
      exact ⟨rfl, rfl, after, rfl, hsp⟩
  | dropHandle name =>
    obtain ⟨he, hb⟩ := dropHandle_beside h hs name
    exact ⟨rfl, he, hb⟩

end Session

end SearchPath
