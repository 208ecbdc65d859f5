import SearchPath.Proofs.Pool.Balance
import SearchPath.Proofs.Table
import SearchPath.Session

/-!
# The holders of leases

In a session a lease is out when it is kept under a name of its own, or inside an open handle. Each
operation of a holder leaves the pool balanced with what the holder has then: a handle with the
lease inside it, if any (`openWith_balanced`, `load_balanced`, `close_balanced`), a scan with
nothing (`scan_balanced`).
-/

namespace SearchPath

open Pool

variable {σ ρ : Type}

/-! ## Handles -/

namespace Handle

theorem lease?_eq_none_iff {handle : Handle ρ} : handle.lease? = none ↔ handle.isOpen = false := by
  unfold lease? isOpen
  cases handle.scope <;> simp

@[simp] theorem lease?_fresh (path : String) (module : Module) :
    (fresh path module : Handle ρ).lease? = none := rfl

@[simp] theorem lease?_close (handle : Handle ρ) (pool : Pool ρ) :
    (handle.close pool).1.lease? = none := by
  unfold close
  cases handle.scope <;> rfl

/-- A handle that is closed holds no lease and has given back what it held. -/
theorem close_balanced {handle : Handle ρ} {pool : Pool ρ} {rest : List (Lease ρ)}
    (h : pool.Balanced (handle.lease?.toList ++ rest)) :
    (handle.close pool).2.1.Balanced ((handle.close pool).1.lease?.toList ++ rest) := by
  rw [lease?_close]
  unfold lease? at h
  unfold close
  cases hs : handle.scope with
  | closed =>
    rw [hs] at h
    exact h
  | buffered lease buffer =>
    rw [hs] at h
    exact h.release
  | streaming lease stream =>
    rw [hs] at h
    exact h.release

/-- A handle that is opened holds the new lease, and one that could not be opened what it held. -/
theorem openWith_balanced {α : Type} (opener : Opener σ ρ) {handle : Handle ρ} {pool : Pool ρ}
    (memory : σ) {use : Lease ρ → Except ContainerFault (α × Handle ρ)} {rest : List (Lease ρ)}
    (huse : ∀ lease answer opened, use lease = .ok (answer, opened) → opened.lease? = some lease)
    (h : pool.Balanced (handle.lease?.toList ++ rest)) :
    (handle.openWith opener pool memory use).pool.Balanced
      ((handle.openWith opener pool memory use).handle.lease?.toList ++ rest) := by
  unfold openWith
  by_cases ho : handle.isOpen = true
  · rw [if_pos ho]
    exact h
  rw [if_neg ho]
  have hnone : handle.lease? = none := lease?_eq_none_iff.2 (Bool.not_eq_true _ ▸ ho)
  rw [hnone] at h
  have hacq := h.acquire opener memory handle.module
  rcases ha : pool.acquire opener memory handle.module with ⟨fault | lease, after, left⟩
  · rw [ha] at hacq
    show after.Balanced (handle.lease?.toList ++ rest)
    rw [hnone]
    exact hacq
  · rw [ha] at hacq
    dsimp only
    cases hu : use lease with
    | error fault =>
      show (after.release lease.key).Balanced (handle.lease?.toList ++ rest)
      rw [hnone]
      exact hacq.release
    | ok result =>
      obtain ⟨answer, opened⟩ := result
      show after.Balanced (opened.lease?.toList ++ rest)
      rw [huse lease answer opened hu]
      exact hacq

theorem lease?_drain (handle : Handle ρ) (how : ByteStream.Draining) :
    (handle.drain how).2.lease? = handle.lease? := by
  unfold drain lease?
  cases hs : handle.scope <;> simp [hs]

variable [Readable ρ]

theorem openBuffered_balanced (opener : Opener σ ρ) {handle : Handle ρ} {pool : Pool ρ}
    (memory : σ) {rest : List (Lease ρ)} (h : pool.Balanced (handle.lease?.toList ++ rest)) :
    (handle.openBuffered opener pool memory).pool.Balanced
      ((handle.openBuffered opener pool memory).handle.lease?.toList ++ rest) := by
  refine openWith_balanced opener memory (fun lease answer opened hu => ?_) h
  cases hr : Readable.octets lease.reader handle.path with
  | error fault =>
    rw [hr] at hu
    cases hu
  | ok buffer =>
    rw [hr] at hu
    cases hu
    rfl

theorem openStreaming_balanced (opener : Opener σ ρ) {handle : Handle ρ} {pool : Pool ρ}
    (memory : σ) {rest : List (Lease ρ)} (h : pool.Balanced (handle.lease?.toList ++ rest)) :
    (handle.openStreaming opener pool memory).pool.Balanced
      ((handle.openStreaming opener pool memory).handle.lease?.toList ++ rest) := by
  refine openWith_balanced opener memory (fun lease answer opened hu => ?_) h
  cases hr : Readable.stream lease.reader handle.path with
  | error fault =>
    rw [hr] at hu
    cases hu
  | ok stream =>
    rw [hr] at hu
    cases hu
    rfl

theorem load_balanced (opener : Opener σ ρ) {handle : Handle ρ} {pool : Pool ρ} (memory : σ)
    {rest : List (Lease ρ)} (h : pool.Balanced (handle.lease?.toList ++ rest)) :
    (handle.load opener pool memory).1.pool.Balanced
      ((handle.load opener pool memory).1.handle.lease?.toList ++ rest) := by
  have hclosed := close_balanced (openBuffered_balanced opener memory h)
  unfold load
  dsimp only
  cases (handle.openBuffered opener pool memory).answer with
  | error fault => exact hclosed
  | ok bytes => exact hclosed

end Handle

/-! ## Scanners -/

namespace Scanner

theorem handle?_eq_fresh {scanner : Scanner} {path : String} {handle : Handle ρ}
    (h : scanner.handle? path = some handle) :
    handle = .fresh (Path.entryPath path) scanner.module := by
  unfold handle? at h
  dsimp only at h
  split_ifs at h
  cases h
  rfl

/-- The handles that a scanner gives out are closed. -/
theorem lease?_of_handle? {scanner : Scanner} {path : String} {handle : Handle ρ}
    (h : scanner.handle? path = some handle) : handle.lease? = none := by
  rw [handle?_eq_fresh h]
  rfl

variable [Readable ρ]

/-- The lease that a scan takes is given back before the scan ends. -/
theorem scan_balanced (opener : Opener σ ρ) (tree : FileTree) (scanner : Scanner) {pool : Pool ρ}
    (memory : σ) {out : List (Lease ρ)} (h : pool.Balanced out) :
    (scanner.scan opener tree pool memory).pool.Balanced out := by
  unfold scan start
  by_cases hs : scanner.started = true
  · rw [if_pos hs]
    exact h
  rw [if_neg hs]
  dsimp only
  unfold inspect
  have hacq := h.acquire opener memory scanner.module
  rcases ha : pool.acquire opener memory scanner.module with ⟨fault | lease, after, left⟩
  · rw [ha] at hacq
    exact hacq
  · rw [ha] at hacq
    exact hacq.release

end Scanner

end SearchPath
