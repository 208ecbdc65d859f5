import SearchPath.Proofs.Session.Ledger
import SearchPath.Proofs.Session.Run

/-!
# The modules of a session

All modules that a session knows were brought by a step: a lease is taken on a module, or a scanner
is prepared for one, and harvests and handles are on the modules of scanners. So what holds of all
modules that are brought holds of all modules that the opener is asked for, and what the opener
remembers stays as asking for such modules keeps it (`Within.after`).
-/

namespace SearchPath

open Pool

variable {σ ρ : Type} {P : Module → Prop} {I : σ → Prop}

/-! ## What an opener remembers -/

/-- Asking for a module with property `P` keeps the property `I` of what the opener remembers. -/
def Opener.Keeps (opener : Opener σ ρ) (P : Module → Prop) (I : σ → Prop) : Prop :=
  ∀ module memory, P module → I memory → I (opener module memory).2

theorem Opener.Keeps.recording {opener : Opener σ ρ} (h : opener.Keeps P I) :
    Opener.Keeps (Session.recording opener) P fun recorded => I recorded.1 :=
  fun module recorded hp hm => h module recorded.1 hp hm

theorem Pool.keeps_acquire {opener : Opener σ ρ} (h : opener.Keeps P I) (pool : Pool ρ) (memory : σ)
    (hm : I memory) {module : Module} (hp : P module) :
    I (pool.acquire opener memory module).2.2 := by
  have hasked := h module memory hp hm
  have hcases := pool.acquire_cases opener memory module
  generalize pool.acquire opener memory module = result at hcases ⊢
  cases hcases with
  | refused => exact hm
  | shared => exact hm
  | created _ _ ha =>
    rw [ha] at hasked
    exact hasked
  | failed _ _ ha =>
    rw [ha] at hasked
    exact hasked

theorem Handle.keeps_openWith {α : Type} {opener : Opener σ ρ} (h : opener.Keeps P I)
    {handle : Handle ρ} (hp : P handle.module) (pool : Pool ρ) (memory : σ) (hm : I memory)
    (use : Lease ρ → Except ContainerFault (α × Handle ρ)) :
    I (handle.openWith opener pool memory use).memory := by
  have hasked := Pool.keeps_acquire h pool memory hm hp
  unfold openWith
  by_cases ho : handle.isOpen = true
  · rw [if_pos ho]
    exact hm
  rw [if_neg ho]
  rcases ha : pool.acquire opener memory handle.module with ⟨fault | lease, after, left⟩
  · rw [ha] at hasked
    exact hasked
  · rw [ha] at hasked
    dsimp only
    cases use lease <;> exact hasked

theorem Handle.memory_load [Readable ρ] (opener : Opener σ ρ) (handle : Handle ρ) (pool : Pool ρ)
    (memory : σ) : (handle.load opener pool memory).1.memory =
      (handle.openBuffered opener pool memory).memory := by
  unfold load
  dsimp only
  cases (handle.openBuffered opener pool memory).answer <;> rfl

theorem Scanner.keeps_scan [Readable ρ] {opener : Opener σ ρ} (h : opener.Keeps P I)
    (tree : FileTree) {scanner : Scanner} (hp : P scanner.module) (pool : Pool ρ) (memory : σ)
    (hm : I memory) : I (scanner.scan opener tree pool memory).memory ∧
      (scanner.scan opener tree pool memory).scanner.module = scanner.module := by
  have hasked := Pool.keeps_acquire h pool memory hm hp
  unfold scan start
  by_cases hs : scanner.started = true
  · rw [if_pos hs]
    exact ⟨hm, rfl⟩
  rw [if_neg hs]
  dsimp only
  unfold inspect
  rcases ha : pool.acquire opener memory scanner.module with ⟨fault | lease, after, left⟩
  · rw [ha] at hasked
    exact ⟨hasked, rfl⟩
  · rw [ha] at hasked
    exact ⟨hasked, rfl⟩

namespace Session

/-! ## Steps -/

/-- The module that a step brings. -/
def Step.module? : Step → Option Module
  | .acquire _ module => some module
  | .prepare _ module _ => some module
  | _ => none

/-- All modules in a session have property `P`, and what the opener remembers has property `I`. -/
structure Within (P : Module → Prop) (I : σ → Prop) (session : Session σ ρ) : Prop where
  memory : I session.memory
  scanners : session.scanners.All fun scanner => P scanner.module
  handles : session.handles.All fun handle => P handle.module
  harvests : session.harvests.All fun harvest => P harvest.module

theorem within_empty (capacity : Nat) {memory : σ} (h : I memory) :
    (empty capacity memory : Session σ ρ).Within P I :=
  ⟨h, Table.all_empty _, Table.all_empty _, Table.all_empty _⟩

theorem Within.dropLease {session : Session σ ρ} (h : session.Within P I) (name : String) :
    (session.dropLease name).Within P I := by
  unfold Session.dropLease
  cases session.leases.get? name with
  | none => exact h
  | some lease => exact ⟨h.memory, h.scanners, h.handles, h.harvests⟩

theorem Within.dropHandle {session : Session σ ρ} (h : session.Within P I) (name : String) :
    (session.dropHandle name).2.Within P I := by
  unfold Session.dropHandle
  cases session.handles.get? name with
  | none => exact h
  | some handle => exact ⟨h.memory, h.scanners, h.handles.erase name, h.harvests⟩

theorem Within.keep {session : Session σ ρ} (h : session.Within P I) (name : String)
    {handle : Handle ρ} (hp : P handle.module) : (session.keep name handle).session.Within P I :=
  have hdropped := h.dropHandle name
  ⟨hdropped.memory, hdropped.scanners, hdropped.handles.put name hp, hdropped.harvests⟩

theorem Within.onHandle {α : Type} {session : Session σ ρ} (h : session.Within P I) (name : String)
    {call : Handle ρ → Pool ρ → Recorded σ →
      Handle.Outcome α (Recorded σ) ρ × Option (Returned ρ)}
    (reply : Except Error α → Reply ρ)
    (hcall : ∀ handle, P handle.module →
      I (call handle session.pool (session.memory, [])).1.memory.1 ∧
        (call handle session.pool (session.memory, [])).1.handle.module = handle.module) :
    (session.onHandle name call reply).session.Within P I := by
  unfold Session.onHandle
  cases hg : session.handles.get? name with
  | none => exact h
  | some handle =>
    have hp := h.handles name handle hg
    obtain ⟨hm, hsame⟩ := hcall handle hp
    exact ⟨hm, h.scanners, h.handles.put name (by rw [hsame]; exact hp), h.harvests⟩

theorem Within.acquire {session : Session σ ρ} (h : session.Within P I) {opener : Opener σ ρ}
    (hk : opener.Keeps P I) (name : String) {module : Module} (hp : P module) :
    (session.acquire opener name module).session.Within P I := by
  have hasked := Pool.keeps_acquire hk.recording session.pool (session.memory, []) h.memory hp
  unfold Session.acquire
  rcases ha : session.pool.acquire (recording opener) (session.memory, []) module with
    ⟨fault | lease, pool, memory, asked⟩
  · rw [ha] at hasked
    exact ⟨hasked, h.scanners, h.handles, h.harvests⟩
  · rw [ha] at hasked
    have hleft : Within P I { session with pool := pool, memory := memory } :=
      ⟨hasked, h.scanners, h.handles, h.harvests⟩
    have hdropped := hleft.dropLease name
    exact ⟨hdropped.memory, hdropped.scanners, hdropped.handles, hdropped.harvests⟩

theorem Within.take {session : Session σ ρ} (h : session.Within P I) (harvest : String)
    (index : Nat) (name : String) : (session.take harvest index name).session.Within P I := by
  unfold Session.take
  cases hg : session.harvests.get? harvest with
  | none => exact h
  | some found =>
    dsimp only
    cases (found.paths[index]?).join with
    | none => exact h
    | some path =>
      have hp := h.harvests harvest found hg
      have hleft : Within P I { session with
          harvests := session.harvests.put harvest
            { found with paths := found.paths.set index none } } :=
        ⟨h.memory, h.scanners, h.handles, h.harvests.put harvest hp⟩
      exact hleft.keep name hp

section Steps

variable [Readable ρ]

theorem Within.scan {session : Session σ ρ} (h : session.Within P I) {opener : Opener σ ρ}
    (hk : opener.Keeps P I) (tree : FileTree) (name : String) (harvest : Option String) :
    (session.scan opener tree name harvest).session.Within P I := by
  unfold Session.scan
  cases hg : session.scanners.get? name with
  | none => exact h
  | some scanner =>
    have hp := h.scanners name scanner hg
    obtain ⟨hm, hsame⟩ := Scanner.keeps_scan hk.recording tree hp session.pool (session.memory, [])
      h.memory
    refine ⟨hm, h.scanners.put name (hsame ▸ hp), h.handles, ?_⟩
    cases harvest with
    | none => exact h.harvests
    | some harvest => exact h.harvests.put harvest hp

/-- **Step.** A step brings at most its own module. -/
theorem Within.perform {session : Session σ ρ} (h : session.Within P I) {opener : Opener σ ρ}
    (hk : opener.Keeps P I) (tree : FileTree) {step : Step}
    (hs : ∀ module, step.module? = some module → P module) :
    (session.perform opener tree step).session.Within P I := by
  cases step with
  | acquire name module => exact h.acquire hk name (hs module rfl)
  | release name => exact h.dropLease name
  | closePool => exact ⟨h.memory, h.scanners, h.handles, h.harvests⟩
  | prepare name module policy =>
    exact ⟨h.memory, h.scanners.put name (hs module rfl), h.handles, h.harvests⟩
  | scan name harvest => exact h.scan hk tree name harvest
  | find name path handle =>
    dsimp only [Session.perform]
    cases hg : session.scanners.get? name with
    | none => exact h
    | some scanner =>
      dsimp only
      cases hf : scanner.handle? (ρ := ρ) path with
      | none => exact h
      | some found =>
        rw [Scanner.handle?_eq_fresh hf]
        exact h.keep handle (h.scanners name scanner hg)
  | take harvest index name => exact h.take harvest index name
  | openBuffered name =>
    exact h.onHandle name _ fun handle hp =>
      ⟨handle.keeps_openWith hk.recording hp _ _ h.memory _, handle.module_openBuffered _ _ _⟩
  | load name =>
    refine h.onHandle name _ fun handle hp => ⟨?_, ?_⟩
    · rw [Handle.memory_load]
      exact handle.keeps_openWith hk.recording hp _ _ h.memory _
    · rw [(handle.load_eq _ _ _).2.1]
      exact handle.module_openBuffered _ _ _
  | openStreaming name =>
    exact h.onHandle name _ fun handle hp =>
      ⟨handle.keeps_openWith hk.recording hp _ _ h.memory _, handle.module_openStreaming _ _ _⟩
  | drain name how =>
    dsimp only [Session.perform]
    cases hg : session.handles.get? name with
    | none => exact h
    | some handle =>
      have hp : P (handle.drain how).2.module := by
        rw [(handle.drain_snd how).1]
        exact h.handles name handle hg
      exact ⟨h.memory, h.scanners, h.handles.put name hp, h.harvests⟩
  | closeHandle name =>
    dsimp only [Session.perform]
    cases hg : session.handles.get? name with
    | none => exact h
    | some handle =>
      have hp : P (handle.close session.pool).1.module := by
        rw [Handle.close_fst]
        exact h.handles name handle hg
      exact ⟨h.memory, h.scanners, h.handles.put name hp, h.harvests⟩
  | dropHandle name => exact h.dropHandle name

/-- **Run.** Whatever is brought is all that the opener is asked for. -/
theorem Within.after {session : Session σ ρ} (h : session.Within P I) {opener : Opener σ ρ}
    (hk : opener.Keeps P I) (tree : FileTree) {steps : List Step}
    (hs : ∀ step ∈ steps, ∀ module, step.module? = some module → P module) :
    (session.after opener tree steps).Within P I :=
  after_invariant h fun step hm _ hb => hb.perform hk tree (hs step hm)

end Steps

end Session

end SearchPath
