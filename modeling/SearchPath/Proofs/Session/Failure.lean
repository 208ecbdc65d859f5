import SearchPath.Container.Memory
import SearchPath.Proofs.Session.Beside
import SearchPath.Proofs.Session.Moves

/-!
# Failed leases

What is left when the opener fails for a lease. A session after the failure is compared with the
same session without the lease, for the same memory of the opener.

1. The failure is not seen in any lease, in any reader or by any holder. Where the key had a slot,
   nothing is left of it; where it had none, a spare slot is, which counts against the capacity.
2. From then on the two sessions do the same until a lease is refused since the spare slot takes the
   last place (`Starves`), however many steps are between (`Beside.after`).
3. Main result (`failure_of_acquire`): the exact condition for the failure to be unseen, at once and
   in every later lease.
-/

namespace SearchPath.Session

open Pool

variable {σ ρ : Type} {key : ContainerId} {session other : Session σ ρ}

/-! ## Starving -/

/-- The pool of a session refuses the lease that a step asks for, and the other pool does not. -/
def Starves (session other : Session σ ρ) (step : Step) : Prop :=
  ∃ module, other.wants step = some module ∧
    session.pool.Refuses module.key ∧ ¬ other.pool.Refuses module.key

/-- A session beside another one starves for a lease on a container without a slot exactly if the
pool is full and holds a spare slot. -/
theorem Beside.starves_acquire_iff (h : session.Beside key other) (hs : session.Sound)
    (ho : other.Sound) (name : String) (module : Module) :
    session.Starves other (.acquire name module) ↔
      session.pool.slot? key ≠ other.pool.slot? key ∧ session.pool.slot? module.key = none ∧
        session.pool.size = session.pool.capacity := by
  obtain ⟨pool, rfl, hp⟩ := h
  rw [← hp.refuses_alone_iff hs.balanced.counted ho.balanced.counted module.key]
  constructor
  · rintro ⟨_, ⟨rfl⟩, hr⟩
    exact hr
  · intro hr
    exact ⟨module, rfl, hr⟩

variable [Readable ρ]

/-- No step of a run starves. -/
def NeverStarves (opener : Opener σ ρ) (tree : FileTree) :
    Session σ ρ → Session σ ρ → List Step → Prop
  | _, _, [] => True
  | session, other, step :: rest =>
    ¬ session.Starves other step ∧
      NeverStarves opener tree (session.perform opener tree step).session
        (other.perform opener tree step).session rest

/-! ## Steps and runs -/

theorem Beside.perform (h : session.Beside key other) (ho : other.Sound) (hs : session.Sound)
    (opener : Opener σ ρ) (tree : FileTree) {step : Step} (hn : ¬ session.Starves other step) :
    (session.perform opener tree step).session.Beside key
        (other.perform opener tree step).session ∧
      (step ≠ .closePool →
        (session.perform opener tree step).reply = (other.perform opener tree step).reply ∧
        (session.perform opener tree step).events = (other.perform opener tree step).events) := by
  obtain ⟨pool, rfl, hp⟩ := h
  by_cases hc : step = .closePool
  · subst hc
    refine ⟨⟨_, rfl, ?_⟩, fun hc => absurd rfl hc⟩
    exact hp.close hs.balanced.counted.keys_nodup ho.balanced.counted.keys_nodup
  · have hr : ∀ module, other.wants step = some module →
        (pool.Refuses module.key ↔ other.pool.Refuses module.key) := by
      intro module hw
      constructor
      · intro hrefuses
        by_cases hor : other.pool.Refuses module.key
        · exact hor
        · exact absurd ⟨module, hw, hrefuses, hor⟩ hn
      · intro hor
        exact hp.refuses hs.balanced.counted ho.balanced.counted hor
    obtain ⟨hreply, hevents, hbeside⟩ := perform_beside hp ho opener tree hc hr
    exact ⟨hbeside, fun _ => ⟨hreply, hevents⟩⟩

/-- **Run.** As long as no step starves, two sessions stay beside each other. -/
theorem Beside.after (h : session.Beside key other) (ho : other.Sound) (hs : session.Sound)
    (opener : Opener σ ρ) (tree : FileTree) {steps : List Step}
    (hn : NeverStarves opener tree session other steps) :
    (session.after opener tree steps).Beside key (other.after opener tree steps) := by
  induction steps generalizing session other with
  | nil => exact h
  | cons step rest ih =>
    rw [after_cons, after_cons]
    exact ih (h.perform ho hs opener tree hn.1).1 (ho.perform opener tree step)
      (hs.perform opener tree step) hn.2

/-- What two sessions beside each other do next. -/
structure Tells (opener : Opener σ ρ) (tree : FileTree) (key : ContainerId)
    (session other : Session σ ρ) : Prop where
  /-- A step that does not starve does the same in both, but for the number of slots closed. -/
  unseen : ∀ step, ¬ session.Starves other step → step ≠ .closePool →
    (session.perform opener tree step).reply = (other.perform opener tree step).reply ∧
      (session.perform opener tree step).events = (other.perform opener tree step).events
  /-- A lease starves exactly if the pool is full with a spare slot, and the key has no slot. -/
  starves_iff : ∀ name module, session.Starves other (.acquire name module) ↔
    session.pool.slot? key ≠ other.pool.slot? key ∧ session.pool.slot? module.key = none ∧
      session.pool.size = session.pool.capacity
  /-- It is refused then, where the opener is asked for it in the other session. -/
  refused : ∀ name module, session.Starves other (.acquire name module) →
    session.perform opener tree (.acquire name module) =
        ⟨.leased (.error (.poolExhausted session.pool.capacity)), [], session⟩ ∧
      (other.perform opener tree (.acquire name module)).events =
        [.asked module other.scannerStates]

theorem Beside.tells (h : session.Beside key other) (ho : other.Sound) (hs : session.Sound)
    (opener : Opener σ ρ) (tree : FileTree) : Tells opener tree key session other where
  unseen step hn hc := (h.perform ho hs opener tree hn).2 hc
  starves_iff := h.starves_acquire_iff hs ho
  refused name module hstarves := by
    obtain ⟨_, ⟨rfl⟩, hr, hor⟩ := hstarves
    refine ⟨acquire_of_refuses opener session name hr, ?_⟩
    have hnone : other.pool.reader? module.key = none := by
      obtain ⟨pool, rfl, hp⟩ := h
      rw [← hp.reader?_eq, reader?, hr.1]
      rfl
    exact (acquire_of_closed opener other name hnone hor).1

/-! ## The failure -/

/-- The session before a lease, had the lease only changed the memory of the opener. -/
def spared (before left : Session σ ρ) : Session σ ρ :=
  { before with memory := left.memory }

omit [Readable ρ] in
theorem Sound.spared (h : session.Sound) (left : Session σ ρ) : (session.spared left).Sound :=
  h.of_pool rfl rfl h.balanced

/-- What is left when the opener fails for a lease on the container of a module. -/
structure Failure (opener : Opener σ ρ) (tree : FileTree) (module : Module)
    (before left : Session σ ρ) : Prop where
  /-- Only the pool has changed, and the memory of the opener. -/
  left_eq : left = { before.spared left with pool := left.pool }
  memory_eq : left.memory = (opener module before.memory).2
  /-- The leases on every key are the same, and so is its reader. -/
  leases_eq : ∀ key, left.pool.leases key = before.pool.leases key
  isOpen_eq : ∀ key, left.pool.isOpen key = before.pool.isOpen key
  /-- The number of slots is the same exactly if the key had a slot, -/
  size_eq_iff : left.pool.size = before.pool.size ↔ before.pool.slot? module.key ≠ none
  /-- and then so is everything. -/
  pool_eq : before.pool.slot? module.key ≠ none → left.pool = before.pool
  /-- Where the key had no slot, there is one more, which counts against the capacity. -/
  pool_eq_of_none : before.pool.slot? module.key = none →
    left.pool = { before.pool with
      reserved := before.pool.reserved + 1
      slots := before.pool.slots ++ [(module.key, ⟨none, 0⟩)] }
  /-- What tells the sessions with and without the lease apart, however many steps later. -/
  later : ∀ steps, NeverStarves opener tree left (before.spared left) steps →
    Tells opener tree module.key (left.after opener tree steps)
      ((before.spared left).after opener tree steps)

omit [Readable ρ] in
/-- A lease for which the opener was asked and failed is taken and given up. -/
theorem session_of_failed {opener : Opener σ ρ} {name : String} {module : Module}
    {fault : ContainerFault}
    (hreply : (session.acquire opener name module).reply = .leased (.error fault))
    (hasked : (session.acquire opener name module).events ≠ []) :
    (session.acquire opener name module).session = { session with
      pool := (session.pool.lent module.key).release module.key
      memory := (opener module session.memory).2 } := by
  have hcases := session.pool.acquire_cases (recording opener) (session.memory, []) module
  unfold Session.acquire at hreply hasked ⊢
  generalize session.pool.acquire (recording opener) (session.memory, []) module = result
    at hcases hreply hasked ⊢
  cases hcases with
  | refused => exact absurd rfl hasked
  | shared => cases hreply
  | created => cases hreply
  | failed _ _ ha =>
    have hleft := congrArg (·.2.1) ha
    show Session.mk _ _ _ _ _ _ = Session.mk _ _ _ _ _ _
    rw [← hleft]
    rfl

theorem Sound.failure (h : session.Sound) {opener : Opener σ ρ} (tree : FileTree) {name : String}
    {module : Module} {fault : ContainerFault}
    (hreply : (session.acquire opener name module).reply = .leased (.error fault))
    (hasked : (session.acquire opener name module).events ≠ []) :
    Failure opener tree module session (session.acquire opener name module).session := by
  have hleft := h.acquire opener name module
  have heq := session_of_failed hreply hasked
  generalize (session.acquire opener name module).session = left at hleft heq ⊢
  have hpool : left.pool = (session.pool.lent module.key).release module.key :=
    congrArg Session.pool heq
  have hspare : left.pool.Spare module.key session.pool :=
    hpool ▸ spare_release_lent session.pool module.key
  have hleft_eq : left = { session.spared left with pool := left.pool } := by rw [heq]; rfl
  refine ⟨hleft_eq, congrArg Session.memory heq, hspare.leases_eq, fun key => ?_, ?_,
    fun hs => hpool.trans (release_lent_of_ne_none hs),
    fun hs => hpool.trans (release_lent_of_none hs), fun steps hn => ?_⟩
  · rw [isOpen_eq, hspare.reader?_eq, isOpen_eq]
  · constructor
    · intro hsize hnone
      rw [hpool, release_lent_of_none hnone] at hsize
      simp [size] at hsize
    · intro hs
      rw [hpool, release_lent_of_ne_none hs]
  · have hspared := h.spared left
    have hbeside : left.Beside module.key (session.spared left) := ⟨left.pool, hleft_eq, hspare⟩
    exact (hbeside.after hspared hleft opener tree hn).tells (hspared.after opener tree steps)
      (hleft.after opener tree steps) opener tree

/-- **A failed lease.** What is left of it, after any run of any opener with any capacity. -/
theorem failure_of_acquire (opener : Opener σ ρ) (tree : FileTree) (capacity : Nat) (memory : σ)
    (steps : List Step) (name : String) (module : Module) (fault : ContainerFault)
    (before : Session σ ρ) (hbefore : before = (empty capacity memory).after opener tree steps)
    (hreply : (before.perform opener tree (.acquire name module)).reply = .leased (.error fault))
    (hasked : (before.perform opener tree (.acquire name module)).events ≠ []) :
    Failure opener tree module before
      (before.perform opener tree (.acquire name module)).session := by
  have hsound := sound_after opener tree capacity memory steps
  rw [← hbefore] at hsound
  exact hsound.failure tree hreply hasked

/-- An opener that fails for modules without a file. -/
def filesOnly : Opener Unit MemoryContainer :=
  fun module memory => (if module.file.isSome then .ok ⟨[]⟩ else .error (.unavailable ""), memory)

/-- The one place of a pool goes to a container that could not be opened, and the next lease, on a
container that could be, is refused. -/
theorem failure_of_broken :
    let broken : Module := ⟨"a", some "file:/a", none⟩
    let sound : Module := ⟨"b", some "file:/b", some "/b"⟩
    let before : Session Unit MemoryContainer := empty 1 ()
    let left := (before.perform filesOnly (.empty "/") (.acquire "x" broken)).session
    Failure filesOnly (.empty "/") broken before left ∧ left.pool.size = 1 ∧
      (left.perform filesOnly (.empty "/") (.acquire "y" sound)).reply =
        .leased (.error (.poolExhausted 1)) ∧
      (before.perform filesOnly (.empty "/") (.acquire "y" sound)).reply =
        .leased (.ok ⟨⟨"file:/b"⟩, ⟨[]⟩⟩) :=
  ⟨failure_of_acquire filesOnly (.empty "/") 1 () [] "x" ⟨"a", some "file:/a", none⟩
    (.unavailable "") (empty 1 ()) rfl rfl (List.cons_ne_nil _ _), rfl, rfl, rfl⟩

end SearchPath.Session
