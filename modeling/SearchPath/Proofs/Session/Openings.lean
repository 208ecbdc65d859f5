import SearchPath.Proofs.Session.Lifecycle

/-!
# Openings that fail

Opening a handle takes three steps that can fail: the handle must be closed, the pool must give a
lease on a reader, and the reader must give the resource. By the last one a lease is out already.

1. `Fails` says which step fails and what it leaves of the pool. The handle is then what it was
   (`Fails.openWith_eq`), and there is no other way to fail (`openWith_attempt`).
2. Whichever step fails, the leases on every key are what they were (`Fails.leases_eq`): a lease
   that was taken is given up again.
3. Main result (`openings_fail_cleanly`): an opening that fails changes no holder of a session and
   gives no buffer back, and one that fails since the handle is open already asks nobody.
-/

namespace SearchPath

open Pool

variable {σ ρ : Type}

namespace Handle

variable {α β : Type} {opener : Opener σ ρ} {handle : Handle ρ} {pool : Pool ρ} {memory : σ}

/-! ## The ways to fail -/

/-- How opening a handle fails, with its error and what is left of the pool and of the memory of the
opener; `read` is what the opening wants from the reader. -/
inductive Fails (opener : Opener σ ρ) (handle : Handle ρ) (pool : Pool ρ) (memory : σ)
    (read : ρ → Except ContainerFault β) : Error → Pool ρ → σ → Prop
  | alreadyOpen (ho : handle.isOpen = true) :
      Fails opener handle pool memory read (.usage (.resourceAlreadyOpen handle.path)) pool memory
  | exhausted (hc : handle.isOpen = false) (hr : pool.Refuses handle.key) :
      Fails opener handle pool memory read (.container (.poolExhausted pool.capacity)) pool memory
  /-- The opener has no reader for the module. -/
  | notMade {fault : ContainerFault} {left : σ} (hc : handle.isOpen = false)
      (hn : pool.reader? handle.key = none) (hr : ¬ pool.Refuses handle.key)
      (ha : opener handle.module memory = (.error fault, left)) :
      Fails opener handle pool memory read (.container fault)
        ((pool.lent handle.key).release handle.key) left
  /-- The reader does not give the resource. -/
  | unread {fault : ContainerFault} {lease : Lease ρ} {after : Pool ρ} {left : σ}
      (hc : handle.isOpen = false)
      (ha : pool.acquire opener memory handle.module = (.ok lease, after, left))
      (hf : read lease.reader = .error fault) :
      Fails opener handle pool memory read (.container fault) (after.release lease.key) left

/-- An outcome of opening the handle is an error exactly if the opening fails in one of these ways,
and then it is what this way leaves. -/
structure Attempt (opener : Opener σ ρ) (handle : Handle ρ) (pool : Pool ρ) (memory : σ)
    (read : ρ → Except ContainerFault β) (outcome : Outcome α σ ρ) : Prop where
  eq_of_fails : ∀ fault after left, Fails opener handle pool memory read fault after left →
    outcome = ⟨.error fault, handle, after, left⟩
  fails_of_error : ∀ fault, outcome.answer = .error fault →
    ∃ after left, Fails opener handle pool memory read fault after left

theorem acquire_of_fault {fault : ContainerFault} {left : σ} {module : Module}
    (hn : pool.reader? module.key = none) (hr : ¬ pool.Refuses module.key)
    (ha : opener module memory = (.error fault, left)) :
    pool.acquire opener memory module =
      (.error fault, (pool.lent module.key).release module.key, left) := by
  unfold Pool.acquire
  rw [reserve_of_not_refuses hr, hn]
  dsimp only
  rw [ha]

variable {use : Lease ρ → Except ContainerFault (α × Handle ρ)}
  {read : ρ → Except ContainerFault β} {finish : Lease ρ → β → α × Handle ρ}

/-- The handle is left as it was. -/
theorem Fails.openWith_eq {fault : Error} {after : Pool ρ} {left : σ}
    (h : Fails opener handle pool memory read fault after left)
    (huse : ∀ lease, use lease = (read lease.reader).map (finish lease)) :
    handle.openWith opener pool memory use = ⟨.error fault, handle, after, left⟩ := by
  have hclosed : handle.isOpen = false → ¬ handle.isOpen = true := fun hc => hc ▸ Bool.false_ne_true
  cases h with
  | alreadyOpen ho => exact openWith_of_isOpen opener ho pool memory use
  | exhausted hc hr =>
    have hr : pool.Refuses handle.module.key := hr
    rw [openWith, if_neg (hclosed hc), Pool.acquire, reserve_of_refuses hr]
  | notMade hc hn hr ha =>
    rw [openWith, if_neg (hclosed hc), acquire_of_fault hn hr ha]
    rfl
  | unread hc ha hf =>
    rw [openWith, if_neg (hclosed hc), ha]
    dsimp only
    rw [huse, hf]
    rfl

/-- **Attempts.** There is no other way to fail. -/
theorem openWith_attempt (opener : Opener σ ρ) (handle : Handle ρ) (pool : Pool ρ) (memory : σ)
    (finish : Lease ρ → β → α × Handle ρ)
    (huse : ∀ lease, use lease = (read lease.reader).map (finish lease)) :
    Attempt opener handle pool memory read (handle.openWith opener pool memory use) where
  eq_of_fails _ _ _ h := h.openWith_eq huse
  fails_of_error fault he := by
    by_cases ho : handle.isOpen = true
    · rw [openWith_of_isOpen opener ho] at he
      cases he
      exact ⟨pool, memory, .alreadyOpen ho⟩
    have hc : handle.isOpen = false := Bool.not_eq_true _ ▸ ho
    have hcases := pool.acquire_cases opener memory handle.module
    rw [openWith, if_neg ho] at he
    rcases ha : pool.acquire opener memory handle.module with ⟨cause | lease, after, left⟩
    · rw [ha] at hcases he
      cases he
      cases hcases with
      | refused hr => exact ⟨_, _, .exhausted hc hr⟩
      | failed hn hr hfault => exact ⟨_, _, .notMade hc hn hr hfault⟩
    · rw [ha] at he
      dsimp only at he
      rw [huse] at he
      cases hf : read lease.reader with
      | error cause =>
        rw [hf] at he
        cases he
        exact ⟨_, _, .unread hc ha hf⟩
      | ok content =>
        rw [hf] at he
        cases he

/-! ## The leases of a failed opening -/

/-- A lease that was just taken is counted once. -/
theorem leases_acquire {lease : Lease ρ} {after : Pool ρ} {left : σ} {module : Module}
    (h : pool.acquire opener memory module = (.ok lease, after, left)) (key : ContainerId) :
    after.leases key = pool.leases key + if key = lease.key then 1 else 0 := by
  have hcases := pool.acquire_cases opener memory module
  rw [h] at hcases
  cases hcases with
  | shared => exact leases_lent pool module.key key
  | created => rw [leases_filled, leases_lent]

/-- Giving up a lease that was counted once leaves the leases on every key as they were. -/
theorem leases_release_of_counted {after : Pool ρ} {lent : ContainerId}
    (h : ∀ key, after.leases key = pool.leases key + if key = lent then 1 else 0)
    (key : ContainerId) : (after.release lent).leases key = pool.leases key := by
  have hpos : 0 < after.leases lent := by
    rw [h, if_pos rfl]
    exact Nat.succ_pos _
  rw [leases_release after hpos, h, Nat.add_sub_cancel]

/-- **Leases.** However an opening fails, the leases on every key are what they were. -/
theorem Fails.leases_eq {read : ρ → Except ContainerFault β} {fault : Error} {after : Pool ρ}
    {left : σ} (h : Fails opener handle pool memory read fault after left) (key : ContainerId) :
    after.leases key = pool.leases key := by
  cases h with
  | alreadyOpen => rfl
  | exhausted => rfl
  | notMade => exact leases_release_of_counted (leases_lent pool handle.key) key
  | unread _ ha _ => exact leases_release_of_counted (leases_acquire ha) key

/-! ## The two openings -/

variable [Readable ρ]

theorem openBuffered_attempt (opener : Opener σ ρ) (handle : Handle ρ) (pool : Pool ρ)
    (memory : σ) :
    Attempt opener handle pool memory (Readable.octets · handle.path)
      (handle.openBuffered opener pool memory) :=
  openWith_attempt opener handle pool memory
    (fun lease buffer => (buffer,
      { handle with scope := .buffered lease buffer, length := some buffer.length }))
    fun lease => by cases Readable.octets lease.reader handle.path <;> rfl

theorem openStreaming_attempt (opener : Opener σ ρ) (handle : Handle ρ) (pool : Pool ρ)
    (memory : σ) :
    Attempt opener handle pool memory (Readable.stream · handle.path)
      (handle.openStreaming opener pool memory) :=
  openWith_attempt opener handle pool memory
    (fun lease stream => ((),
      { handle with scope := .streaming lease stream, length := none }))
    fun lease => by cases Readable.stream lease.reader handle.path <;> rfl

end Handle

namespace Session

/-! ## Openings in a session -/

/-- The step opens the handle of a name, as a buffer or as a stream. -/
def Step.Opens (name : String) (step : Step) : Prop :=
  step = .openBuffered name ∨ step = .openStreaming name

/-- The error that an opening answers with. -/
def Reply.fault? : Reply ρ → Option Error
  | .octets (.error fault) => some fault
  | .opened (.error fault) => some fault
  | _ => none

/-- A step leaves all holders, the leases on every key and all buffers where they were. -/
structure Untouched (session : Session σ ρ) (turn : Turn σ ρ) : Prop where
  /-- Every handle has the scope and the length that it had, and no other holder has changed. -/
  holders_eq : turn.session =
    { session with pool := turn.session.pool, memory := turn.session.memory }
  leases_eq : ∀ key, turn.session.pool.leases key = session.pool.leases key
  returned_eq : turn.events.filterMap Event.returned? = []

/-- The handle of a name cannot be opened: the way in which the attempt on it fails. -/
def OpeningFails {β : Type} (opener : Opener σ ρ) (session : Session σ ρ) (name : String)
    (read : Handle ρ → ρ → Except ContainerFault β) (fault : Error) : Prop :=
  ∃ handle after left, session.handles.get? name = some handle ∧
    handle.Fails (recording opener) session.pool (session.memory, []) (read handle) fault after left

/-- An opening answers with an error exactly if the attempt on the handle fails, and then it leaves
the session untouched. -/
theorem onHandle_attempt {α β : Type} {opener : Opener σ ρ} {session : Session σ ρ}
    {attempt : Handle ρ → Pool ρ → Recorded σ → Handle.Outcome α (Recorded σ) ρ}
    {reply : Except Error α → Reply ρ} {read : Handle ρ → ρ → Except ContainerFault β}
    (herror : ∀ fault, (reply (.error fault)).fault? = some fault)
    (hok : ∀ answer, (reply (.ok answer)).fault? = none)
    (hattempt : ∀ handle, Handle.Attempt (recording opener) handle session.pool
      (session.memory, []) (read handle) (attempt handle session.pool (session.memory, [])))
    (name : String) (fault : Error) :
    let turn := session.onHandle name (fun handle pool memory => (attempt handle pool memory, none))
      reply
    (turn.reply.fault? = some fault ↔ OpeningFails opener session name read fault) ∧
      (turn.reply.fault? = some fault → session.Untouched turn) := by
  unfold OpeningFails onHandle
  cases hg : session.handles.get? name with
  | none => simp [Reply.fault?]
  | some handle =>
    have hcases := hattempt handle
    dsimp only
    generalize attempt handle session.pool (session.memory, []) = outcome at hcases ⊢
    have hfails : (reply outcome.answer).fault? = some fault →
        ∃ after left, handle.Fails (recording opener) session.pool (session.memory, [])
          (read handle) fault after left := by
      intro hr
      refine hcases.fails_of_error fault ?_
      cases ha : outcome.answer with
      | error cause => rw [ha, herror] at hr; exact congrArg Except.error (Option.some.inj hr)
      | ok answer => rw [ha, hok] at hr; cases hr
    refine ⟨⟨fun hr => ?_, ?_⟩, fun hr => ?_⟩
    · obtain ⟨after, left, hf⟩ := hfails hr
      exact ⟨handle, after, left, rfl, hf⟩
    · rintro ⟨_, after, left, ⟨rfl⟩, hf⟩
      rw [hcases.eq_of_fails _ _ _ hf]
      exact herror fault
    · obtain ⟨after, left, hf⟩ := hfails hr
      obtain rfl := hcases.eq_of_fails _ _ _ hf
      refine ⟨?_, hf.leases_eq, ?_⟩
      · exact congrArg (Session.mk after left.1 session.leases session.scanners ·
          session.harvests) (Table.put_of_get? hg)
      · exact (List.append_nil _).symm ▸ session.returned?_questions left.2

/-- The answer to a step on this handle needs neither the pool nor the opener nor any reader: it is
the same in every session that has the handle under the name, and nothing happens. -/
def AsksNobody (σ : Type) (name : String) (handle : Handle ρ) (step : Step) (reply : Reply ρ) :
    Prop :=
  ∀ [Readable ρ] (opener : Opener σ ρ) (tree : FileTree) (session : Session σ ρ),
    session.handles.get? name = some handle →
      session.perform opener tree step = ⟨reply, [], session⟩

/-- The answer of an opening step to a handle that is open already. -/
def refusal (step : Step) (handle : Handle ρ) : Reply ρ :=
  match step with
  | .openStreaming _ => .opened (.error (.usage (.resourceAlreadyOpen handle.path)))
  | _ => .octets (.error (.usage (.resourceAlreadyOpen handle.path)))

theorem asksNobody_of_isOpen {name : String} {handle : Handle ρ} (ho : handle.isOpen = true)
    {step : Step} (hs : step.Opens name) :
    AsksNobody σ name handle step (refusal step handle) := by
  intro _ opener tree session hg
  have hopen := perform_of_isOpen opener tree hg ho
  rcases hs with rfl | rfl
  · exact hopen.1
  · exact hopen.2

theorem fault?_refusal {name : String} {step : Step} (hs : step.Opens name) (handle : Handle ρ) :
    (refusal step handle).fault? = some (.usage (.resourceAlreadyOpen handle.path)) := by
  rcases hs with rfl | rfl <;> rfl

/-- Only an open handle is refused as open already. -/
theorem OpeningFails.isOpen {β : Type} {opener : Opener σ ρ} {session : Session σ ρ} {name : String}
    {read : Handle ρ → ρ → Except ContainerFault β} {path : String}
    (h : OpeningFails opener session name read (.usage (.resourceAlreadyOpen path))) :
    ∃ handle, session.handles.get? name = some handle ∧ handle.isOpen = true := by
  obtain ⟨handle, after, left, hg, hf⟩ := h
  cases hf with
  | alreadyOpen ho => exact ⟨handle, hg, ho⟩

/-! ## The main result -/

variable [Readable ρ]

theorem openBuffered_fails (opener : Opener σ ρ) (tree : FileTree) (session : Session σ ρ)
    (name : String) (fault : Error) :
    ((session.perform opener tree (.openBuffered name)).reply.fault? = some fault ↔
        OpeningFails opener session name (fun handle => (Readable.octets · handle.path)) fault) ∧
      ((session.perform opener tree (.openBuffered name)).reply.fault? = some fault →
        session.Untouched (session.perform opener tree (.openBuffered name))) :=
  onHandle_attempt (fun _ => rfl) (fun _ => rfl)
    (fun handle => handle.openBuffered_attempt (recording opener) _ _) name fault

theorem openStreaming_fails (opener : Opener σ ρ) (tree : FileTree) (session : Session σ ρ)
    (name : String) (fault : Error) :
    ((session.perform opener tree (.openStreaming name)).reply.fault? = some fault ↔
        OpeningFails opener session name (fun handle => (Readable.stream · handle.path)) fault) ∧
      ((session.perform opener tree (.openStreaming name)).reply.fault? = some fault →
        session.Untouched (session.perform opener tree (.openStreaming name))) :=
  onHandle_attempt (fun _ => rfl) (fun _ => rfl)
    (fun handle => handle.openStreaming_attempt (recording opener) _ _) name fault

/-- What openings that fail come to in a session. -/
structure FailsCleanly (opener : Opener σ ρ) (tree : FileTree) (session : Session σ ρ) : Prop where
  /-- Reading fails exactly in one of the ways to fail, and so does opening a stream. -/
  reading_iff : ∀ name fault,
    (session.perform opener tree (.openBuffered name)).reply.fault? = some fault ↔
      OpeningFails opener session name (fun handle => (Readable.octets · handle.path)) fault
  streaming_iff : ∀ name fault,
    (session.perform opener tree (.openStreaming name)).reply.fault? = some fault ↔
      OpeningFails opener session name (fun handle => (Readable.stream · handle.path)) fault
  /-- Whichever it is, no handle and no other holder changes, the leases on every key are what they
  were, and no buffer is given back. -/
  untouched : ∀ name step fault, Step.Opens name step →
    (session.perform opener tree step).reply.fault? = some fault →
      session.Untouched (session.perform opener tree step)
  /-- An open handle is always refused as open already, -/
  reopened : ∀ name step handle, Step.Opens name step →
    session.handles.get? name = some handle → handle.isOpen = true →
      (session.perform opener tree step).reply.fault? =
        some (.usage (.resourceAlreadyOpen handle.path))
  /-- and whenever this is the answer, nobody is asked for it. -/
  unasked : ∀ name step path, Step.Opens name step →
    (session.perform opener tree step).reply.fault? = some (.usage (.resourceAlreadyOpen path)) →
      ∃ handle, session.handles.get? name = some handle ∧
        AsksNobody σ name handle step (session.perform opener tree step).reply

/-- **Openings that fail.** In every session, after whatever steps, with any opener. -/
theorem openings_fail_cleanly (opener : Opener σ ρ) (tree : FileTree) (session : Session σ ρ) :
    FailsCleanly opener tree session where
  reading_iff name fault := (openBuffered_fails opener tree session name fault).1
  streaming_iff name fault := (openStreaming_fails opener tree session name fault).1
  untouched name step fault hs hr := by
    rcases hs with rfl | rfl
    · exact (openBuffered_fails opener tree session name fault).2 hr
    · exact (openStreaming_fails opener tree session name fault).2 hr
  reopened name step handle hs hg ho := by
    rw [asksNobody_of_isOpen ho hs opener tree session hg]
    exact fault?_refusal hs handle
  unasked name step path hs hr := by
    have hopen : ∃ handle, session.handles.get? name = some handle ∧ handle.isOpen = true := by
      rcases hs with rfl | rfl
      · exact ((openBuffered_fails opener tree session name _).1.1 hr).isOpen
      · exact ((openStreaming_fails opener tree session name _).1.1 hr).isOpen
    obtain ⟨handle, hg, ho⟩ := hopen
    have hasks : AsksNobody σ name handle step (refusal step handle) := asksNobody_of_isOpen ho hs
    refine ⟨handle, hg, ?_⟩
    rw [hasks opener tree session hg]
    exact hasks

end Session

end SearchPath
