import SearchPath.Proofs.Session.Ledger
import SearchPath.Proofs.Session.Run

/-!
# The life of the handles in a session

1. Only the steps about a handle touch it or give buffers back (`get?_handles_perform`,
   `returned?_perform`), and each of them does with it what one operation may (`Regular.orderly`).
2. What a run obtains for the handles of a name is what it gives back for them and what is held in
   the end (`Regular.ledger_after`), and the size that a handle knows comes from its last opening
   (`Regular.knows_after`).
3. Main result (`lifecycle_after`): leases and buffers of all handles after every run.
-/

namespace SearchPath.Session

open Pool

variable {σ ρ : Type}

/-! ## What a step does to a handle -/

/-- The handle that a step is about. -/
def Step.handle? : Step → Option String
  | .find _ _ handle => some handle
  | .take _ _ handle => some handle
  | .openBuffered handle => some handle
  | .load handle => some handle
  | .openStreaming handle => some handle
  | .drain handle _ => some handle
  | .closeHandle handle => some handle
  | .dropHandle handle => some handle
  | _ => none

/-- The buffer given back in an event. -/
def Event.returned? : Event ρ → Option (Returned ρ)
  | .returned buffer => some buffer
  | .asked _ _ => none

/-- How a step with this answer has opened its handle. -/
def Step.openings : Step → Reply ρ → List Opening
  | .find _ _ _, .kept (some _) => [.made]
  | .take _ _ _, .kept (some _) => [.made]
  | .openBuffered _, .octets answer => Handle.openingOf answer
  | .load _, .octets answer => Handle.openingOf answer
  | .openStreaming _, .opened answer => Handle.streamingOf answer
  | _, _ => []

/-- The buffers held under a name, with their readers. -/
def heldUnder (session : Session σ ρ) (name : String) : List (ρ × List UInt8) :=
  (session.handles.get? name).toList.flatMap Handle.held

theorem returned?_questions (session : Session σ ρ) (asked : List Module) :
    (session.questions asked).filterMap Event.returned? = [] := by
  unfold questions
  rw [List.filterMap_map]
  exact List.filterMap_eq_nil_iff.2 fun _ _ => rfl

theorem returned?_returned (returned : Option (Returned ρ)) :
    (returned.toList.map Event.returned).filterMap Event.returned? = returned.toList := by
  cases returned <;> rfl

theorem returned?_acquire (opener : Opener σ ρ) (session : Session σ ρ) (name : String)
    (module : Module) :
    (session.acquire opener name module).events.filterMap Event.returned? = [] := by
  unfold Session.acquire
  rcases session.pool.acquire (recording opener) (session.memory, []) module with
    ⟨fault | lease, pool, memory, asked⟩ <;> exact session.returned?_questions asked

theorem handles_acquire (opener : Opener σ ρ) (session : Session σ ρ) (name : String)
    (module : Module) : (session.acquire opener name module).session.handles = session.handles := by
  unfold Session.acquire
  rcases session.pool.acquire (recording opener) (session.memory, []) module with
    ⟨fault | lease, pool, memory, asked⟩
  · rfl
  · exact handles_dropLease { session with pool := pool, memory := memory } name

theorem get?_handles_dropHandle_of_ne (session : Session σ ρ) {name other : String}
    (h : other ≠ name) :
    (session.dropHandle name).2.handles.get? other = session.handles.get? other := by
  unfold Session.dropHandle
  cases session.handles.get? name with
  | none => rfl
  | some handle =>
    show (session.handles.erase name).get? other = _
    rw [Table.get?_erase, if_neg h]

theorem get?_handles_keep (session : Session σ ρ) (name : String) (handle : Handle ρ)
    (other : String) :
    (session.keep name handle).session.handles.get? other =
      if other = name then some handle else session.handles.get? other := by
  show ((session.dropHandle name).2.handles.put name handle).get? other = _
  rw [Table.get?_put]
  split_ifs with h
  · rfl
  · exact session.get?_handles_dropHandle_of_ne h

theorem get?_handles_onHandle {α : Type} (session : Session σ ρ) {name other : String}
    (h : other ≠ name)
    (call : Handle ρ → Pool ρ → Recorded σ →
      Handle.Outcome α (Recorded σ) ρ × Option (Returned ρ)) (reply : Except Error α → Reply ρ) :
    (session.onHandle name call reply).session.handles.get? other =
      session.handles.get? other := by
  unfold Session.onHandle
  cases session.handles.get? name with
  | none => rfl
  | some handle =>
    show (session.handles.put name _).get? other = _
    rw [Table.get?_put, if_neg h]

theorem get?_handles_take (session : Session σ ρ) (harvest : String) (index : Nat)
    {name other : String} (h : other ≠ name) :
    (session.take harvest index name).session.handles.get? other =
      session.handles.get? other := by
  unfold Session.take
  cases session.harvests.get? harvest with
  | none => rfl
  | some found =>
    dsimp only
    cases (found.paths[index]?).join with
    | none => rfl
    | some path => rw [get?_handles_keep, if_neg h]

section Steps

variable [Readable ρ]

theorem handles_scan (opener : Opener σ ρ) (tree : FileTree) (session : Session σ ρ)
    (name : String) (harvest : Option String) :
    (session.scan opener tree name harvest).session.handles = session.handles := by
  unfold Session.scan
  cases session.scanners.get? name <;> rfl

/-- No step touches a handle under another name than its own. -/
theorem get?_handles_perform (opener : Opener σ ρ) (tree : FileTree) (session : Session σ ρ)
    {step : Step} {name : String} (hs : step.handle? ≠ some name) :
    (session.perform opener tree step).session.handles.get? name = session.handles.get? name := by
  have hne : ∀ {other}, step.handle? = some other → name ≠ other := by
    rintro other ho rfl
    exact hs ho
  cases step with
  | acquire lease module => rw [Session.perform, handles_acquire]
  | release lease => exact congrArg (·.get? name) (session.handles_dropLease lease)
  | closePool => rfl
  | prepare scanner module policy => rfl
  | scan scanner harvest => rw [Session.perform, handles_scan]
  | find scanner path handle =>
    dsimp only [Session.perform]
    cases session.scanners.get? scanner with
    | none => rfl
    | some found =>
      dsimp only
      cases found.handle? (ρ := ρ) path with
      | none => rfl
      | some kept => rw [get?_handles_keep, if_neg (hne rfl)]
  | take harvest index handle => exact session.get?_handles_take harvest index (hne rfl)
  | openBuffered handle => exact session.get?_handles_onHandle (hne rfl) _ _
  | load handle => exact session.get?_handles_onHandle (hne rfl) _ _
  | openStreaming handle => exact session.get?_handles_onHandle (hne rfl) _ _
  | drain handle how =>
    dsimp only [Session.perform]
    cases session.handles.get? handle with
    | none => rfl
    | some found =>
      show (session.handles.put handle _).get? name = _
      rw [Table.get?_put, if_neg (hne rfl)]
  | closeHandle handle =>
    dsimp only [Session.perform]
    cases session.handles.get? handle with
    | none => rfl
    | some found =>
      show (session.handles.put handle _).get? name = _
      rw [Table.get?_put, if_neg (hne rfl)]
  | dropHandle handle => exact session.get?_handles_dropHandle_of_ne (hne rfl)

/-- No buffer is given back by a step that is about no handle. -/
theorem returned?_perform (opener : Opener σ ρ) (tree : FileTree) (session : Session σ ρ)
    {step : Step} (hs : step.handle? = none) :
    (session.perform opener tree step).events.filterMap Event.returned? = [] := by
  cases step with
  | acquire lease module => exact session.returned?_acquire opener lease module
  | scan scanner harvest =>
    rw [Session.perform, Session.scan]
    cases session.scanners.get? scanner with
    | none => rfl
    | some found => exact returned?_questions _ _
  | release => rfl
  | closePool => rfl
  | prepare => rfl
  | _ => cases hs

/-- The buffers that a step obtains for the handle of a name, with their readers. -/
def obtainedBy (opener : Opener σ ρ) (name : String) (session : Session σ ρ) :
    Step → List (ρ × List UInt8)
  | .openBuffered handle | .load handle =>
    if handle = name then
      (session.handles.get? name).toList.flatMap
        (·.obtained (recording opener) session.pool (session.memory, []))
    else []
  | _ => []

/-- The buffers that a step gives back for the handle of a name. -/
def returnedBy (opener : Opener σ ρ) (tree : FileTree) (name : String) (session : Session σ ρ)
    (step : Step) : List (Returned ρ) :=
  if step.handle? = some name then
    (session.perform opener tree step).events.filterMap Event.returned?
  else []

/-- How a step has opened the handle of a name. -/
def openingsBy (opener : Opener σ ρ) (tree : FileTree) (name : String) (session : Session σ ρ)
    (step : Step) : List Opening :=
  if step.handle? = some name then step.openings (session.perform opener tree step).reply else []

/-! ## Regular sessions -/

/-- A sound session in which every open handle has a lease on the container of its module. -/
structure Regular (session : Session σ ρ) : Prop where
  sound : session.Sound
  keyed : session.handles.All Handle.Keyed

omit [Readable ρ] in
theorem regular_empty (capacity : Nat) (memory : σ) :
    (empty capacity memory : Session σ ρ).Regular where
  sound := sound_empty capacity memory
  keyed := Table.all_empty _

omit [Readable ρ] in
theorem Regular.of_handles {session next : Session σ ρ} (h : session.Regular)
    (hp : next.pool = session.pool) (hl : next.leases = session.leases)
    (hh : next.handles = session.handles) : next.Regular where
  sound := h.sound.of_pool hl hh (hp ▸ h.sound.balanced)
  keyed := hh ▸ h.keyed

omit [Readable ρ] in
theorem Regular.orderly_dropHandle {session : Session σ ρ} (h : session.Regular) (name : String) :
    Handle.Orderly (session.handles.get? name) []
      ((session.dropHandle name).1.filterMap Event.returned?) [] none
      (session.dropHandle name).2.pool := by
  unfold Session.dropHandle
  cases hg : session.handles.get? name with
  | none => exact Handle.Orderly.rests (fun _ hn => by cases hn) session.pool
  | some handle =>
    dsimp only
    rw [returned?_returned]
    exact (Handle.orderly_close (h.keyed name handle hg) (h.sound.balanced_othersThan hg)).dropped
      (handle.isOpen_close session.pool)

omit [Readable ρ] in
theorem Regular.orderly_keep {session : Session σ ρ} (h : session.Regular) (name path : String)
    (module : Module) :
    Handle.Orderly (session.handles.get? name) []
      ((session.keep name (.fresh path module)).events.filterMap Event.returned?) [.made]
      ((session.keep name (.fresh path module)).session.handles.get? name)
      (session.keep name (.fresh path module)).session.pool := by
  rw [get?_handles_keep, if_pos rfl]
  exact (h.orderly_dropHandle name).made path module

omit [Readable ρ] in
theorem Regular.orderly_onHandle {α : Type} {session : Session σ ρ} (h : session.Regular)
    (name : String)
    {call : Handle ρ → Pool ρ → Recorded σ →
      Handle.Outcome α (Recorded σ) ρ × Option (Returned ρ)}
    {reply : Except Error α → Reply ρ} {obtained : Handle ρ → List (ρ × List UInt8)}
    {openings : Reply ρ → List Opening} (hu : openings .unknown = [])
    (hcall : ∀ handle rest, handle.Keyed → session.pool.Balanced (handle.lease?.toList ++ rest) →
      Handle.Orderly (some handle) (obtained handle)
        (call handle session.pool (session.memory, [])).2.toList
        (openings (reply (call handle session.pool (session.memory, [])).1.answer))
        (some (call handle session.pool (session.memory, [])).1.handle)
        (call handle session.pool (session.memory, [])).1.pool) :
    Handle.Orderly (session.handles.get? name)
      ((session.handles.get? name).toList.flatMap obtained)
      ((session.onHandle name call reply).events.filterMap Event.returned?)
      (openings (session.onHandle name call reply).reply)
      ((session.onHandle name call reply).session.handles.get? name)
      (session.onHandle name call reply).session.pool := by
  unfold Session.onHandle
  cases hg : session.handles.get? name with
  | none =>
    dsimp only
    rw [hu, hg]
    exact Handle.Orderly.rests (fun _ hn => by cases hn) session.pool
  | some handle =>
    dsimp only
    rw [List.filterMap_append, returned?_questions, returned?_returned, Table.get?_put, if_pos rfl,
      Option.toList_some, List.flatMap_singleton]
    exact hcall handle _ (h.keyed name handle hg) (h.sound.balanced_othersThan hg)

/-- **Step.** Whatever a step does with the handle of a name is in order. -/
theorem Regular.orderly {session : Session σ ρ} (h : session.Regular) (opener : Opener σ ρ)
    (tree : FileTree) (name : String) (step : Step) :
    Handle.Orderly (session.handles.get? name) (session.obtainedBy opener name step)
      (session.returnedBy opener tree name step) (session.openingsBy opener tree name step)
      ((session.perform opener tree step).session.handles.get? name)
      (session.perform opener tree step).session.pool := by
  unfold returnedBy openingsBy
  by_cases hs : step.handle? = some name
  · rw [if_pos hs, if_pos hs]
    cases step with
    | find scanner path handle =>
      cases hs
      unfold Session.perform
      dsimp only
      cases session.scanners.get? scanner with
      | none => exact Handle.Orderly.rests (h.keyed name) _
      | some found =>
        dsimp only
        cases hf : found.handle? (ρ := ρ) path with
        | none => exact Handle.Orderly.rests (h.keyed name) _
        | some kept =>
          rw [Scanner.handle?_eq_fresh hf]
          exact h.orderly_keep name _ found.module
    | take harvest index handle =>
      cases hs
      unfold Session.perform Session.take
      dsimp only
      cases session.harvests.get? harvest with
      | none => exact Handle.Orderly.rests (h.keyed name) _
      | some found =>
        dsimp only
        cases (found.paths[index]?).join with
        | none => exact Handle.Orderly.rests (h.keyed name) _
        | some path =>
          have hleft : Regular { session with
              harvests := session.harvests.put harvest
                { found with paths := found.paths.set index none } } := h.of_handles rfl rfl rfl
          exact hleft.orderly_keep name path found.module
    | openBuffered handle =>
      cases hs
      rw [obtainedBy, if_pos rfl]
      exact h.orderly_onHandle name rfl fun handle _ hk _ =>
        Handle.orderly_openBuffered hk (recording opener) (session.memory, [])
    | load handle =>
      cases hs
      rw [obtainedBy, if_pos rfl]
      exact h.orderly_onHandle name rfl fun handle _ hk hb =>
        Handle.orderly_load hk (recording opener) (session.memory, []) hb
    | openStreaming handle =>
      cases hs
      have hnone : session.obtainedBy opener name (.openStreaming name) =
          (session.handles.get? name).toList.flatMap fun _ => [] :=
        (List.flatMap_eq_nil_iff.2 fun _ _ => rfl).symm
      rw [hnone]
      exact h.orderly_onHandle name rfl fun handle _ hk _ =>
        Handle.orderly_openStreaming hk (recording opener) (session.memory, [])
    | drain handle how =>
      cases hs
      unfold Session.perform
      dsimp only
      cases hg : session.handles.get? name with
      | none =>
        dsimp only
        rw [hg]
        exact Handle.Orderly.rests (fun _ hn => by cases hn) session.pool
      | some found =>
        dsimp only
        rw [Table.get?_put, if_pos rfl]
        exact Handle.orderly_drain (h.keyed name found hg) how
    | closeHandle handle =>
      cases hs
      unfold Session.perform
      dsimp only
      cases hg : session.handles.get? name with
      | none =>
        dsimp only
        rw [hg]
        exact Handle.Orderly.rests (fun _ hn => by cases hn) session.pool
      | some found =>
        dsimp only
        rw [returned?_returned, Table.get?_put, if_pos rfl]
        exact Handle.orderly_close (h.keyed name found hg) (h.sound.balanced_othersThan hg)
    | dropHandle handle =>
      cases hs
      have hdropped := h.orderly_dropHandle name
      rw [← session.get?_handles_dropHandle name] at hdropped
      exact hdropped
    | _ => cases hs
  · have hnone : session.obtainedBy opener name step = [] := by
      unfold obtainedBy
      split
      · exact if_neg fun he => hs (congrArg some he)
      · exact if_neg fun he => hs (congrArg some he)
      · rfl
    rw [if_neg hs, if_neg hs, hnone, get?_handles_perform opener tree session hs]
    exact Handle.Orderly.rests (h.keyed name) _

theorem Regular.perform {session : Session σ ρ} (h : session.Regular) (opener : Opener σ ρ)
    (tree : FileTree) (step : Step) : (session.perform opener tree step).session.Regular where
  sound := h.sound.perform opener tree step
  keyed name handle hg := (h.orderly opener tree name step).keyed handle hg

theorem Regular.after {session : Session σ ρ} (h : session.Regular) (opener : Opener σ ρ)
    (tree : FileTree) (steps : List Step) : (session.after opener tree steps).Regular :=
  after_invariant h fun step _ _ hb => hb.perform opener tree step

/-! ## Runs -/

/-- What is told of the steps of a run, in order. -/
def told {α : Type} (opener : Opener σ ρ) (tree : FileTree)
    (tell : Session σ ρ → Step → List α) : Session σ ρ → List Step → List α
  | _, [] => []
  | session, step :: rest =>
    tell session step ++ told opener tree tell (session.perform opener tree step).session rest

/-- What a run obtains for the handles of a name, besides what they held, is given back in the same
order but for what is held in the end. -/
theorem Regular.ledger_after {session : Session σ ρ} (h : session.Regular) (opener : Opener σ ρ)
    (tree : FileTree) (name : String) (steps : List Step) :
    session.heldUnder name ++ told opener tree (obtainedBy opener name) session steps =
      (told opener tree (returnedBy opener tree name) session steps).map Returned.content ++
        (session.after opener tree steps).heldUnder name := by
  induction steps generalizing session with
  | nil => exact List.append_nil _
  | cons step rest ih =>
    have hstep := (h.orderly opener tree name step).ledger
    have hrest := ih (h.perform opener tree step)
    unfold heldUnder at hrest ⊢
    rw [told, told, after_cons, List.map_append, ← List.append_assoc, hstep, List.append_assoc,
      hrest, List.append_assoc]

/-- The size that the handle of a name knows comes from the last of its openings. -/
def Knows (session : Session σ ρ) (name : String) (openings : List Opening) : Prop :=
  ∀ handle, session.handles.get? name = some handle →
    ∃ opening, openings.getLast? = some opening ∧ handle.length = opening.size?

theorem Regular.knows_perform {session : Session σ ρ} (h : session.Regular) {name : String}
    {openings : List Opening} (hk : session.Knows name openings) (opener : Opener σ ρ)
    (tree : FileTree) (step : Step) :
    (session.perform opener tree step).session.Knows name
      (openings ++ session.openingsBy opener tree name step) := by
  intro handle hg
  rcases (h.orderly opener tree name step).length_eq handle hg with
    ⟨opening, ho, hl⟩ | ⟨ho, same, hs, hl⟩
  · rw [ho, List.getLast?_concat]
    exact ⟨opening, rfl, hl⟩
  · obtain ⟨opening, hlast, hsize⟩ := hk same hs
    rw [ho, List.append_nil]
    exact ⟨opening, hlast, hl.trans hsize⟩

theorem Regular.knows_after {session : Session σ ρ} (h : session.Regular) {name : String}
    {openings : List Opening} (hk : session.Knows name openings) (opener : Opener σ ρ)
    (tree : FileTree) (steps : List Step) :
    (session.after opener tree steps).Knows name
      (openings ++ told opener tree (openingsBy opener tree name) session steps) := by
  induction steps generalizing session openings with
  | nil =>
    rw [told, List.append_nil]
    exact hk
  | cons step rest ih =>
    rw [told, after_cons, ← List.append_assoc]
    exact ih (h.perform opener tree step) (h.knows_perform hk opener tree step)

/-! ## Leases -/

omit [Readable ρ] in
/-- The leases on a key are those kept under names, and one for every open handle. -/
theorem Regular.leases_eq {session : Session σ ρ} (h : session.Regular) (key : ContainerId) :
    session.pool.leases key =
      (session.leases.values.countP fun lease => lease.key = key) +
        session.handles.values.countP fun handle => handle.isOpen && handle.key = key := by
  have hkeyed : ∀ handle ∈ session.handles.values, handle.Keyed := by
    intro handle hm
    obtain ⟨⟨name, same⟩, he, rfl⟩ := List.mem_map.1 hm
    exact h.keyed name _ (Table.get?_of_mem h.sound.handles_nodup he)
  have hopen : (session.handles.values.filterMap Handle.lease?).countP (·.key = key) =
      session.handles.values.countP fun handle => handle.isOpen && handle.key = key := by
    rw [List.countP_filterMap]
    refine List.countP_congr fun handle hm => ?_
    rw [(hkeyed handle hm).lease?_on key]
  rw [h.sound.balanced.counted.leases_eq, Lease.countOn, outstanding, List.countP_append, hopen]

/-! ## Single steps -/

/-- An open handle is not opened again, and nothing changes. -/
theorem perform_of_isOpen (opener : Opener σ ρ) (tree : FileTree) {session : Session σ ρ}
    {name : String} {handle : Handle ρ} (hg : session.handles.get? name = some handle)
    (ho : handle.isOpen = true) :
    session.perform opener tree (.openBuffered name) =
        ⟨.octets (.error (.usage (.resourceAlreadyOpen handle.path))), [], session⟩ ∧
      session.perform opener tree (.openStreaming name) =
        ⟨.opened (.error (.usage (.resourceAlreadyOpen handle.path))), [], session⟩ := by
  have hsame : session.handles.put name handle = session.handles := Table.put_of_get? hg
  unfold Session.perform Session.onHandle
  dsimp only
  rw [hg]
  dsimp only
  rw [Handle.openBuffered, Handle.openStreaming, Handle.openWith_of_isOpen _ ho,
    Handle.openWith_of_isOpen _ ho]
  dsimp only
  rw [hsame]
  exact ⟨rfl, rfl⟩

/-- Loading and closing leave the handle closed, and dropping leaves none. -/
theorem perform_closes (opener : Opener σ ρ) (tree : FileTree) {session : Session σ ρ}
    {name : String} {handle : Handle ρ} (hg : session.handles.get? name = some handle) :
    (∃ closed, (session.perform opener tree (.load name)).session.handles.get? name =
        some closed ∧ closed.isOpen = false) ∧
      (∃ closed, (session.perform opener tree (.closeHandle name)).session.handles.get? name =
        some closed ∧ closed.isOpen = false) ∧
      (session.perform opener tree (.dropHandle name)).session.handles.get? name = none := by
  refine ⟨⟨(handle.load (recording opener) session.pool (session.memory, [])).1.handle, ?_, ?_⟩,
    ⟨(handle.close session.pool).1, ?_, handle.isOpen_close session.pool⟩,
    session.get?_handles_dropHandle name⟩
  · unfold Session.perform Session.onHandle
    dsimp only
    rw [hg]
    exact (Table.get?_put _ _ _ _).trans (if_pos rfl)
  · rw [(handle.load_eq (recording opener) session.pool (session.memory, [])).2.1]
    rfl
  · unfold Session.perform
    dsimp only
    rw [hg]
    exact (Table.get?_put _ _ _ _).trans (if_pos rfl)

/-- A step that reads answers with a buffer exactly if it obtains it. -/
theorem reply_octets_iff (opener : Opener σ ρ) (tree : FileTree) (session : Session σ ρ)
    (name : String) {step : Step} (hs : step = .openBuffered name ∨ step = .load name)
    (buffer : List UInt8) :
    (session.perform opener tree step).reply = .octets (.ok buffer) ↔
      ∃ reader, session.obtainedBy opener name step = [(reader, buffer)] := by
  have hobtained : session.obtainedBy opener name step =
      (session.handles.get? name).toList.flatMap
        (·.obtained (recording opener) session.pool (session.memory, [])) := by
    rcases hs with rfl | rfl <;> exact if_pos rfl
  rw [hobtained]
  cases hg : session.handles.get? name with
  | none =>
    have hreply : (session.perform opener tree step).reply = .unknown := by
      rcases hs with rfl | rfl
      · rw [Session.perform, Session.onHandle, hg]
      · rw [Session.perform, Session.onHandle, hg]
    rw [hreply]
    constructor
    · intro h
      cases h
    · rintro ⟨_, h⟩
      cases h
  | some handle =>
    have hreply : (session.perform opener tree step).reply = .octets
        (handle.openBuffered (recording opener) session.pool (session.memory, [])).answer := by
      rcases hs with rfl | rfl
      · rw [Session.perform, Session.onHandle, hg]
      · rw [Session.perform, Session.onHandle, hg]
        exact congrArg Reply.octets (handle.load_eq _ _ _).1
    rw [hreply, Reply.octets.injEq, Option.toList_some, List.flatMap_singleton,
      Handle.openBuffered_eq_ok_iff]

/-! ## The main result -/

/-- The life of the handles in a session, after steps from a start. -/
structure Lifecycle (opener : Opener σ ρ) (tree : FileTree) (start : Session σ ρ)
    (steps : List Step) (session : Session σ ρ) : Prop where
  /-- An open handle counts as one lease on its key, a closed one as none. -/
  leases_eq : ∀ key, session.pool.leases key =
    (session.leases.values.countP fun lease => lease.key = key) +
      session.handles.values.countP fun handle => handle.isOpen && handle.key = key
  names_nodup : session.handles.names.Nodup
  /-- No handle holds both a buffer and a stream, and an open one does not get another. -/
  exclusive : ∀ (handle : Handle ρ) lease buffer other stream,
    ¬ (handle.scope = .buffered lease buffer ∧ handle.scope = .streaming other stream)
  reopen : ∀ name handle, session.handles.get? name = some handle → handle.isOpen = true →
    session.perform opener tree (.openBuffered name) =
        ⟨.octets (.error (.usage (.resourceAlreadyOpen handle.path))), [], session⟩ ∧
      session.perform opener tree (.openStreaming name) =
        ⟨.opened (.error (.usage (.resourceAlreadyOpen handle.path))), [], session⟩
  /-- What is read successfully is what is obtained, -/
  read_iff : ∀ name step buffer, step = .openBuffered name ∨ step = .load name →
    ((session.perform opener tree step).reply = .octets (.ok buffer) ↔
      ∃ reader, session.obtainedBy opener name step = [(reader, buffer)])
  /-- and it is given back to its reader, but for what an open handle holds. -/
  ledger : ∀ name, told opener tree (obtainedBy opener name) start steps =
    (told opener tree (returnedBy opener tree name) start steps).map Returned.content ++
      session.heldUnder name
  /-- Once the handle is closed or gone, all has been given back, each buffer once. -/
  settled : ∀ name, (∀ handle, session.handles.get? name = some handle → handle.isOpen = false) →
    told opener tree (obtainedBy opener name) start steps =
      (told opener tree (returnedBy opener tree name) start steps).map Returned.content
  /-- A buffer is given back only for a handle that its step is about, whose lease is counted then
  and not any more after the step. -/
  counted : ∀ step give, .returned give ∈ (session.perform opener tree step).events →
    ∃ name handle, step.handle? = some name ∧ session.handles.get? name = some handle ∧
      give.leases = (session.perform opener tree step).session.pool.leases handle.key + 1
  /-- Loading and closing leave the handle closed, and dropping leaves none. -/
  closes : ∀ name handle, session.handles.get? name = some handle →
    (∃ closed, (session.perform opener tree (.load name)).session.handles.get? name =
        some closed ∧ closed.isOpen = false) ∧
      (∃ closed, (session.perform opener tree (.closeHandle name)).session.handles.get? name =
        some closed ∧ closed.isOpen = false) ∧
      (session.perform opener tree (.dropHandle name)).session.handles.get? name = none
  /-- The size is known exactly if the last opening of the handle was a reading of this size. -/
  length_iff : ∀ name handle size, session.handles.get? name = some handle →
    (handle.length = some size ↔
      (told opener tree (openingsBy opener tree name) start steps).getLast? =
        some (.buffered size))

/-- **The life of handles.** After every run, with any opener and any capacity. -/
theorem lifecycle_after (opener : Opener σ ρ) (tree : FileTree) (capacity : Nat) (memory : σ)
    (steps : List Step) :
    Lifecycle opener tree (empty capacity memory) steps
      ((empty capacity memory : Session σ ρ).after opener tree steps) := by
  have hstart := regular_empty (ρ := ρ) capacity memory
  have hregular := hstart.after opener tree steps
  have hledger : ∀ name, told opener tree (obtainedBy opener name) (empty capacity memory) steps =
      (told opener tree (returnedBy opener tree name) (empty capacity memory) steps).map
          Returned.content ++
        ((empty capacity memory : Session σ ρ).after opener tree steps).heldUnder name :=
    fun name => hstart.ledger_after opener tree name steps
  generalize hsession : (empty capacity memory : Session σ ρ).after opener tree steps = session
    at hregular hledger ⊢
  refine ⟨hregular.leases_eq, hregular.sound.handles_nodup, ?_,
    fun name handle hg ho => perform_of_isOpen opener tree hg ho,
    fun name step buffer hs => reply_octets_iff opener tree session name hs buffer, hledger,
    fun name hc => ?_, fun step give hm => ?_,
    fun name handle hg => perform_closes opener tree hg, fun name handle size hg => ?_⟩
  · rintro handle lease buffer other stream ⟨hb, hs⟩
    rw [hb] at hs
    cases hs
  · have hheld : session.heldUnder name = [] := by
      refine List.flatMap_eq_nil_iff.2 fun handle hh => ?_
      exact Handle.held_of_closed (hc handle (Option.mem_toList.1 hh))
    rw [hledger, hheld, List.append_nil]
  · have hgive : give ∈ (session.perform opener tree step).events.filterMap Event.returned? :=
      List.mem_filterMap.2 ⟨_, hm, rfl⟩
    cases hs : step.handle? with
    | none =>
      rw [returned?_perform opener tree session hs] at hgive
      cases hgive
    | some name =>
      have hreturned : give ∈ session.returnedBy opener tree name step := by
        rw [returnedBy, if_pos hs]
        exact hgive
      obtain ⟨handle, hg, hl⟩ := (hregular.orderly opener tree name step).counted give hreturned
      exact ⟨name, handle, rfl, hg, hl⟩
  · have hknows : (empty capacity memory : Session σ ρ).Knows name [] := fun _ h => by cases h
    have hafter := hstart.knows_after hknows opener tree steps
    rw [hsession, List.nil_append] at hafter
    obtain ⟨opening, hlast, hlength⟩ := hafter handle hg
    rw [hlast, hlength, Opening.size?_eq_some_iff, Option.some.injEq]

end Steps

end SearchPath.Session
