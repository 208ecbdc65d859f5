import SearchPath.Proofs.Pool.Map
import SearchPath.Proofs.Session.Run

/-!
# Sessions with their readers mapped

Handles, scanners and sessions look at a reader only by reading it. So where a function on readers
keeps what can be read (`Faithful`), it makes no difference whether the readers are mapped before a
step or after it.

1. Operations on handles and scans commute with the function (`openBuffered_map`, `load_map`,
   `scan_map`).
2. So does every step, with its answer and its events (`perform_map`), and every run
   (`performAll_map`).
-/

namespace SearchPath

open Pool

variable {σ μ ρ τ : Type}

/-- A function on readers that keeps what can be read. -/
structure Faithful [Readable ρ] [Readable τ] (f : ρ → τ) : Prop where
  paths_eq : ∀ reader, Readable.paths (f reader) = Readable.paths reader
  stream_eq : ∀ reader, Readable.stream (f reader) = Readable.stream reader
  octets_eq : ∀ reader, Readable.octets (f reader) = Readable.octets reader

/-! ## Handles -/

/-- The scope with its reader mapped. -/
def Scope.map (f : ρ → τ) : Scope ρ → Scope τ
  | .closed => .closed
  | .buffered lease buffer => .buffered (lease.map f) buffer
  | .streaming lease stream => .streaming (lease.map f) stream

/-- The handle with its reader mapped. -/
def Handle.map (f : ρ → τ) (handle : Handle ρ) : Handle τ :=
  ⟨handle.path, handle.module, handle.scope.map f, handle.length⟩

/-- The buffer given back with its reader mapped. -/
def Returned.map (f : ρ → τ) (returned : Returned ρ) : Returned τ :=
  ⟨f returned.reader, returned.buffer, returned.leases⟩

namespace Handle

/-- What an operation on a handle leaves, with the readers mapped and the memory of the opener. -/
def Outcome.map {α : Type} (f : ρ → τ) (g : σ → μ) (outcome : Outcome α σ ρ) : Outcome α μ τ :=
  ⟨outcome.answer, outcome.handle.map f, outcome.pool.map f, g outcome.memory⟩

theorem isOpen_map (f : ρ → τ) (handle : Handle ρ) : (handle.map f).isOpen = handle.isOpen := by
  unfold isOpen Handle.map
  dsimp only
  cases handle.scope <;> rfl

theorem close_map (f : ρ → τ) (handle : Handle ρ) (pool : Pool ρ) :
    (handle.map f).close (pool.map f) =
      Prod.map (Handle.map f) (Prod.map (Pool.map f) (Option.map (Returned.map f)))
        (handle.close pool) := by
  obtain ⟨path, module, scope, length⟩ := handle
  cases scope with
  | closed => rfl
  | buffered lease buffer =>
    unfold close Handle.map Scope.map
    dsimp only
    rw [leases_map]
    exact congrArg (fun pool => (_, pool, _)) (release_map f pool lease.key)
  | streaming lease stream =>
    exact congrArg (fun pool => (_, pool, _)) (release_map f pool lease.key)

theorem drain_map (f : ρ → τ) (handle : Handle ρ) (how : ByteStream.Draining) :
    (handle.map f).drain how = Prod.map id (Handle.map f) (handle.drain how) := by
  obtain ⟨path, module, scope, length⟩ := handle
  cases scope <;> rfl

variable [Readable ρ] [Readable τ] {f : ρ → τ} {g : σ → μ} {opener : Opener σ ρ}
  {image : Opener μ τ}

omit [Readable ρ] [Readable τ] in
/-- Opening commutes with the function if what is made of the lease does. -/
theorem openWith_map {α : Type} (h : opener.MapsTo f g image) (handle : Handle ρ) (pool : Pool ρ)
    (memory : σ) {use : Lease ρ → Except ContainerFault (α × Handle ρ)}
    {useImage : Lease τ → Except ContainerFault (α × Handle τ)}
    (hu : ∀ lease, useImage (lease.map f) = (use lease).map (Prod.map id (Handle.map f))) :
    (handle.map f).openWith image (pool.map f) (g memory) useImage =
      (handle.openWith opener pool memory use).map f g := by
  unfold openWith
  rw [isOpen_map]
  split_ifs
  · rfl
  · have ha : (pool.map f).acquire image (g memory) (handle.map f).module = _ :=
      acquire_map h pool memory handle.module
    rw [ha]
    match pool.acquire opener memory handle.module with
    | (.error fault, after, left) => rfl
    | (.ok lease, after, left) =>
      dsimp only [Prod.map, Except.map]
      rw [hu]
      match use lease with
      | .error fault =>
        exact congrArg (fun pool => Outcome.mk _ _ pool _) (release_map f after lease.key)
      | .ok (answer, opened) => rfl

theorem openBuffered_map (hf : Faithful f) (h : opener.MapsTo f g image) (handle : Handle ρ)
    (pool : Pool ρ) (memory : σ) :
    (handle.map f).openBuffered image (pool.map f) (g memory) =
      (handle.openBuffered opener pool memory).map f g := by
  refine openWith_map h handle pool memory fun lease => ?_
  show (Readable.octets (f lease.reader) handle.path >>= _) = _
  rw [hf.octets_eq]
  cases Readable.octets lease.reader handle.path <;> rfl

theorem openStreaming_map (hf : Faithful f) (h : opener.MapsTo f g image) (handle : Handle ρ)
    (pool : Pool ρ) (memory : σ) :
    (handle.map f).openStreaming image (pool.map f) (g memory) =
      (handle.openStreaming opener pool memory).map f g := by
  refine openWith_map h handle pool memory fun lease => ?_
  show (Readable.stream (f lease.reader) handle.path >>= _) = _
  rw [hf.stream_eq]
  cases Readable.stream lease.reader handle.path <;> rfl

theorem load_map (hf : Faithful f) (h : opener.MapsTo f g image) (handle : Handle ρ)
    (pool : Pool ρ) (memory : σ) :
    (handle.map f).load image (pool.map f) (g memory) =
      Prod.map (Outcome.map f g) (Option.map (Returned.map f))
        (handle.load opener pool memory) := by
  unfold load
  rw [openBuffered_map hf h]
  dsimp only [Outcome.map]
  rw [close_map]
  dsimp only [Prod.map]
  cases (handle.openBuffered opener pool memory).answer <;> rfl

end Handle

/-! ## Scanners -/

namespace Scanner

theorem handle?_map (f : ρ → τ) (scanner : Scanner) (path : String) :
    (scanner.handle? path : Option (Handle τ)) =
      (scanner.handle? path : Option (Handle ρ)).map (Handle.map f) := by
  unfold handle?
  dsimp only
  split_ifs <;> rfl

variable [Readable ρ] [Readable τ] {f : ρ → τ} {g : σ → μ} {opener : Opener σ ρ}
  {image : Opener μ τ}

/-- What a scan leaves, with the readers mapped and the memory of the opener. -/
def Result.map (f : ρ → τ) (g : σ → μ) (result : Result σ ρ) : Result μ τ :=
  ⟨result.answer, result.scanner, result.pool.map f, g result.memory⟩

theorem inspect_map (hf : Faithful f) (h : opener.MapsTo f g image) (pool : Pool ρ) (memory : σ)
    (module : Module) :
    inspect image (pool.map f) (g memory) module =
      Prod.map id (Prod.map (Pool.map f) g) (inspect opener pool memory module) := by
  unfold inspect
  rw [acquire_map h]
  match pool.acquire opener memory module with
  | (.error fault, after, left) => rfl
  | (.ok lease, after, left) =>
    dsimp only [Prod.map, Except.map]
    rw [Lease.reader_map, hf.paths_eq,
      Lease.key_map, release_map]
    rfl

theorem scan_map (hf : Faithful f) (h : opener.MapsTo f g image) (tree : FileTree)
    (scanner : Scanner) (pool : Pool ρ) (memory : σ) :
    scanner.scan image tree (pool.map f) (g memory) =
      (scanner.scan opener tree pool memory).map f g := by
  unfold scan
  cases scanner.start with
  | error fault => rfl
  | ok started =>
    dsimp only
    rw [inspect_map hf h]
    rfl

end Scanner

/-! ## Sessions -/

namespace Session

/-- The session with its readers mapped and the memory of the opener. -/
def map (f : ρ → τ) (g : σ → μ) (session : Session σ ρ) : Session μ τ where
  pool := session.pool.map f
  memory := g session.memory
  leases := session.leases.map (Lease.map f)
  scanners := session.scanners
  handles := session.handles.map (Handle.map f)
  harvests := session.harvests

@[simp] theorem pool_map (f : ρ → τ) (g : σ → μ) (session : Session σ ρ) :
    (session.map f g).pool = session.pool.map f := rfl

@[simp] theorem leases_map (f : ρ → τ) (g : σ → μ) (session : Session σ ρ) :
    (session.map f g).leases = session.leases.map (Lease.map f) := rfl

@[simp] theorem scanners_map (f : ρ → τ) (g : σ → μ) (session : Session σ ρ) :
    (session.map f g).scanners = session.scanners := rfl

@[simp] theorem handles_map (f : ρ → τ) (g : σ → μ) (session : Session σ ρ) :
    (session.map f g).handles = session.handles.map (Handle.map f) := rfl

@[simp] theorem harvests_map (f : ρ → τ) (g : σ → μ) (session : Session σ ρ) :
    (session.map f g).harvests = session.harvests := rfl

/-- The answer with its reader mapped. -/
def Reply.map (f : ρ → τ) : Reply ρ → Reply τ
  | .leased answer => .leased (answer.map (Lease.map f))
  | .existed flag => .existed flag
  | .closed slots => .closed slots
  | .prepared key => .prepared key
  | .scanned answer => .scanned answer
  | .kept path => .kept path
  | .octets answer => .octets answer
  | .opened answer => .opened answer
  | .drained answer => .drained answer
  | .done => .done
  | .unknown => .unknown

/-- The event with its reader mapped. -/
def Event.map (f : ρ → τ) : Event ρ → Event τ
  | .asked module states => .asked module states
  | .returned buffer => .returned (buffer.map f)

/-- What a step leaves, with the readers mapped and the memory of the opener. -/
def Turn.map (f : ρ → τ) (g : σ → μ) (turn : Turn σ ρ) : Turn μ τ :=
  ⟨turn.reply.map f, turn.events.map (Event.map f), turn.session.map f g⟩

/-! ### Holders -/

theorem dropLease_map (f : ρ → τ) (g : σ → μ) (session : Session σ ρ) (name : String) :
    (session.map f g).dropLease name = (session.dropLease name).map f g := by
  unfold dropLease
  rw [leases_map, Table.get?_map]
  cases session.leases.get? name with
  | none => rfl
  | some lease =>
    dsimp only [Option.map_some, Session.map]
    rw [Lease.key_map, release_map, Table.erase_map]

/-- The buffers given back, as events. -/
theorem map_returned_map (f : ρ → τ) (returned : Option (Returned ρ)) :
    ((returned.map (Returned.map f)).toList.map Event.returned : List (Event τ)) =
      (returned.toList.map Event.returned).map (Event.map f) := by
  cases returned <;> rfl

theorem dropHandle_map (f : ρ → τ) (g : σ → μ) (session : Session σ ρ) (name : String) :
    (session.map f g).dropHandle name =
      Prod.map (List.map (Event.map f)) (Session.map f g) (session.dropHandle name) := by
  unfold dropHandle
  rw [handles_map, Table.get?_map]
  cases session.handles.get? name with
  | none => rfl
  | some handle =>
    dsimp only [Option.map_some, Session.map]
    rw [Handle.close_map, Table.erase_map]
    dsimp only [Prod.map]
    rw [map_returned_map]
    rfl

theorem keep_map (f : ρ → τ) (g : σ → μ) (session : Session σ ρ) (name : String)
    (handle : Handle ρ) :
    (session.map f g).keep name (handle.map f) = (session.keep name handle).map f g := by
  unfold keep keepHandle
  rw [dropHandle_map]
  dsimp only [Prod.map, Session.map]
  rw [Table.put_map]
  rfl

theorem take_map (f : ρ → τ) (g : σ → μ) (session : Session σ ρ) (harvest : String) (index : Nat)
    (name : String) :
    (session.map f g).take harvest index name = (session.take harvest index name).map f g := by
  unfold take
  rw [harvests_map]
  cases session.harvests.get? harvest with
  | none => rfl
  | some found =>
    dsimp only
    cases (found.paths[index]?).join with
    | none => rfl
    | some path =>
      let left := { found with paths := found.paths.set index none }
      exact keep_map f g { session with harvests := session.harvests.put harvest left } name
        (.fresh path found.module)

/-! ### The opener -/

theorem recording_mapsTo {f : ρ → τ} {g : σ → μ} {opener : Opener σ ρ} {image : Opener μ τ}
    (h : opener.MapsTo f g image) :
    (recording opener).MapsTo f (Prod.map g id) (recording image) := by
  rintro module ⟨memory, asked⟩
  unfold recording
  dsimp only [Prod.map]
  rw [h]
  rfl

theorem questions_map (f : ρ → τ) (g : σ → μ) (session : Session σ ρ) (asked : List Module) :
    (session.map f g).questions asked = (session.questions asked).map (Event.map f) := by
  unfold questions
  rw [List.map_map]
  rfl

/-! ### Steps -/

section Steps

variable {f : ρ → τ} {g : σ → μ} {opener : Opener σ ρ} {image : Opener μ τ}

theorem acquire_map (h : opener.MapsTo f g image) (session : Session σ ρ) (name : String)
    (module : Module) :
    (session.map f g).acquire image name module = (session.acquire opener name module).map f g := by
  have ha : (session.map f g).pool.acquire (recording image) ((session.map f g).memory, []) module =
      _ := Pool.acquire_map (recording_mapsTo h) session.pool (session.memory, []) module
  unfold acquire
  rw [ha]
  match session.pool.acquire (recording opener) (session.memory, []) module with
  | (.error fault, pool, left, asked) =>
    dsimp only [Prod.map, Except.map, id]
    rw [questions_map]
    rfl
  | (.ok lease, pool, left, asked) =>
    dsimp only [Prod.map, Except.map, id]
    rw [questions_map]
    have hd := dropLease_map f g { session with pool := pool, memory := left } name
    unfold Session.map at hd ⊢
    dsimp only at hd ⊢
    rw [hd, Table.put_map]
    rfl

/-- A step on a handle commutes with the function if its call does. -/
theorem onHandle_map {α : Type} (session : Session σ ρ) (name : String)
    {call : Handle ρ → Pool ρ → Recorded σ →
      Handle.Outcome α (Recorded σ) ρ × Option (Returned ρ)}
    {callImage : Handle τ → Pool τ → Recorded μ →
      Handle.Outcome α (Recorded μ) τ × Option (Returned τ)}
    {reply : Except Error α → Reply ρ} {replyImage : Except Error α → Reply τ}
    (hc : ∀ handle pool memory,
      callImage (handle.map f) (pool.map f) (Prod.map g id memory) =
        Prod.map (Handle.Outcome.map f (Prod.map g id)) (Option.map (Returned.map f))
          (call handle pool memory))
    (hr : ∀ answer, replyImage answer = (reply answer).map f) :
    (session.map f g).onHandle name callImage replyImage =
      (session.onHandle name call reply).map f g := by
  unfold onHandle
  rw [handles_map, Table.get?_map]
  cases session.handles.get? name with
  | none => rfl
  | some handle =>
    have hcall : callImage (handle.map f) (session.map f g).pool ((session.map f g).memory, []) =
      _ := hc handle session.pool (session.memory, [])
    dsimp only [Option.map_some]
    rw [hcall]
    dsimp only [Prod.map, Handle.Outcome.map, id]
    rw [hr, questions_map, map_returned_map, ← List.map_append, Table.put_map]
    rfl

theorem busy_map (f : ρ → τ) (g : σ → μ) (session : Session σ ρ) (name : String)
    (scanner : Scanner) :
    (session.map f g).busy name scanner = (session.busy name scanner).map f g := by
  unfold busy
  cases scanner.start <;> rfl

variable [Readable ρ] [Readable τ]

theorem scan_map (hf : Faithful f) (h : opener.MapsTo f g image) (tree : FileTree)
    (session : Session σ ρ) (name : String) (harvest : Option String) :
    (session.map f g).scan image tree name harvest =
      (session.scan opener tree name harvest).map f g := by
  unfold scan
  rw [scanners_map]
  cases session.scanners.get? name with
  | none => rfl
  | some scanner =>
    have hs : scanner.scan (recording image) tree (session.map f g).pool
        ((session.map f g).memory, []) = _ :=
      Scanner.scan_map hf (recording_mapsTo h) tree scanner session.pool (session.memory, [])
    dsimp only [pool_busy, memory_busy]
    rw [hs]
    dsimp only [Scanner.Result.map, Prod.map, id]
    rw [busy_map]
    exact congrArg (fun events => Turn.mk _ events _) (questions_map f g _ _)

/-- **Step.** Every step commutes with the function, with its answer and its events. -/
theorem perform_map (hf : Faithful f) (h : opener.MapsTo f g image) (tree : FileTree)
    (session : Session σ ρ) (step : Step) :
    (session.map f g).perform image tree step = (session.perform opener tree step).map f g := by
  have hg : ∀ name, (session.map f g).handles.get? name =
      (session.handles.get? name).map (Handle.map f) := Table.get?_map _ session.handles
  cases step with
  | acquire name module => exact acquire_map h session name module
  | release name =>
    dsimp only [Session.perform]
    rw [dropLease_map, leases_map,
      Table.get?_map, Option.isSome_map]
    rfl
  | closePool =>
    dsimp only [Session.perform]
    rw [pool_map, Pool.close_map]
    rfl
  | prepare name module policy => rfl
  | scan name harvest => exact scan_map hf h tree session name harvest
  | find name path handle =>
    dsimp only [Session.perform]
    rw [scanners_map]
    cases session.scanners.get? name with
    | none => rfl
    | some scanner =>
      dsimp only
      rw [Scanner.handle?_map f]
      cases scanner.handle? path with
      | none => rfl
      | some found => exact keep_map f g session handle found
  | take harvest index handle => exact take_map f g session harvest index handle
  | openBuffered name =>
    dsimp only [Session.perform]
    refine onHandle_map session name (fun handle pool memory => ?_) fun _ => ?_
    · exact congrArg (·, none) (handle.openBuffered_map hf (recording_mapsTo h) pool memory)
    · rfl
  | load name =>
    dsimp only [Session.perform]
    refine onHandle_map session name (fun handle pool memory => ?_) fun _ => ?_
    · exact handle.load_map hf (recording_mapsTo h) pool memory
    · rfl
  | openStreaming name =>
    dsimp only [Session.perform]
    refine onHandle_map session name (fun handle pool memory => ?_) fun _ => ?_
    · exact congrArg (·, none) (handle.openStreaming_map hf (recording_mapsTo h) pool memory)
    · rfl
  | drain name how =>
    dsimp only [Session.perform]
    rw [hg]
    cases session.handles.get? name with
    | none => rfl
    | some handle =>
      dsimp only [Option.map_some]
      rw [Handle.drain_map]
      dsimp only [Prod.map, Session.map]
      rw [Table.put_map]
      rfl
  | closeHandle name =>
    dsimp only [Session.perform]
    rw [hg]
    cases session.handles.get? name with
    | none => rfl
    | some handle =>
      dsimp only [Option.map_some, Session.map]
      rw [Handle.close_map]
      dsimp only [Prod.map]
      rw [map_returned_map, Table.put_map]
      rfl
  | dropHandle name =>
    dsimp only [Session.perform]
    rw [hg, dropHandle_map, Option.isSome_map]
    rfl

/-! ### Runs -/

/-- **Run.** Every run commutes with the function, with its last answer and all its events. -/
theorem performAll_map (hf : Faithful f) (h : opener.MapsTo f g image) (tree : FileTree)
    (session : Session σ ρ) (steps : List Step) :
    (session.map f g).performAll image tree steps =
      (session.performAll opener tree steps).map f g := by
  unfold performAll
  rw [show (⟨.done, [], session.map f g⟩ : Turn μ τ) =
    (⟨.done, [], session⟩ : Turn σ ρ).map f g from rfl]
  generalize (⟨.done, [], session⟩ : Turn σ ρ) = turn
  induction steps generalizing turn with
  | nil => rfl
  | cons step rest ih =>
    rw [List.foldl_cons, List.foldl_cons, ← ih]
    refine congrArg (fun turn => rest.foldl _ turn) ?_
    show Turn.mk _ _ _ = _
    dsimp only [Turn.map]
    rw [perform_map hf h, List.map_append]
    rfl

theorem after_map (hf : Faithful f) (h : opener.MapsTo f g image) (tree : FileTree)
    (session : Session σ ρ) (steps : List Step) :
    (session.map f g).after image tree steps = (session.after opener tree steps).map f g :=
  congrArg Turn.session (performAll_map hf h tree session steps)

end Steps

end Session

end SearchPath
