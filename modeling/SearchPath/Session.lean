import SearchPath.Scanner
import SearchPath.Table

/-!
# Sessions

In a session many holders share one pool: leases, scanners and handles, each under a
name of its own. One step is one call of one holder (`perform`); it answers, and tells what the
outside could see meanwhile, the questions to the opener and the buffers given back. Steps do not
overlap; in any other way the steps of different holders may alternate.

1. A name that is used again loses what it stood for once the new holder is there: a lease is
   given back, a handle is closed.
2. A step that fails leaves every name as it was.
3. The scanners are asked for their states at the moment of each question to the opener. While one
   of them scans, from its start to its verdict, they are those of the session that is `busy`.
-/

namespace SearchPath

/-- The handles that a scan has reported and that nobody has taken yet. -/
structure Harvest where
  module : Module
  paths : List (Option String)
  deriving Repr

structure Session (σ ρ : Type) where
  pool : Pool ρ
  memory : σ
  leases : Table String (Lease ρ)
  scanners : Table String Scanner
  handles : Table String (Handle ρ)
  harvests : Table String Harvest

namespace Session

variable {σ ρ : Type}

/-! ## Steps and answers -/

inductive Step where
  /-- Takes a lease and keeps it under a name. -/
  | acquire (lease : String) (module : Module)
  /-- Gives a lease back. -/
  | release (lease : String)
  | closePool
  /-- Keeps a fresh scanner under a name. -/
  | prepare (scanner : String) (module : Module) (policy : Policy)
  /-- Scans, and keeps what is reported under a name where one is given. -/
  | scan (scanner : String) (harvest : Option String)
  /-- Looks a resource of a scanned module up and keeps a handle on it under a name. -/
  | find (scanner path handle : String)
  /-- Takes one of the handles that a scan has reported. -/
  | take (harvest : String) (index : Nat) (handle : String)
  | openBuffered (handle : String)
  | load (handle : String)
  | openStreaming (handle : String)
  /-- Drains the stream of a handle. -/
  | drain (handle : String) (how : ByteStream.Draining)
  | closeHandle (handle : String)
  /-- Forgets a handle, which closes it. -/
  | dropHandle (handle : String)
  deriving Repr

inductive Reply (ρ : Type) where
  | leased (answer : Except ContainerFault (Lease ρ))
  /-- Whether there was anything under the name. -/
  | existed (flag : Bool)
  | closed (slots : Nat)
  | prepared (key : ContainerId)
  | scanned (answer : Except Error (List Report))
  /-- The path of the handle that was kept, if any. -/
  | kept (path : Option String)
  | octets (answer : Except Error (List UInt8))
  | opened (answer : Except Error Unit)
  | drained (answer : Option ByteStream.Drained)
  | done
  /-- Nothing stands under the name. -/
  | unknown

/-- What the outside can see of a step. -/
inductive Event (ρ : Type) where
  /-- The opener is asked for a reader while the scanners are in these states. -/
  | asked (module : Module) (states : List (String × Phase))
  /-- A reader gets a buffer back. -/
  | returned (buffer : Returned ρ)

structure Turn (σ ρ : Type) where
  reply : Reply ρ
  events : List (Event ρ)
  session : Session σ ρ

/-! ## Holders -/

def empty (capacity : Nat) (memory : σ) : Session σ ρ :=
  ⟨Pool.empty capacity, memory, Table.empty, Table.empty, Table.empty, Table.empty⟩

def scannerStates (session : Session σ ρ) : List (String × Phase) :=
  session.scanners.entries.map fun (name, scanner) => (name, scanner.state)

def dropLease (session : Session σ ρ) (name : String) : Session σ ρ :=
  match session.leases.get? name with
  | none => session
  | some lease =>
    { session with pool := session.pool.release lease.key, leases := session.leases.erase name }

def dropHandle (session : Session σ ρ) (name : String) : List (Event ρ) × Session σ ρ :=
  match session.handles.get? name with
  | none => ([], session)
  | some handle =>
    let (_, pool, returned) := handle.close session.pool
    (returned.toList.map .returned,
      { session with pool := pool, handles := session.handles.erase name })

/-- The session with a handle under a name, in place of any other. -/
def keepHandle (session : Session σ ρ) (name : String) (handle : Handle ρ) :
    List (Event ρ) × Session σ ρ :=
  let (events, session) := session.dropHandle name
  (events, { session with handles := session.handles.put name handle })

/-! ## The opener -/

/-- What the opener remembers, and which readers it has been asked for. -/
abbrev Recorded (σ : Type) : Type :=
  σ × List Module

def recording (opener : Opener σ ρ) : Opener (Recorded σ) ρ :=
  fun module (memory, asked) =>
    let (answer, memory) := opener module memory
    (answer, memory, asked ++ [module])

def questions (session : Session σ ρ) (asked : List Module) : List (Event ρ) :=
  asked.map fun module => .asked module session.scannerStates

/-! ## Performing -/

def acquire (opener : Opener σ ρ) (session : Session σ ρ) (name : String)
    (module : Module) : Turn σ ρ :=
  let (answer, pool, memory, asked) :=
    session.pool.acquire (recording opener) (session.memory, []) module
  let events := session.questions asked
  let after := { session with pool := pool, memory := memory }
  match answer with
  | .error e => ⟨.leased (.error e), events, after⟩
  | .ok lease =>
    let freed := after.dropLease name
    ⟨.leased (.ok lease), events, { freed with leases := freed.leases.put name lease }⟩

def keep (session : Session σ ρ) (name : String) (handle : Handle ρ) : Turn σ ρ :=
  let (events, session) := session.keepHandle name handle
  ⟨.kept (some handle.path), events, session⟩

def take (session : Session σ ρ) (harvest : String) (index : Nat) (name : String) : Turn σ ρ :=
  match session.harvests.get? harvest with
  | none => ⟨.unknown, [], session⟩
  | some found =>
    match (found.paths[index]?).join with
    | none => ⟨.unknown, [], session⟩
    | some path =>
      let left := { found with paths := found.paths.set index none }
      { session with harvests := session.harvests.put harvest left }.keep name
        (.fresh path found.module)

def onHandle {α : Type} (session : Session σ ρ) (name : String)
    (call : Handle ρ → Pool ρ → Recorded σ →
      Handle.Outcome α (Recorded σ) ρ × Option (Returned ρ))
    (reply : Except Error α → Reply ρ) : Turn σ ρ :=
  match session.handles.get? name with
  | none => ⟨.unknown, [], session⟩
  | some handle =>
    let (outcome, returned) := call handle session.pool (session.memory, [])
    ⟨reply outcome.answer,
      session.questions outcome.memory.2 ++ returned.toList.map .returned,
      { session with
        pool := outcome.pool
        memory := outcome.memory.1
        handles := session.handles.put name outcome.handle }⟩

/-- The session while the scanner under this name is on its way, from its start to its verdict. A
scanner that cannot be started is never on its way. -/
def busy (session : Session σ ρ) (name : String) (scanner : Scanner) : Session σ ρ :=
  { session with
    scanners :=
      match scanner.start with
      | .error _ => session.scanners
      | .ok started => session.scanners.put name started }

@[simp] theorem pool_busy (session : Session σ ρ) (name : String) (scanner : Scanner) :
    (session.busy name scanner).pool = session.pool := rfl

@[simp] theorem memory_busy (session : Session σ ρ) (name : String) (scanner : Scanner) :
    (session.busy name scanner).memory = session.memory := rfl

variable [Readable ρ]

/-- Scans while the scanner is busy, and keeps what is reported under a name where one is given. -/
def scan (opener : Opener σ ρ) (tree : FileTree) (session : Session σ ρ) (name : String)
    (harvest : Option String) : Turn σ ρ :=
  match session.scanners.get? name with
  | none => ⟨.unknown, [], session⟩
  | some scanner =>
    let busy := session.busy name scanner
    let result := scanner.scan (recording opener) tree busy.pool (busy.memory, [])
    let harvests :=
      match harvest with
      | none => session.harvests
      | some harvest =>
        session.harvests.put harvest
          ⟨scanner.module, (Scanner.reportedPaths result.answer).map some⟩
    ⟨.scanned result.answer, busy.questions result.memory.2,
      { session with
        pool := result.pool
        memory := result.memory.1
        scanners := session.scanners.put name result.scanner
        harvests := harvests }⟩

def perform (opener : Opener σ ρ) (tree : FileTree) (session : Session σ ρ) :
    Step → Turn σ ρ
  | .acquire lease module => session.acquire opener lease module
  | .release lease =>
    ⟨.existed (session.leases.get? lease).isSome, [], session.dropLease lease⟩
  | .closePool =>
    let (pool, closed) := session.pool.close
    ⟨.closed closed, [], { session with pool := pool }⟩
  | .prepare name module policy =>
    ⟨.prepared module.key, [],
      { session with scanners := session.scanners.put name (Scanner.fresh module policy) }⟩
  | .scan scanner harvest => session.scan opener tree scanner harvest
  | .find scanner path handle =>
    match session.scanners.get? scanner with
    | none => ⟨.unknown, [], session⟩
    | some scanner =>
      match scanner.handle? path with
      | none => ⟨.kept none, [], session⟩
      | some found => session.keep handle found
  | .take harvest index handle => session.take harvest index handle
  | .openBuffered handle =>
    session.onHandle handle
      (fun handle pool memory => (handle.openBuffered (recording opener) pool memory, none))
      .octets
  | .load handle =>
    session.onHandle handle
      (fun handle pool memory => handle.load (recording opener) pool memory) .octets
  | .openStreaming handle =>
    session.onHandle handle
      (fun handle pool memory => (handle.openStreaming (recording opener) pool memory, none))
      .opened
  | .drain name how =>
    match session.handles.get? name with
    | none => ⟨.unknown, [], session⟩
    | some handle =>
      let (drained, handle) := handle.drain how
      ⟨.drained drained, [], { session with handles := session.handles.put name handle }⟩
  | .closeHandle name =>
    match session.handles.get? name with
    | none => ⟨.unknown, [], session⟩
    | some handle =>
      let (closed, pool, returned) := handle.close session.pool
      ⟨.done, returned.toList.map .returned,
        { session with pool := pool, handles := session.handles.put name closed }⟩
  | .dropHandle name =>
    let (events, after) := session.dropHandle name
    ⟨.existed (session.handles.get? name).isSome, events, after⟩

/-- Several steps one after the other: the last answer, all events, and what they leave. -/
def performAll (opener : Opener σ ρ) (tree : FileTree) (session : Session σ ρ)
    (steps : List Step) : Turn σ ρ :=
  steps.foldl
    (fun turn step =>
      let next := turn.session.perform opener tree step
      ⟨next.reply, turn.events ++ next.events, next.session⟩)
    ⟨.done, [], session⟩

end Session

end SearchPath
