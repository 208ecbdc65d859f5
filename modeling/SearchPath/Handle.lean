import SearchPath.Path.Canonical
import SearchPath.Pool

/-!
# Handles

A handle names one resource of a module. While it is open it holds a lease on the reader of the
module: with the buffer that reading gave, or with a stream. Closing gives a buffer back to its
reader and the lease back to the pool.

1. `openBuffered` and `openStreaming` need a closed handle, and leave it as it was when they fail;
2. `load` reads and closes, also when the reading failed;
3. `close` is the only way to a closed handle, and a handle that goes out of use is closed.
-/

namespace SearchPath

inductive Scope (ρ : Type) where
  | closed
  | buffered (lease : Lease ρ) (buffer : List UInt8)
  | streaming (lease : Lease ρ) (stream : ByteStream)
  deriving Repr

structure Handle (ρ : Type) where
  path : String
  module : Module
  scope : Scope ρ
  /-- The size of the resource, where the last successful reading told it. -/
  length : Option Nat
  deriving Repr

/-- A buffer given back to the reader that it came from. -/
structure Returned (ρ : Type) where
  reader : ρ
  buffer : List UInt8
  /-- How many leases on the container are out at that moment, the handle's own among them. -/
  leases : Nat
  deriving Repr

namespace Handle

variable {ρ σ : Type}

def fresh (path : String) (module : Module) : Handle ρ :=
  ⟨path, module, .closed, none⟩

/-! ## Asking -/

def key (handle : Handle ρ) : ContainerId :=
  handle.module.key

def isOpen (handle : Handle ρ) : Bool :=
  match handle.scope with
  | .closed => false
  | _ => true

def lease? (handle : Handle ρ) : Option (Lease ρ) :=
  match handle.scope with
  | .closed => none
  | .buffered lease _ => some lease
  | .streaming lease _ => some lease

/-- The text of the URL of the resource, as its location and path spell it. -/
def spelledUrl (handle : Handle ρ) : String :=
  match handle.module.location with
  | some location => location ++ "!/" ++ handle.path
  | none => "jrt:/" ++ handle.module.name ++ "/" ++ handle.path

def url (handle : Handle ρ) : Except Error String :=
  match Url.parse handle.spelledUrl.toList with
  | .ok url => .ok (String.ofList url.text)
  | .error cause => .error (.url cause)

def display (handle : Handle ρ) : String :=
  handle.key.text ++ "/" ++ handle.path

def debug (handle : Handle ρ) : String :=
  Text.record "ModuleResource"
    [("path", Text.quoted handle.path), ("module", Text.quoted handle.module.name),
     ("open", toString handle.isOpen)]

/-! ## Closing -/

/-- The closed handle, the pool with its lease given back, and the buffer given to its reader. -/
def close (handle : Handle ρ) (pool : Pool ρ) :
    Handle ρ × Pool ρ × Option (Returned ρ) :=
  let closed := { handle with scope := .closed }
  match handle.scope with
  | .closed => (closed, pool, none)
  | .buffered lease buffer =>
    (closed, pool.release lease.key, some ⟨lease.reader, buffer, pool.leases lease.key⟩)
  | .streaming lease _ => (closed, pool.release lease.key, none)

/-! ## Reading -/

variable [Readable ρ]

structure Outcome (α σ ρ : Type) where
  answer : Except Error α
  handle : Handle ρ
  pool : Pool ρ
  memory : σ

/-- Takes a lease for a closed handle and opens it with what `use` makes of the reader; a failure
leaves the handle as it was and gives the lease back. -/
def openWith {α : Type} (opener : Opener σ ρ) (handle : Handle ρ) (pool : Pool ρ)
    (memory : σ) (use : Lease ρ → Except ContainerFault (α × Handle ρ)) : Outcome α σ ρ :=
  if handle.isOpen then
    ⟨.error (.usage (.resourceAlreadyOpen handle.path)), handle, pool, memory⟩
  else
    match pool.acquire opener memory handle.module with
    | (.error e, pool, memory) => ⟨.error (.container e), handle, pool, memory⟩
    | (.ok lease, pool, memory) =>
      match use lease with
      | .error e => ⟨.error (.container e), handle, pool.release lease.key, memory⟩
      | .ok (answer, opened) => ⟨.ok answer, opened, pool, memory⟩

def openBuffered (opener : Opener σ ρ) (handle : Handle ρ) (pool : Pool ρ)
    (memory : σ) : Outcome (List UInt8) σ ρ :=
  handle.openWith opener pool memory fun lease => do
    let buffer ← Readable.octets lease.reader handle.path
    return (buffer,
      { handle with scope := .buffered lease buffer, length := some buffer.length })

def openStreaming (opener : Opener σ ρ) (handle : Handle ρ) (pool : Pool ρ)
    (memory : σ) : Outcome Unit σ ρ :=
  handle.openWith opener pool memory fun lease => do
    let stream ← Readable.stream lease.reader handle.path
    return ((), { handle with scope := .streaming lease stream, length := none })

/-- Reads the whole resource and leaves the handle closed, with any buffer given back. -/
def load (opener : Opener σ ρ) (handle : Handle ρ) (pool : Pool ρ)
    (memory : σ) : Outcome (List UInt8) σ ρ × Option (Returned ρ) :=
  let loaded := handle.openBuffered opener pool memory
  let (closed, pool, returned) := loaded.handle.close loaded.pool
  match loaded.answer with
  | .error e => (⟨.error e, closed, pool, loaded.memory⟩, returned)
  | .ok bytes =>
    (⟨.ok bytes, { closed with length := some bytes.length }, pool, loaded.memory⟩, returned)

/-- The stream of the handle drained; without a stream there is nothing to drain. -/
def drain (handle : Handle ρ) (how : ByteStream.Draining) :
    Option ByteStream.Drained × Handle ρ :=
  match handle.scope with
  | .streaming lease stream =>
    let (drained, stream) := stream.drain how
    (some drained, { handle with scope := .streaming lease stream })
  | _ => (none, handle)

end Handle

end SearchPath
