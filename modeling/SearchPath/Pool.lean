import SearchPath.Container.Readable

/-!
# The pool of readers

The pool holds one slot for each container in use. A slot's reader is built by the opener when
the first lease asks for it, and shared by all leases of the same key. No more slots than the
capacity are taken; closing the pool gives up the slots without leases.

1. `reserve` takes a lease on the slot of a key, making the slot if there is room;
2. `acquire` also sees to it that the slot has a reader, and gives the lease up if that fails;
3. `release` gives a lease up, and `close` the slots without any.
-/

namespace SearchPath

/-- The reader of one container, once it is built, and how many leases on it are out. -/
structure Slot (ρ : Type) where
  reader : Option ρ
  leases : Nat
  deriving Repr

structure Pool (ρ : Type) where
  capacity : Nat
  /-- The number of slots that count against the capacity. -/
  reserved : Nat
  slots : List (ContainerId × Slot ρ)
  deriving Repr

structure Lease (ρ : Type) where
  key : ContainerId
  reader : ρ
  deriving Repr

def Lease.debug {ρ : Type} (lease : Lease ρ) : String :=
  Text.record "ScopedReader" [("key", lease.key.debug)]

namespace Pool

variable {ρ σ : Type}

def empty (capacity : Nat) : Pool ρ :=
  ⟨capacity, 0, []⟩

/-! ## Asking -/

def slot? (pool : Pool ρ) (key : ContainerId) : Option (Slot ρ) :=
  pool.slots.lookup key

def leases (pool : Pool ρ) (key : ContainerId) : Nat :=
  ((pool.slot? key).map (·.leases)).getD 0

def isOpen (pool : Pool ρ) (key : ContainerId) : Bool :=
  ((pool.slot? key).bind (·.reader)).isSome

def size (pool : Pool ρ) : Nat :=
  pool.slots.length

/-! ## Changing -/

/-- A count lowered by an amount. Counts are kept in 64 bits, and one that would fall below zero goes
on from the top. -/
def lower (count amount : Nat) : Nat :=
  if amount ≤ count then count - amount else count + 1 <<< 64 - amount

def modify (pool : Pool ρ) (key : ContainerId) (f : Slot ρ → Slot ρ) : Pool ρ :=
  { pool with
    slots := pool.slots.map fun entry => if entry.1 = key then (entry.1, f entry.2) else entry }

/-- The pool with one more lease on a key, and the reader of its slot. -/
def reserve (pool : Pool ρ) (key : ContainerId) :
    Except ContainerFault (Option ρ × Pool ρ) :=
  match pool.slot? key with
  | some slot => .ok (slot.reader, pool.modify key fun s => { s with leases := s.leases + 1 })
  | none =>
    if pool.reserved < pool.capacity then
      .ok (none,
        { pool with reserved := pool.reserved + 1, slots := pool.slots ++ [(key, ⟨none, 1⟩)] })
    else .error (.poolExhausted pool.capacity)

def release (pool : Pool ρ) (key : ContainerId) : Pool ρ :=
  pool.modify key fun s => { s with leases := lower s.leases 1 }

/-- A lease on the container of a module, the pool after it, and what the opener remembers. The
opener is asked only if the slot has no reader. -/
def acquire (opener : Opener σ ρ) (pool : Pool ρ) (memory : σ) (module : Module) :
    Except ContainerFault (Lease ρ) × Pool ρ × σ :=
  match pool.reserve module.key with
  | .error e => (.error e, pool, memory)
  | .ok (some reader, pool) => (.ok ⟨module.key, reader⟩, pool, memory)
  | .ok (none, pool) =>
    match opener module memory with
    | (.ok reader, memory) =>
      (.ok ⟨module.key, reader⟩,
        pool.modify module.key fun s => { s with reader := some reader }, memory)
    -- the lease is given up again, the slot stays without a reader
    | (.error e, memory) => (.error e, pool.release module.key, memory)

/-- The pool without the slots that have no lease, and how many there were. -/
def close (pool : Pool ρ) : Pool ρ × Nat :=
  let kept := pool.slots.filter fun entry => 0 < entry.2.leases
  let closed := pool.slots.length - kept.length
  ({ pool with reserved := lower pool.reserved closed, slots := kept }, closed)

def debug (pool : Pool ρ) : String :=
  Text.record "ReaderPool"
    [("slots", toString pool.size), ("capacity", toString pool.capacity)]

end Pool

end SearchPath
