import SearchPath.Proofs.Pool.Slots

/-!
# Pools with their readers mapped

A function on readers acts on slots, pools and leases. The pool never looks at a reader, so it makes
no difference whether the readers are mapped before an operation or after it. For taking a lease
that needs openers that make corresponding readers (`Opener.MapsTo`, `acquire_map`).
-/

namespace SearchPath

variable {σ μ ρ τ : Type}

/-- The slot with its reader mapped. -/
def Slot.map (f : ρ → τ) (slot : Slot ρ) : Slot τ :=
  ⟨slot.reader.map f, slot.leases⟩

/-- The pool with all its readers mapped. -/
def Pool.map (f : ρ → τ) (pool : Pool ρ) : Pool τ :=
  ⟨pool.capacity, pool.reserved, pool.slots.map fun entry => (entry.1, entry.2.map f)⟩

/-- The lease with its reader mapped. -/
def Lease.map (f : ρ → τ) (lease : Lease ρ) : Lease τ :=
  ⟨lease.key, f lease.reader⟩

@[simp] theorem Lease.key_map (f : ρ → τ) (lease : Lease ρ) : (lease.map f).key = lease.key := rfl

@[simp] theorem Lease.reader_map (f : ρ → τ) (lease : Lease ρ) :
    (lease.map f).reader = f lease.reader := rfl

/-- Whatever the first opener makes and remembers, the second makes and remembers the image of
it. -/
def Opener.MapsTo (f : ρ → τ) (g : σ → μ) (opener : Opener σ ρ) (image : Opener μ τ) : Prop :=
  ∀ module memory,
    image module (g memory) = ((opener module memory).1.map f, g (opener module memory).2)

namespace Pool

/-! ## Asking -/

theorem slot?_map (f : ρ → τ) (pool : Pool ρ) (key : ContainerId) :
    (pool.map f).slot? key = (pool.slot? key).map (Slot.map f) :=
  Table.get?_map (Slot.map f) ⟨pool.slots⟩ key

theorem leases_map (f : ρ → τ) (pool : Pool ρ) (key : ContainerId) :
    (pool.map f).leases key = pool.leases key := by
  unfold leases
  rw [slot?_map]
  cases pool.slot? key <;> rfl

theorem reader?_map (f : ρ → τ) (pool : Pool ρ) (key : ContainerId) :
    (pool.map f).reader? key = (pool.reader? key).map f := by
  unfold reader?
  rw [slot?_map]
  cases pool.slot? key <;> rfl

theorem refuses_map (f : ρ → τ) (pool : Pool ρ) (key : ContainerId) :
    (pool.map f).Refuses key ↔ pool.Refuses key := by
  unfold Refuses
  rw [slot?_map, Option.map_eq_none_iff]
  rfl

/-! ## Changing -/

theorem modify_map {f : ρ → τ} {change : Slot ρ → Slot ρ} {image : Slot τ → Slot τ}
    (h : ∀ slot, image (slot.map f) = (change slot).map f) (pool : Pool ρ) (key : ContainerId) :
    (pool.map f).modify key image = (pool.modify key change).map f := by
  unfold Pool.map modify
  dsimp only
  rw [List.map_map, List.map_map]
  congr 1
  refine List.map_congr_left fun entry _ => ?_
  dsimp only [Function.comp_apply]
  split_ifs
  · rw [h]
  · rfl

theorem release_map (f : ρ → τ) (pool : Pool ρ) (key : ContainerId) :
    (pool.map f).release key = (pool.release key).map f := by
  unfold release
  refine modify_map (fun _ => ?_) pool key
  rfl

theorem filled_map (f : ρ → τ) (pool : Pool ρ) (key : ContainerId) (reader : ρ) :
    (pool.map f).filled key (f reader) = (pool.filled key reader).map f := by
  unfold filled
  refine modify_map (fun _ => ?_) pool key
  rfl

theorem lent_map (f : ρ → τ) (pool : Pool ρ) (key : ContainerId) :
    (pool.map f).lent key = (pool.lent key).map f := by
  unfold lent
  rw [slot?_map]
  cases pool.slot? key with
  | some slot =>
    refine modify_map (fun _ => ?_) pool key
    rfl
  | none =>
    unfold Pool.map
    dsimp only [Option.map_none]
    rw [List.map_append]
    rfl

theorem acquire_map {f : ρ → τ} {g : σ → μ} {opener : Opener σ ρ} {image : Opener μ τ}
    (h : opener.MapsTo f g image) (pool : Pool ρ) (memory : σ) (module : Module) :
    (pool.map f).acquire image (g memory) module =
      Prod.map (Except.map (Lease.map f)) (Prod.map (Pool.map f) g)
        (pool.acquire opener memory module) := by
  unfold acquire
  by_cases hr : pool.Refuses module.key
  · rw [reserve_of_refuses hr, reserve_of_refuses ((refuses_map f pool _).2 hr)]
    rfl
  rw [reserve_of_not_refuses hr, reserve_of_not_refuses (mt (refuses_map f pool _).1 hr),
    reader?_map, lent_map]
  cases hc : pool.reader? module.key with
  | some reader => rfl
  | none =>
    dsimp only [Option.map_none]
    rw [h]
    rcases opener module memory with ⟨fault | reader, after⟩
    · exact congrArg (fun pool => (Except.error fault, pool, g after)) (release_map f _ _)
    · exact congrArg (fun pool => (Except.ok (Lease.map f ⟨module.key, reader⟩), pool, g after))
        (filled_map f _ _ reader)

theorem close_map (f : ρ → τ) (pool : Pool ρ) :
    (pool.map f).close = Prod.map (Pool.map f) id pool.close := by
  unfold close Pool.map
  dsimp only
  rw [List.filter_map, List.length_map, List.length_map]
  rfl

end Pool

end SearchPath
