import SearchPath.Proofs.Session.Holders

/-!
# Runs of a session

The leases that are outstanding in a session are those kept under a name of their own and those
inside open handles. A session is `Sound` when its pool is balanced with them and no name stands for
two holders. Every step keeps that (`Sound.perform`), so it holds after every run that started
without holders (`sound_after`).
-/

namespace SearchPath.Session

open Pool

variable {σ ρ : Type}

/-! ## Outstanding leases -/

/-- The leases that are out: those kept under a name, and those inside open handles. -/
def outstanding (session : Session σ ρ) : List (Lease ρ) :=
  session.leases.values ++ session.handles.values.filterMap Handle.lease?

/-- The leases that are out, but for the one inside the handle of a name. -/
def othersThan (session : Session σ ρ) (name : String) : List (Lease ρ) :=
  session.leases.values ++ (session.handles.erase name).values.filterMap Handle.lease?

theorem filterMap_lease?_cons (handle : Handle ρ) (rest : List (Handle ρ)) :
    (handle :: rest).filterMap Handle.lease? =
      handle.lease?.toList ++ rest.filterMap Handle.lease? := by
  rw [List.filterMap_cons]
  cases handle.lease? <;> rfl

/-- Where the handles are one handle and those under other names, so are the leases. -/
theorem append_filterMap_lease?_perm {held : List (Lease ρ)} {handles others : List (Handle ρ)}
    {handle : Handle ρ} (h : handles.Perm (handle :: others)) :
    (held ++ handles.filterMap Handle.lease?).Perm
      (handle.lease?.toList ++ (held ++ others.filterMap Handle.lease?)) := by
  have hp := h.filterMap Handle.lease?
  rw [filterMap_lease?_cons] at hp
  exact (hp.append_left held).trans (List.perm_append_comm_assoc _ _ _)

theorem outstanding_perm {session : Session σ ρ} {name : String} {handle : Handle ρ}
    (hd : session.handles.names.Nodup) (h : session.handles.get? name = some handle) :
    session.outstanding.Perm (handle.lease?.toList ++ session.othersThan name) :=
  append_filterMap_lease?_perm (Table.values_perm_of_get? hd h)

theorem othersThan_eq_outstanding {session : Session σ ρ} {name : String}
    (h : session.handles.get? name = none) : session.othersThan name = session.outstanding := by
  unfold othersThan outstanding
  rw [Table.erase_of_get?_eq_none h]

/-! ## Sound sessions -/

/-- The pool agrees with the leases that are out, and no name stands for two holders. -/
structure Sound (session : Session σ ρ) : Prop where
  balanced : session.pool.Balanced session.outstanding
  leases_nodup : session.leases.names.Nodup
  handles_nodup : session.handles.names.Nodup

theorem sound_empty (capacity : Nat) (memory : σ) : (empty capacity memory : Session σ ρ).Sound :=
  ⟨balanced_empty capacity, List.nodup_nil, List.nodup_nil⟩

/-- A session with the same holders and a pool balanced with their leases. -/
theorem Sound.of_pool {session next : Session σ ρ} (h : session.Sound)
    (hl : next.leases = session.leases) (hh : next.handles = session.handles)
    (hb : next.pool.Balanced session.outstanding) : next.Sound where
  balanced := by
    rw [outstanding, hl, hh]
    exact hb
  leases_nodup := hl ▸ h.leases_nodup
  handles_nodup := hh ▸ h.handles_nodup

/-- A session in which one handle is put, and a pool balanced with its lease and the others. -/
theorem Sound.of_put_handle {session next : Session σ ρ} (h : session.Sound) {name : String}
    {handle : Handle ρ} (hl : next.leases = session.leases)
    (hh : next.handles = session.handles.put name handle)
    (hb : next.pool.Balanced (handle.lease?.toList ++ session.othersThan name)) : next.Sound where
  balanced := by
    rw [outstanding, hl, hh]
    exact hb.perm
      (append_filterMap_lease?_perm (Table.values_put_perm h.handles_nodup name handle)).symm
  leases_nodup := hl ▸ h.leases_nodup
  handles_nodup := hh ▸ Table.nodup_names_put h.handles_nodup name handle

/-- The pool of a sound session, with one handle set apart. -/
theorem Sound.balanced_othersThan {session : Session σ ρ} (h : session.Sound) {name : String}
    {handle : Handle ρ} (hg : session.handles.get? name = some handle) :
    session.pool.Balanced (handle.lease?.toList ++ session.othersThan name) :=
  h.balanced.perm (outstanding_perm h.handles_nodup hg)

/-! ## Holders that go -/

theorem leases_dropLease (session : Session σ ρ) (name : String) :
    (session.dropLease name).leases = session.leases.erase name := by
  unfold Session.dropLease
  cases hg : session.leases.get? name with
  | none => exact (Table.erase_of_get?_eq_none hg).symm
  | some lease => rfl

theorem handles_dropLease (session : Session σ ρ) (name : String) :
    (session.dropLease name).handles = session.handles := by
  unfold Session.dropLease
  cases session.leases.get? name <;> rfl

/-- The lease under a name is given back, whatever other leases are held meanwhile. -/
theorem dropLease_balanced {session : Session σ ρ} (held : List (Lease ρ))
    (hd : session.leases.names.Nodup) (h : session.pool.Balanced (held ++ session.outstanding))
    (name : String) :
    (session.dropLease name).pool.Balanced (held ++ (session.dropLease name).outstanding) := by
  unfold outstanding
  rw [leases_dropLease, handles_dropLease]
  unfold Session.dropLease
  cases hg : session.leases.get? name with
  | none =>
    rw [Table.erase_of_get?_eq_none hg]
    exact h
  | some lease =>
    have hperm := ((Table.values_perm_of_get? hd hg).append_right
      (session.handles.values.filterMap Handle.lease?)).append_left held
    exact (h.perm (hperm.trans List.perm_middle)).release

theorem Sound.dropLease {session : Session σ ρ} (h : session.Sound) (name : String) :
    (session.dropLease name).Sound where
  balanced := dropLease_balanced [] h.leases_nodup h.balanced name
  leases_nodup := leases_dropLease session name ▸ Table.nodup_names_erase h.leases_nodup name
  handles_nodup := handles_dropLease session name ▸ h.handles_nodup

theorem Sound.dropHandle {session : Session σ ρ} (h : session.Sound) (name : String) :
    (session.dropHandle name).2.Sound := by
  unfold Session.dropHandle
  cases hg : session.handles.get? name with
  | none => exact h
  | some handle =>
    have hclosed := Handle.close_balanced (h.balanced_othersThan hg)
    rw [Handle.lease?_close] at hclosed
    exact ⟨hclosed, h.leases_nodup, Table.nodup_names_erase h.handles_nodup name⟩

theorem get?_handles_dropHandle (session : Session σ ρ) (name : String) :
    (session.dropHandle name).2.handles.get? name = none := by
  unfold Session.dropHandle
  cases hg : session.handles.get? name with
  | none => exact hg
  | some handle =>
    show (session.handles.erase name).get? name = none
    rw [Table.get?_erase, if_pos rfl]

/-! ## Holders that come -/

/-- A closed handle is kept in place of what the name stood for. -/
theorem Sound.keepHandle {session : Session σ ρ} (h : session.Sound) (name : String)
    {handle : Handle ρ} (hc : handle.lease? = none) : (session.keepHandle name handle).2.Sound := by
  have hdropped := h.dropHandle name
  refine hdropped.of_put_handle rfl rfl ?_
  rw [hc, othersThan_eq_outstanding (session.get?_handles_dropHandle name)]
  exact hdropped.balanced

/-- A lease that was just taken is kept in place of what the name stood for. -/
theorem sound_putLease (session : Session σ ρ) {lease : Lease ρ}
    (hl : session.leases.names.Nodup) (hh : session.handles.names.Nodup)
    (hb : session.pool.Balanced (lease :: session.outstanding)) (name : String) :
    Sound { session.dropLease name with
      leases := (session.dropLease name).leases.put name lease } := by
  have hd : (session.dropLease name).leases.names.Nodup :=
    leases_dropLease session name ▸ Table.nodup_names_erase hl name
  have hgone : (session.dropLease name).leases.get? name = none := by
    rw [leases_dropLease, Table.get?_erase, if_pos rfl]
  have hput := Table.values_put_perm hd name lease
  rw [Table.erase_of_get?_eq_none hgone] at hput
  exact ⟨(dropLease_balanced [lease] hl hb name).perm (hput.append_right _).symm,
    Table.nodup_names_put hd name lease, handles_dropLease session name ▸ hh⟩

/-! ## Steps -/

theorem Sound.onHandle {α : Type} {session : Session σ ρ} (h : session.Sound) (name : String)
    {call : Handle ρ → Pool ρ → Recorded σ →
      Handle.Outcome α (Recorded σ) ρ × Option (Returned ρ)}
    (reply : Except Error α → Reply ρ)
    (hcall : ∀ handle pool memory rest, pool.Balanced (handle.lease?.toList ++ rest) →
      (call handle pool memory).1.pool.Balanced
        ((call handle pool memory).1.handle.lease?.toList ++ rest)) :
    (session.onHandle name call reply).session.Sound := by
  unfold Session.onHandle
  cases hg : session.handles.get? name with
  | none => exact h
  | some handle =>
    exact h.of_put_handle rfl rfl (hcall handle _ _ _ (h.balanced_othersThan hg))

theorem Sound.acquire {session : Session σ ρ} (h : session.Sound) (opener : Opener σ ρ)
    (name : String) (module : Module) : (session.acquire opener name module).session.Sound := by
  unfold Session.acquire
  have hacq := h.balanced.acquire (recording opener) (session.memory, []) module
  rcases ha : session.pool.acquire (recording opener) (session.memory, []) module with
    ⟨fault | lease, pool, memory, asked⟩
  · rw [ha] at hacq
    exact h.of_pool rfl rfl hacq
  · rw [ha] at hacq
    exact sound_putLease { session with pool := pool, memory := memory }
      h.leases_nodup h.handles_nodup hacq name

theorem Sound.keep {session : Session σ ρ} (h : session.Sound) (name : String) {handle : Handle ρ}
    (hc : handle.lease? = none) : (session.keep name handle).session.Sound :=
  h.keepHandle name hc

theorem Sound.take {session : Session σ ρ} (h : session.Sound) (harvest : String) (index : Nat)
    (name : String) : (session.take harvest index name).session.Sound := by
  unfold Session.take
  cases session.harvests.get? harvest with
  | none => exact h
  | some found =>
    dsimp only
    cases (found.paths[index]?).join with
    | none => exact h
    | some path =>
      have hs : Sound { session with
          harvests := session.harvests.put harvest
            { found with paths := found.paths.set index none } } := h.of_pool rfl rfl h.balanced
      exact hs.keep name (Handle.lease?_fresh path found.module)

section Steps

variable [Readable ρ]

theorem Sound.scan {session : Session σ ρ} (h : session.Sound) (opener : Opener σ ρ)
    (tree : FileTree) (name : String) (harvest : Option String) :
    (session.scan opener tree name harvest).session.Sound := by
  unfold Session.scan
  cases session.scanners.get? name with
  | none => exact h
  | some scanner =>
    exact h.of_pool rfl rfl (Scanner.scan_balanced (recording opener) tree scanner _ h.balanced)

/-- **Step.** No step of any holder takes the pool out of balance. -/
theorem Sound.perform {session : Session σ ρ} (h : session.Sound) (opener : Opener σ ρ)
    (tree : FileTree) (step : Step) : (session.perform opener tree step).session.Sound := by
  cases step with
  | acquire name module => exact h.acquire opener name module
  | release name => exact h.dropLease name
  | closePool => exact h.of_pool rfl rfl h.balanced.close
  | prepare name module policy => exact h.of_pool rfl rfl h.balanced
  | scan name harvest => exact h.scan opener tree name harvest
  | find name path handle =>
    dsimp only [Session.perform]
    cases session.scanners.get? name with
    | none => exact h
    | some scanner =>
      dsimp only
      cases hf : scanner.handle? (ρ := ρ) path with
      | none => exact h
      | some found => exact h.keep handle (Scanner.lease?_of_handle? hf)
  | take harvest index name => exact h.take harvest index name
  | openBuffered name =>
    exact h.onHandle name _ fun _ _ memory _ => Handle.openBuffered_balanced _ memory
  | load name => exact h.onHandle name _ fun _ _ memory _ => Handle.load_balanced _ memory
  | openStreaming name =>
    exact h.onHandle name _ fun _ _ memory _ => Handle.openStreaming_balanced _ memory
  | drain name how =>
    dsimp only [Session.perform]
    cases hg : session.handles.get? name with
    | none => exact h
    | some handle =>
      refine h.of_put_handle rfl rfl ?_
      rw [Handle.lease?_drain]
      exact h.balanced_othersThan hg
  | closeHandle name =>
    dsimp only [Session.perform]
    cases hg : session.handles.get? name with
    | none => exact h
    | some handle =>
      exact h.of_put_handle rfl rfl (Handle.close_balanced (h.balanced_othersThan hg))
  | dropHandle name => exact h.dropHandle name

/-! ## Runs -/

/-- The session that steps leave. -/
def after (opener : Opener σ ρ) (tree : FileTree) (session : Session σ ρ) (steps : List Step) :
    Session σ ρ :=
  (session.performAll opener tree steps).session

theorem session_foldl_perform (opener : Opener σ ρ) (tree : FileTree) (steps : List Step) :
    ∀ turn : Turn σ ρ,
      (steps.foldl
        (fun turn step =>
          let next := turn.session.perform opener tree step
          ⟨next.reply, turn.events ++ next.events, next.session⟩) turn).session =
      steps.foldl (fun session step => (session.perform opener tree step).session)
        turn.session := by
  induction steps with
  | nil => exact fun _ => rfl
  | cons step rest ih => exact fun turn => ih _

theorem after_eq_foldl (opener : Opener σ ρ) (tree : FileTree) (session : Session σ ρ)
    (steps : List Step) :
    session.after opener tree steps =
      steps.foldl (fun session step => (session.perform opener tree step).session) session :=
  session_foldl_perform opener tree steps ⟨.done, [], session⟩

theorem after_cons (opener : Opener σ ρ) (tree : FileTree) (session : Session σ ρ) (step : Step)
    (rest : List Step) :
    session.after opener tree (step :: rest) =
      (session.perform opener tree step).session.after opener tree rest := by
  rw [after_eq_foldl, after_eq_foldl, List.foldl_cons]

/-- What every step of a run keeps holds after the run. -/
theorem after_invariant {P : Session σ ρ → Prop} {opener : Opener σ ρ} {tree : FileTree}
    {session : Session σ ρ} (h : P session) {steps : List Step}
    (hsteps : ∀ step ∈ steps, ∀ before : Session σ ρ, P before →
      P (before.perform opener tree step).session) :
    P (session.after opener tree steps) := by
  induction steps generalizing session with
  | nil => exact h
  | cons step rest ih =>
    rw [after_cons]
    exact ih (hsteps step List.mem_cons_self session h) fun other ho =>
      hsteps other (List.mem_cons_of_mem step ho)

theorem Sound.after {session : Session σ ρ} (h : session.Sound) (opener : Opener σ ρ)
    (tree : FileTree) (steps : List Step) : (session.after opener tree steps).Sound :=
  after_invariant h fun step _ _ hb => hb.perform opener tree step

/-- **Run.** However long a run is, its pool is in balance. -/
theorem sound_after (opener : Opener σ ρ) (tree : FileTree) (capacity : Nat) (memory : σ)
    (steps : List Step) : ((empty capacity memory : Session σ ρ).after opener tree steps).Sound :=
  (sound_empty capacity memory).after opener tree steps

end Steps

end SearchPath.Session
