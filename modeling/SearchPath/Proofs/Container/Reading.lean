import SearchPath.Container.Any
import SearchPath.Proofs.Container.Stream
import SearchPath.Proofs.Session.Ledger

/-!
# Reading whole and reading piece by piece

A resource is read as a whole or opened as a stream. Some containers read it whole by draining the
stream, others open it as a stream over what they have read whole, and both ways agree.

1. `Agree` says so: reading whole gives the octets that every draining of the opened source comes
   to. It fails as opening does, or because every draining fails.
2. They agree for every container (`Container.agree`), and for any sources that hold octets if they
   are read whole by draining them (`agree_wholeBy`).
3. A handle that gets a lease on a reader gives what the reader reads whole, be it as a buffer, by
   loading it, or by draining its stream (`Handle.Gets.delivers`).
4. Main result (`readings_agree`): all of that.
-/

namespace SearchPath

/-! ## Agreement -/

section Sources

variable {σ : Type} {opened : Except ContainerFault σ} {answers : σ → List Nat → List ReadAnswer}
  {whole : Except ContainerFault (List UInt8)} {read : σ → Nat → ReadAnswer × σ}

/-- A resource read as a whole, and the source opened for it. -/
structure Agree (opened : Except ContainerFault σ) (answers : σ → List Nat → List ReadAnswer)
    (whole : Except ContainerFault (List UInt8)) : Prop where
  ok_iff : ∀ bytes, whole = .ok bytes ↔
    ∃ source, opened = .ok source ∧ DrainsTo (answers source) (.ok bytes)
  /-- A failure of the source is one of the system. Any other stems from opening it. -/
  error_iff : ∀ fault, whole = .error fault ↔ opened = .error fault ∨
    ∃ source text, opened = .ok source ∧ DrainsTo (answers source) (.error text) ∧
      fault = .io text

/-- What reading whole comes to if opening and draining come to this. -/
def wholeOf (opened : Except ContainerFault σ) (outcome : σ → ReadAnswer) :
    Except ContainerFault (List UInt8) :=
  opened.bind fun source => (outcome source).mapError ContainerFault.io

theorem wholeOf_eq_ok_iff {outcome : σ → ReadAnswer} {bytes : List UInt8} :
    wholeOf opened outcome = .ok bytes ↔
      ∃ source, opened = .ok source ∧ outcome source = .ok bytes := by
  cases opened with
  | error fault => simp [wholeOf, Except.bind]
  | ok source => cases ho : outcome source <;> simp [wholeOf, Except.bind, Except.mapError, ho]

theorem wholeOf_eq_error_iff {outcome : σ → ReadAnswer} {fault : ContainerFault} :
    wholeOf opened outcome = .error fault ↔ opened = .error fault ∨
      ∃ source text, opened = .ok source ∧ outcome source = .error text ∧ fault = .io text := by
  cases opened with
  | error other => simp [wholeOf, Except.bind]
  | ok source =>
    cases ho : outcome source <;> simp [wholeOf, Except.bind, Except.mapError, ho, eq_comm]

theorem agree_wholeOf {outcome : σ → ReadAnswer}
    (h : ∀ source, opened = .ok source → DrainsTo (answers source) (outcome source)) :
    Agree opened answers (wholeOf opened outcome) where
  ok_iff bytes := by
    rw [wholeOf_eq_ok_iff]
    refine exists_congr fun source => and_congr_right fun hs => ?_
    exact (h source hs).iff_eq.symm
  error_iff fault := by
    rw [wholeOf_eq_error_iff]
    refine or_congr_right (exists₂_congr fun source text => and_congr_right fun hs => ?_)
    exact and_congr_left' (h source hs).iff_eq.symm

/-! ## Reading whole by draining -/

/-- Opens a source and reads it to the end by reads of these sizes. Nothing comes of it as long as
they do not reach the end. -/
def wholeBy (read : σ → Nat → ReadAnswer × σ) (opened : Except ContainerFault σ)
    (sizes : List Nat) : Option (Except ContainerFault (List UInt8)) :=
  match opened with
  | .error fault => some (.error fault)
  | .ok source => (gather (readAll read source sizes)).map fun found =>
    found.mapError ContainerFault.io

/-- How a resource is read whole by draining the source that is opened for it. -/
structure WholeByDraining (read : σ → Nat → ReadAnswer × σ) (opened : Except ContainerFault σ)
    (whole : Except ContainerFault (List UInt8)) : Prop where
  settles : Settles (wholeBy read opened) whole
  agree : Agree opened (readAll read) whole
  /-- Of a source that breaks midway nothing is delivered. -/
  breaks : ∀ source bytes text, opened = .ok source → Holds read source bytes (some text) →
    whole = .error (.io text)

theorem wholeByDraining_wholeOf (outcome : σ → ReadAnswer)
    (h : ∀ source, opened = .ok source → DrainsTo (readAll read source) (outcome source)) :
    WholeByDraining read opened (wholeOf opened outcome) where
  settles := by
    cases opened with
    | error fault => exact ⟨fun _ _ _ hfound => (Option.some.inj hfound).symm, 0, fun _ _ _ => rfl⟩
    | ok source => exact (h source rfl).map fun found => found.mapError ContainerFault.io
  agree := agree_wholeOf h
  breaks source bytes text hs hbroken := wholeOf_eq_error_iff.2
    (.inr ⟨source, text, hs, (h source hs).unique hbroken.drainsTo, rfl⟩)

/-- **Any sources.** What is read whole does not depend on how many octets a source gives at a
time, and how many are asked for. -/
theorem exists_wholeByDraining
    (h : ∀ source, opened = .ok source → ∃ bytes failure, Holds read source bytes failure) :
    ∃ whole, WholeByDraining read opened whole := by
  cases opened with
  | error fault =>
    exact ⟨_, wholeByDraining_wholeOf (fun _ => .ok []) nofun⟩
  | ok source =>
    obtain ⟨bytes, failure, hholds⟩ := h source rfl
    refine ⟨_, wholeByDraining_wholeOf (fun _ => outcomeOf bytes failure) ?_⟩
    intro other he
    cases he
    exact hholds.drainsTo

end Sources

/-! ## Containers -/

theorem octetsByStream_eq (stream : String → Except ContainerFault ByteStream) (path : String) :
    octetsByStream stream path = wholeOf (stream path) ByteStream.outcome := by
  unfold octetsByStream wholeOf ByteStream.outcome
  cases stream path with
  | error fault => rfl
  | ok opened =>
    dsimp only [bind, Except.bind]
    generalize opened.readToEnd = read
    obtain ⟨bytes, failure, rest⟩ := read
    cases failure <;> rfl

theorem wholeOf_streamByOctets (octets : String → Except ContainerFault (List UInt8))
    (path : String) : wholeOf (streamByOctets octets path) ByteStream.outcome = octets path := by
  unfold streamByOctets wholeOf
  cases octets path with
  | error fault => rfl
  | ok bytes =>
    show (ByteStream.ofOctets bytes).outcome.mapError ContainerFault.io = .ok bytes
    rw [ByteStream.outcome_ofOctets]
    rfl

theorem agree_octetsByStream (stream : String → Except ContainerFault ByteStream)
    (path : String) : Agree (stream path) ByteStream.answers (octetsByStream stream path) := by
  rw [octetsByStream_eq]
  exact agree_wholeOf fun source _ => source.drainsTo

theorem agree_streamByOctets (octets : String → Except ContainerFault (List UInt8))
    (path : String) : Agree (streamByOctets octets path) ByteStream.answers (octets path) := by
  rw [← wholeOf_streamByOctets octets path]
  exact agree_wholeOf fun source _ => source.drainsTo

/-- Reading a stream to the end is one of the ways of draining it. -/
theorem wholeByDraining_octetsByStream (stream : String → Except ContainerFault ByteStream)
    (path : String) :
    WholeByDraining ByteStream.read (stream path) (octetsByStream stream path) := by
  rw [octetsByStream_eq]
  refine wholeByDraining_wholeOf _ fun source _ => ?_
  rw [← source.answers_eq]
  exact source.drainsTo

/-- **Containers.** Whichever of the two ways a container has of its own, they agree. -/
theorem Container.agree (container : Container) (path : String) :
    Agree (Readable.stream container path) ByteStream.answers (Readable.octets container path) := by
  cases container with
  | memory container => exact agree_streamByOctets container.octets path
  | scripted container => exact agree_octetsByStream container.stream path
  | directory container => exact agree_octetsByStream container.stream path
  | archive container => exact agree_streamByOctets container.octets path
  | image container => exact agree_streamByOctets container.octets path

/-! ## Handles -/

namespace Handle

variable {σ ρ : Type}

/-- The answers to reads of these sizes from the stream of the handle. -/
def answers (handle : Handle ρ) (sizes : List Nat) : List ReadAnswer :=
  match (handle.drain (.reads sizes)).1 with
  | some (.reads answers) => answers
  | _ => []

/-- The handle is closed, and the pool gives it a lease on this reader. -/
def Gets (opener : Opener σ ρ) (handle : Handle ρ) (pool : Pool ρ) (memory : σ)
    (reader : ρ) : Prop :=
  handle.isOpen = false ∧
    ∃ lease, (pool.acquire opener memory handle.module).1 = .ok lease ∧ lease.reader = reader

variable {opener : Opener σ ρ} {handle : Handle ρ} {pool : Pool ρ} {memory : σ} {reader : ρ}
  {lease : Lease ρ} {stream : ByteStream}

theorem answers_of_scope (h : handle.scope = .streaming lease stream) :
    handle.answers = stream.answers := by
  funext sizes
  unfold answers drain
  rw [h]
  rfl

theorem drain_toEnd_of_scope {bytes : List UInt8} (h : handle.scope = .streaming lease stream) :
    (handle.drain .toEnd).1 = some (.whole bytes none) ↔ stream.outcome = .ok bytes := by
  rw [ByteStream.outcome_eq_ok_iff]
  unfold drain
  rw [h]
  simp [ByteStream.drain]

theorem drain_fst_of_closed (h : handle.isOpen = false) (how : ByteStream.Draining) :
    (handle.drain how).1 = none := by
  unfold isOpen at h
  unfold drain
  cases hscope : handle.scope with
  | closed => rfl
  | buffered lease buffer => rfl
  | streaming lease stream =>
    rw [hscope] at h
    cases h

/-- The lease on the reader is what the handle is opened with. -/
theorem Gets.exists_lease (h : Gets opener handle pool memory reader) :
    ∃ (lease : Lease ρ) (after : Pool ρ) (left : σ), lease.reader = reader ∧
      ∀ {α : Type} (use : Lease ρ → Except ContainerFault (α × Handle ρ)),
        handle.openWith opener pool memory use =
          match use lease with
          | .error e => ⟨.error (.container e), handle, after.release lease.key, left⟩
          | .ok (answer, opened) => ⟨.ok answer, opened, after, left⟩ := by
  obtain ⟨hclosed, lease, hlease, hreader⟩ := h
  rcases ha : pool.acquire opener memory handle.module with ⟨answer, after, left⟩
  rw [ha] at hlease
  refine ⟨lease, after, left, hreader, fun use => ?_⟩
  obtain rfl : answer = .ok lease := hlease
  unfold openWith
  cases huse : use lease with
  | error fault =>
    rw [hclosed, if_neg Bool.false_ne_true, ha]
    dsimp only
    rw [huse]
  | ok found =>
    rw [hclosed, if_neg Bool.false_ne_true, ha]
    dsimp only
    rw [huse]

variable [Readable ρ]

/-- In each of the ways the handle delivers what its reader reads whole. -/
structure Delivers (opener : Opener σ ρ) (handle : Handle ρ) (pool : Pool ρ) (memory : σ)
    (whole : Except ContainerFault (List UInt8)) : Prop where
  buffered : ∀ bytes,
    (handle.openBuffered opener pool memory).answer = .ok bytes ↔ whole = .ok bytes
  loaded : ∀ bytes,
    (handle.load opener pool memory).1.answer = .ok bytes ↔ whole = .ok bytes
  streamed : ∀ bytes, (handle.openStreaming opener pool memory).answer = .ok () ∧
    DrainsTo (handle.openStreaming opener pool memory).handle.answers (.ok bytes) ↔
      whole = .ok bytes
  streamed_to_end : ∀ bytes,
    ((handle.openStreaming opener pool memory).handle.drain .toEnd).1 = some (.whole bytes none) ↔
      whole = .ok bytes

theorem Gets.answer_openBuffered (h : Gets opener handle pool memory reader) :
    (handle.openBuffered opener pool memory).answer =
      (Readable.octets reader handle.path).mapError Error.container := by
  obtain ⟨lease, after, left, rfl, hopen⟩ := h.exists_lease
  rw [openBuffered, hopen]
  cases Readable.octets lease.reader handle.path <;> rfl

theorem Gets.openStreaming_cases (h : Gets opener handle pool memory reader) :
    (∃ fault, Readable.stream reader handle.path = .error fault ∧
      (handle.openStreaming opener pool memory).answer = .error (.container fault) ∧
      (handle.openStreaming opener pool memory).handle = handle) ∨
    ∃ stream lease, Readable.stream reader handle.path = .ok stream ∧
      (handle.openStreaming opener pool memory).answer = .ok () ∧
      (handle.openStreaming opener pool memory).handle.scope = .streaming lease stream := by
  obtain ⟨lease, after, left, rfl, hopen⟩ := h.exists_lease
  rw [openStreaming, hopen]
  cases Readable.stream lease.reader handle.path with
  | error fault => exact .inl ⟨fault, rfl, rfl, rfl⟩
  | ok stream => exact .inr ⟨stream, lease, rfl, rfl, rfl⟩

/-- **Handles.** What the reader reads whole is what the handle delivers. -/
theorem Gets.delivers (h : Gets opener handle pool memory reader)
    (hagree : Agree (Readable.stream reader handle.path) ByteStream.answers
      (Readable.octets reader handle.path)) :
    Delivers opener handle pool memory (Readable.octets reader handle.path) := by
  have hbuffered (bytes : List UInt8) :
      (handle.openBuffered opener pool memory).answer = .ok bytes ↔
        Readable.octets reader handle.path = .ok bytes := by
    rw [h.answer_openBuffered]
    cases Readable.octets reader handle.path <;> simp [Except.mapError]
  refine ⟨hbuffered, fun bytes => ?_, fun bytes => ?_, fun bytes => ?_⟩
  · rw [(handle.load_eq opener pool memory).1]
    exact hbuffered bytes
  · rw [hagree.ok_iff]
    rcases h.openStreaming_cases with ⟨fault, hs, hanswer, -⟩ | ⟨stream, lease, hs, hanswer, hscope⟩
    · rw [hs, hanswer]
      simp
    · rw [hs, hanswer, answers_of_scope hscope]
      simp
  · rw [hagree.ok_iff]
    rcases h.openStreaming_cases with ⟨fault, hs, -, hhandle⟩ | ⟨stream, lease, hs, -, hscope⟩
    · rw [hs, hhandle, drain_fst_of_closed h.1]
      simp
    · rw [hs, drain_toEnd_of_scope hscope, ← stream.drainsTo.iff_eq]
      simp

end Handle

/-! ## All readings -/

/-- **Reading whole and piece by piece.** Every container reads a resource whole as it streams it.
So does whatever is read whole by draining, be it the stream of a container or any source that holds
octets. And so does a handle, in each of its ways. -/
theorem readings_agree :
    (∀ (container : Container) (path : String),
      Agree (Readable.stream container path) ByteStream.answers
        (Readable.octets container path)) ∧
    (∀ (stream : String → Except ContainerFault ByteStream) (path : String),
      WholeByDraining ByteStream.read (stream path) (octetsByStream stream path)) ∧
    (∀ (σ : Type) (read : σ → Nat → ReadAnswer × σ) (opened : Except ContainerFault σ),
      (∀ source, opened = .ok source → ∃ bytes failure, Holds read source bytes failure) →
        ∃ whole, WholeByDraining read opened whole) ∧
    ∀ (σ : Type) (opener : Opener σ Container) (handle : Handle Container)
      (pool : Pool Container) (memory : σ) (reader : Container),
      handle.Gets opener pool memory reader →
        handle.Delivers opener pool memory (Readable.octets reader handle.path) :=
  ⟨Container.agree, wholeByDraining_octetsByStream, fun _ _ _ => exists_wholeByDraining,
    fun _ _ handle _ _ reader h => h.delivers (reader.agree handle.path)⟩

/-- A source that gives one octet at a time and breaks, and a handle on a resource that is streamed
two octets at a time. -/
theorem readings_agree_in_pieces :
    let read (source : List UInt8) (_ : Nat) : ReadAnswer × List UInt8 :=
      match source with
      | [] => (.error "broke", [])
      | b :: rest => (.ok [b], rest)
    let scripted : ScriptedContainer := ⟨⟨[("x", [1, 2, 3])]⟩, none, none, some 2, none⟩
    let handle : Handle Container := .fresh "x" (.named "m")
    let memory : List Listing := [⟨.named "m", .scripted scripted, none⟩]
    Holds read [1, 2] [1, 2] (some "broke") ∧
      WholeByDraining read (.ok [1, 2]) (.error (.io "broke")) ∧
      handle.Gets openListed (.empty 1) memory (.scripted scripted) ∧
      handle.Delivers openListed (.empty 1) memory (.ok [1, 2, 3]) := by
  intro read scripted handle memory
  have hread (source : List UInt8) : Holds read source source (some "broke") := by
    induction source with
    | nil => exact .broken fun _ _ => rfl
    | cons b rest ih =>
      refine .more (fun _ => 1) (fun size hsize => ?_) (fun _ _ => rfl) fun _ _ => ih
      exact ⟨Nat.one_pos, hsize, Nat.succ_le_succ (Nat.zero_le rest.length)⟩
  have hgets : handle.Gets openListed (.empty 1) memory (.scripted scripted) :=
    ⟨rfl, ⟨handle.module.key, .scripted scripted⟩, rfl, rfl⟩
  obtain ⟨-, -, hsources, hhandles⟩ := readings_agree
  obtain ⟨whole, hwhole⟩ := hsources (List UInt8) read (.ok [1, 2]) fun source _ =>
    ⟨source, some "broke", hread source⟩
  have hbroken := hwhole.breaks [1, 2] [1, 2] "broke" rfl (hread [1, 2])
  have hoctets : Readable.octets (Container.scripted scripted) "x" = .ok [1, 2, 3] := by
    refine (octetsByStream_eq scripted.stream "x").trans (wholeOf_eq_ok_iff.2 ?_)
    exact ⟨⟨[1, 2, 3], 0, some 2, none⟩, rfl, (ByteStream.outcome_eq _).trans rfl⟩
  have hdelivers := hhandles _ openListed handle (.empty 1) memory (.scripted scripted) hgets
  exact ⟨hread [1, 2], hbroken ▸ hwhole, hgets, hoctets ▸ hdelivers⟩

end SearchPath
