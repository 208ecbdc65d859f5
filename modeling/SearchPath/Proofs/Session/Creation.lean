import SearchPath.Proofs.Session.Accounts
import SearchPath.Proofs.Session.Map

/-!
# The making of readers

To tell the readers of a run apart, every reader gets a number, and the opener keeps a chronicle of
the questions to it with its answers (`Opener.chronicled`). The opener itself is any opener, and
without numbers and chronicle the run is the one with that opener (`performAll_chronicled`).

1. A move asks for a reader only where the slot has none, and the readers made for a key account
   for the one in its slot (`Chronicled`, `chronicled_moves`).
2. Closing the pool is the only step that removes a slot (`Sound.removes_iff`). Between two such
   steps the readers made for the key account for the one in its slot (`Sound.madeFor_eq_of_keeps`).
3. Main result (`one_reader_per_key`): all leases on a key share one reader, and as long as its slot
   is not removed at most one reader is made for it.
-/

namespace SearchPath

open Pool Relation

variable {σ ρ : Type}

/-! ## Chronicles -/

/-- A reader with its number: its place among the questions to the opener. -/
structure Made (ρ : Type) where
  number : Nat
  reader : ρ
  deriving DecidableEq, Repr

instance [Readable ρ] : Readable (Made ρ) where
  paths made := Readable.paths made.reader
  stream made := Readable.stream made.reader
  octets made := Readable.octets made.reader

/-- A question to an opener, with its answer. -/
abbrev Question (ρ : Type) : Type :=
  Module × Except ContainerFault (Made ρ)

/-- What an opener remembers, and all questions to it. -/
abbrev Chronicle (σ ρ : Type) : Type :=
  σ × List (Question ρ)

/-- The opener with a chronicle, in which the readers it makes are numbered. -/
def Opener.chronicled (opener : Opener σ ρ) : Opener (Chronicle σ ρ) (Made ρ) :=
  fun module (memory, questions) =>
    let (answer, left) := opener module memory
    let numbered := answer.map (Made.mk questions.length)
    (numbered, left, questions ++ [(module, numbered)])

/-- Without its chronicle the opener is what it was. -/
theorem Opener.chronicled_mapsTo (opener : Opener σ ρ) :
    opener.chronicled.MapsTo Made.reader Prod.fst opener := by
  rintro module ⟨memory, questions⟩
  unfold Opener.chronicled
  dsimp only
  rcases opener module memory with ⟨fault | reader, after⟩ <;> rfl

theorem faithful_reader [Readable ρ] : Faithful (Made.reader : Made ρ → ρ) :=
  ⟨fun _ => rfl, fun _ => rfl, fun _ => rfl⟩

/-- The readers made for a key, in order. -/
def madeFor (key : ContainerId) (questions : List (Question ρ)) : List (Made ρ) :=
  questions.filterMap fun question => if question.1.key = key then question.2.toOption else none

theorem madeFor_append (key : ContainerId) (questions more : List (Question ρ)) :
    madeFor key (questions ++ more) = madeFor key questions ++ madeFor key more :=
  List.filterMap_append

/-- The number of a reader is the place of the question to which it was the answer. -/
def Numbered (questions : List (Question ρ)) : Prop :=
  ∀ place module (made : Made ρ), questions[place]? = some (module, .ok made) → made.number = place

theorem numbered_nil : Numbered ([] : List (Question ρ)) := by
  intro place module made h
  cases h

theorem Numbered.chronicled {opener : Opener σ ρ} {module : Module} {chronicle left : Chronicle σ ρ}
    {answer : Except ContainerFault (Made ρ)} (h : Numbered chronicle.2)
    (ha : opener.chronicled module chronicle = (answer, left)) : Numbered left.2 := by
  cases ha
  intro place asked made hm
  dsimp only at hm
  rw [List.getElem?_append] at hm
  split_ifs at hm with hp
  · exact h place asked made hm
  · rw [List.getElem?_singleton] at hm
    split_ifs at hm with hz
    cases ho : (opener module chronicle.1).1 with
    | error fault =>
      rw [ho] at hm
      cases hm
    | ok reader =>
      rw [ho] at hm
      cases hm
      show chronicle.2.length = place
      omega

/-! ## Moves -/

/-- The pool and the chronicle of an opener before and after moves: the opener was asked only where
the slot had no reader, and what it made for a key is the reader in the slot now, unless that was
there before. -/
structure Chronicled (before after : Pool (Made ρ) × Chronicle σ ρ) (new : List (Question ρ)) :
    Prop where
  questions_eq : after.2.2 = before.2.2 ++ new
  reader?_eq_none : ∀ question ∈ new, before.1.reader? question.1.key = none
  madeFor_eq : ∀ key,
    (before.1.reader? key).toList ++ madeFor key new = (after.1.reader? key).toList
  numbered : Numbered before.2.2 → Numbered after.2.2

/-- No question is asked, and every slot keeps its reader. -/
theorem chronicled_of_reader?_eq {pool after : Pool (Made ρ)} (chronicle : Chronicle σ ρ)
    (h : ∀ key, after.reader? key = pool.reader? key) :
    Chronicled (pool, chronicle) (after, chronicle) [] where
  questions_eq := (List.append_nil _).symm
  reader?_eq_none _ hq := absurd hq List.not_mem_nil
  madeFor_eq key := by
    rw [h]
    exact List.append_nil _
  numbered hn := hn

theorem Chronicled.trans {before middle after : Pool (Made ρ) × Chronicle σ ρ}
    {first second : List (Question ρ)} (h : Chronicled before middle first)
    (g : Chronicled middle after second) : Chronicled before after (first ++ second) where
  questions_eq := by rw [g.questions_eq, h.questions_eq, List.append_assoc]
  reader?_eq_none question hq := by
    rcases List.mem_append.1 hq with hq | hq
    · exact h.reader?_eq_none question hq
    · have hm := h.madeFor_eq question.1.key
      rw [g.reader?_eq_none question hq, Option.toList_none, List.append_eq_nil_iff] at hm
      exact Option.toList_eq_nil_iff.1 hm.1
  madeFor_eq key := by
    rw [madeFor_append, ← List.append_assoc, h.madeFor_eq, g.madeFor_eq]
  numbered hn := g.numbered (h.numbered hn)

/-- One question to the chronicled opener: the answer is numbered and noted. -/
theorem chronicled_eq {opener : Opener σ ρ} {module : Module} {chronicle left : Chronicle σ ρ}
    {answer : Except ContainerFault (Made ρ)}
    (ha : opener.chronicled module chronicle = (answer, left)) :
    left.2 = chronicle.2 ++ [(module, answer)] := by
  cases ha
  rfl

theorem madeFor_singleton (key : ContainerId) (module : Module)
    (answer : Except ContainerFault (Made ρ)) :
    madeFor key [(module, answer)] = if module.key = key then answer.toOption.toList else [] := by
  unfold madeFor
  rw [List.filterMap_cons]
  split_ifs
  · cases answer <;> rfl
  · rfl

theorem chronicled_move {opener : Opener σ ρ} {before after : Pool (Made ρ) × Chronicle σ ρ}
    (h : Move opener.chronicled before after) : ∃ new, Chronicled before after new := by
  cases h with
  | acquire pool memory module =>
    have hcases := pool.acquire_cases opener.chronicled memory module
    generalize pool.acquire opener.chronicled memory module = result at hcases ⊢
    cases hcases with
    | refused => exact ⟨[], chronicled_of_reader?_eq memory fun _ => rfl⟩
    | shared hc => exact ⟨[], chronicled_of_reader?_eq memory (pool.reader?_lent module.key)⟩
    | @created reader left hc hr ha =>
      refine ⟨[(module, .ok reader)], chronicled_eq ha, ?_, fun key => ?_, (·.chronicled ha)⟩
      · intro question hq
        rw [List.mem_singleton.1 hq]
        exact hc
      · show (pool.reader? key).toList ++ _ =
          (((pool.lent module.key).filled module.key reader).reader? key).toList
        rw [reader?_filled_lent, madeFor_singleton]
        by_cases hk : key = module.key
        · rw [if_pos hk, if_pos hk.symm, hk, hc]
          rfl
        · rw [if_neg hk, if_neg (Ne.symm hk), List.append_nil]
    | @failed fault left hc hr ha =>
      refine ⟨[(module, .error fault)], chronicled_eq ha, ?_, fun key => ?_, (·.chronicled ha)⟩
      · intro question hq
        rw [List.mem_singleton.1 hq]
        exact hc
      · show (pool.reader? key).toList ++ _ =
          (((pool.lent module.key).release module.key).reader? key).toList
        rw [reader?_release, reader?_lent, madeFor_singleton]
        split_ifs <;> exact List.append_nil _
  | release pool memory key =>
    exact ⟨[], chronicled_of_reader?_eq memory (pool.reader?_release key)⟩

theorem chronicled_moves {opener : Opener σ ρ} {before after : Pool (Made ρ) × Chronicle σ ρ}
    (h : Moves opener.chronicled before after) : ∃ new, Chronicled before after new := by
  induction h with
  | refl => exact ⟨[], chronicled_of_reader?_eq before.2 fun _ => rfl⟩
  | tail _ hm ih =>
    obtain ⟨first, hf⟩ := ih
    obtain ⟨second, hs⟩ := chronicled_move hm
    exact ⟨first ++ second, hf.trans hs⟩

namespace Session

section Steps

variable [Readable ρ]

/-! ## Slots that go -/

/-- A step takes the slot of a key out of the pool. -/
def Removes (opener : Opener σ ρ) (tree : FileTree) (session : Session σ ρ) (step : Step)
    (key : ContainerId) : Prop :=
  session.pool.slot? key ≠ none ∧
    (session.perform opener tree step).session.pool.slot? key = none

/-- No step of a run takes the slot of a key out of the pool. -/
def Keeps (opener : Opener σ ρ) (tree : FileTree) (key : ContainerId) :
    Session σ ρ → List Step → Prop
  | _, [] => True
  | session, step :: rest =>
    ¬ session.Removes opener tree step key ∧
      Keeps opener tree key (session.perform opener tree step).session rest

theorem Sound.slot?_closePool {session : Session σ ρ} (h : session.Sound) (opener : Opener σ ρ)
    (tree : FileTree) (key : ContainerId) :
    (session.perform opener tree .closePool).session.pool.slot? key =
      if Lease.countOn session.outstanding key = 0 then none else session.pool.slot? key :=
  h.balanced.slot?_close key

/-- Only closing the pool removes a slot, and then one that nobody holds. -/
theorem Sound.removes_iff {session : Session σ ρ} (h : session.Sound) (opener : Opener σ ρ)
    (tree : FileTree) (step : Step) (key : ContainerId) :
    session.Removes opener tree step key ↔
      step = .closePool ∧ session.pool.slot? key ≠ none ∧
        Lease.countOn session.outstanding key = 0 := by
  by_cases hs : step = .closePool
  · subst hs
    unfold Removes
    rw [h.slot?_closePool]
    constructor
    · rintro ⟨hin, hout⟩
      split_ifs at hout with hc
      · exact ⟨rfl, hin, hc⟩
      · exact absurd hout hin
    · rintro ⟨-, hin, hc⟩
      exact ⟨hin, if_pos hc⟩
  · constructor
    · rintro ⟨hin, hout⟩
      have hsub := keys_subset_moves (session.perform_moved opener tree hs)
      exact absurd hout (mem_keys_iff.1 (hsub (mem_keys_iff.2 hin)))
    · rintro ⟨hc, -⟩
      exact absurd hc hs

/-! ## Histories -/

/-- All questions to the opener so far. -/
def history (session : Session (Chronicle σ ρ) (Made ρ)) : List (Question ρ) :=
  session.memory.2

/-- The readers of the pool are told apart by their numbers, and the one in a slot is the last that
was made for its key. -/
structure Traced (session : Session (Chronicle σ ρ) (Made ρ)) : Prop where
  numbered : Numbered session.history
  getLast?_eq : ∀ key made, session.pool.reader? key = some made →
    (madeFor key session.history).getLast? = some made

omit [Readable ρ] in
theorem traced_empty (capacity : Nat) (memory : σ) :
    (empty capacity (memory, []) : Session (Chronicle σ ρ) (Made ρ)).Traced where
  numbered := numbered_nil
  getLast?_eq key made h := by cases h

/-- What a step adds to the history: questions for keys without a reader, and for a key whose slot
the step does not remove, the reader that is in the slot then if there was none. -/
structure Asks (opener : Opener σ ρ) (tree : FileTree)
    (session : Session (Chronicle σ ρ) (Made ρ)) (step : Step) (new : List (Question ρ)) :
    Prop where
  history_eq :
    (session.perform opener.chronicled tree step).session.history = session.history ++ new
  isOpen_eq : ∀ question ∈ new, session.pool.isOpen question.1.key = false
  madeFor_eq : ∀ key, ¬ session.Removes opener.chronicled tree step key →
    (session.pool.reader? key).toList ++ madeFor key new =
      ((session.perform opener.chronicled tree step).session.pool.reader? key).toList

theorem Sound.asks {session : Session (Chronicle σ ρ) (Made ρ)} (h : session.Sound)
    (opener : Opener σ ρ) (tree : FileTree) (step : Step) :
    ∃ new, session.Asks opener tree step new := by
  by_cases hs : step = .closePool
  · subst hs
    refine ⟨[], (List.append_nil _).symm, fun _ hq => absurd hq List.not_mem_nil, fun key hk => ?_⟩
    have hsame : (session.perform opener.chronicled tree .closePool).session.pool.slot? key =
        session.pool.slot? key := by
      rw [h.slot?_closePool]
      split_ifs with hc
      · by_cases hn : session.pool.slot? key = none
        · exact hn.symm
        · exact absurd ((h.removes_iff _ tree _ key).2 ⟨rfl, hn, hc⟩) hk
      · rfl
    show _ ++ [] = _
    rw [List.append_nil, reader?, reader?, hsame]
  · obtain ⟨new, hnew⟩ := chronicled_moves (session.perform_moved opener.chronicled tree hs)
    refine ⟨new, hnew.questions_eq, fun question hq => ?_, fun key _ => hnew.madeFor_eq key⟩
    rw [isOpen_eq, hnew.reader?_eq_none question hq]
    rfl

/-! ## Runs -/

theorem Asks.traced {opener : Opener σ ρ} {tree : FileTree}
    {session : Session (Chronicle σ ρ) (Made ρ)} {step : Step} {new : List (Question ρ)}
    (h : session.Asks opener tree step new) (ht : session.Traced)
    (hn : Numbered (session.perform opener.chronicled tree step).session.history) :
    (session.perform opener.chronicled tree step).session.Traced where
  numbered := hn
  getLast?_eq key made hm := by
    have hkept : ¬ session.Removes opener.chronicled tree step key := by
      rintro ⟨-, hgone⟩
      rw [reader?, hgone] at hm
      cases hm
    have hmade := h.madeFor_eq key hkept
    rw [hm, Option.toList_some] at hmade
    rw [h.history_eq, madeFor_append]
    cases hr : session.pool.reader? key with
    | some old =>
      rw [hr, Option.toList_some, List.singleton_append] at hmade
      obtain ⟨rfl, hnil⟩ := List.cons.inj hmade
      rw [hnil, List.append_nil]
      exact ht.getLast?_eq key old hr
    | none =>
      rw [hr, Option.toList_none, List.nil_append] at hmade
      rw [hmade, List.getLast?_append]
      rfl

theorem Traced.perform {session : Session (Chronicle σ ρ) (Made ρ)} (ht : session.Traced)
    (h : session.Sound) (opener : Opener σ ρ) (tree : FileTree) (step : Step) :
    (session.perform opener.chronicled tree step).session.Traced := by
  obtain ⟨new, hnew⟩ := h.asks opener tree step
  refine hnew.traced ht ?_
  by_cases hs : step = .closePool
  · subst hs
    exact ht.numbered
  · obtain ⟨_, hmoves⟩ := chronicled_moves (session.perform_moved opener.chronicled tree hs)
    exact hmoves.numbered ht.numbered

theorem Traced.after {session : Session (Chronicle σ ρ) (Made ρ)} (ht : session.Traced)
    (h : session.Sound) (opener : Opener σ ρ) (tree : FileTree) (steps : List Step) :
    (session.after opener.chronicled tree steps).Traced := by
  induction steps generalizing session with
  | nil => exact ht
  | cons step rest ih =>
    rw [after_cons]
    exact ih (ht.perform h opener tree step) (h.perform opener.chronicled tree step)

/-- **Keeping a slot.** In a run that keeps the slot of a key, the readers made for the key account
for the one in its slot. -/
theorem Sound.madeFor_eq_of_keeps {session : Session (Chronicle σ ρ) (Made ρ)} (h : session.Sound)
    (opener : Opener σ ρ) (tree : FileTree) (key : ContainerId) {steps : List Step}
    (hk : Keeps opener.chronicled tree key session steps) :
    ∃ new, (session.after opener.chronicled tree steps).history = session.history ++ new ∧
      (session.pool.reader? key).toList ++ madeFor key new =
        ((session.after opener.chronicled tree steps).pool.reader? key).toList := by
  induction steps generalizing session with
  | nil => exact ⟨[], (List.append_nil _).symm, List.append_nil _⟩
  | cons step rest ih =>
    obtain ⟨hstep, hrest⟩ := hk
    obtain ⟨first, hf⟩ := h.asks opener tree step
    obtain ⟨second, hs, hm⟩ := ih (h.perform opener.chronicled tree step) hrest
    rw [after_cons]
    refine ⟨first ++ second, ?_, ?_⟩
    · rw [hs, hf.history_eq, List.append_assoc]
    · rw [madeFor_append, ← List.append_assoc, hf.madeFor_eq key hstep, hm]

/-! ## One reader per key -/

/-- Whether a step only gives leases up. -/
def Step.givesUp : Step → Bool
  | .release _ | .closeHandle _ | .dropHandle _ => true
  | _ => false

theorem memory_of_givesUp (opener : Opener σ ρ) (tree : FileTree) (session : Session σ ρ)
    {step : Step} (hs : step.givesUp = true) :
    (session.perform opener tree step).session.memory = session.memory := by
  cases step with
  | release name => exact session.memory_dropLease name
  | closeHandle name =>
    dsimp only [Session.perform]
    cases session.handles.get? name <;> rfl
  | dropHandle name =>
    show (session.dropHandle name).2.memory = session.memory
    unfold dropHandle
    cases session.handles.get? name <;> rfl
  | _ => cases hs

/-- What holds of the making of readers in a session. -/
structure Creations (opener : Opener σ ρ) (tree : FileTree)
    (session : Session (Chronicle σ ρ) (Made ρ)) : Prop where
  /-- No two readers have the same number. -/
  numbered : Numbered session.history
  /-- The opener is asked for a module only if the slot of its key holds no reader. -/
  asked : ∀ step, ∃ new,
    (session.perform opener.chronicled tree step).session.history = session.history ++ new ∧
      ∀ question ∈ new, session.pool.isOpen question.1.key = false
  /-- All leases on one key have the same reader, -/
  shared : ∀ lease ∈ session.outstanding, ∀ other ∈ session.outstanding,
    lease.key = other.key → lease.reader = other.reader
  /-- which is the last that was made for it. -/
  last : ∀ lease ∈ session.outstanding,
    (madeFor lease.key session.history).getLast? = some lease.reader
  /-- Until the slot of a key is removed, at most one reader is made for it, and none if it has one
  already. -/
  once : ∀ key steps, Keeps opener.chronicled tree key session steps → ∃ new,
    (session.after opener.chronicled tree steps).history = session.history ++ new ∧
      (madeFor key new).length ≤ if session.pool.isOpen key then 0 else 1
  /-- Only closing the pool removes a slot, and only one that nobody holds. -/
  removed : ∀ step key, session.Removes opener.chronicled tree step key ↔
    step = .closePool ∧ session.pool.slot? key ≠ none ∧
      Lease.countOn session.outstanding key = 0
  /-- A lease on a key without a reader asks the opener where there is room. If that fails, the key
  is again without a reader, and there is room for it. -/
  retried : ∀ name module, session.pool.isOpen module.key = false →
    (session.pool.slot? module.key ≠ none ∨ session.pool.size < session.pool.capacity) →
    (session.perform opener.chronicled tree (.acquire name module)).session.history =
        session.history ++
          [(module, (opener module session.memory.1).1.map (Made.mk session.history.length))] ∧
      (session.perform opener.chronicled tree (.acquire name module)).session.pool.isOpen
        module.key = (opener module session.memory.1).1.isOk ∧
      (session.perform opener.chronicled tree (.acquire name module)).session.pool.slot?
        module.key ≠ none
  /-- Giving leases up asks for nothing, and leaves all readers in their slots. -/
  given_up : ∀ step : Step, step.givesUp = true →
    (session.perform opener.chronicled tree step).session.history = session.history ∧
      ∀ key, (session.perform opener.chronicled tree step).session.pool.reader? key =
        session.pool.reader? key

omit [Readable ρ] in
theorem eq_of_toList_eq {first second : Option (Made ρ)} (h : first.toList = second.toList) :
    first = second := by
  rw [← Option.head?_toList (o := first), h, Option.head?_toList]

theorem Sound.creations {session : Session (Chronicle σ ρ) (Made ρ)} (h : session.Sound)
    (ht : session.Traced) (opener : Opener σ ρ) (tree : FileTree) :
    session.Creations opener tree where
  numbered := ht.numbered
  asked step := by
    obtain ⟨new, hnew⟩ := h.asks opener tree step
    exact ⟨new, hnew.history_eq, hnew.isOpen_eq⟩
  shared lease hl other ho hk := by
    have hr := h.balanced.reader?_eq lease hl
    rw [hk, h.balanced.reader?_eq other ho] at hr
    exact (Option.some.inj hr).symm
  last lease hl := ht.getLast?_eq lease.key lease.reader (h.balanced.reader?_eq lease hl)
  once key steps hk := by
    obtain ⟨new, hnew, hmade⟩ := h.madeFor_eq_of_keeps opener tree key hk
    refine ⟨new, hnew, ?_⟩
    have hlen := congrArg List.length hmade
    have hle : ((session.after opener.chronicled tree steps).pool.reader? key).toList.length ≤ 1 :=
      Option.length_toList_le
    rw [List.length_append, Option.length_toList, ← isOpen_eq] at hlen
    split_ifs at hlen ⊢ <;> omega
  removed step key := h.removes_iff _ tree step key
  retried name module hc hroom := by
    have hnone : session.pool.reader? module.key = none := by
      rwa [isOpen_eq, Option.isSome_eq_false_iff, Option.isNone_iff_eq_none] at hc
    have hr : ¬ session.pool.Refuses module.key := by
      rw [h.balanced.counted.refuses_iff]
      rintro ⟨hs, hfull⟩
      rcases hroom with hs' | hroom
      · exact hs' hs
      · omega
    obtain ⟨-, hmemory, hkey⟩ := acquire_of_closed opener.chronicled session name hnone hr
    have hhistory :
        (session.perform opener.chronicled tree (.acquire name module)).session.history =
          session.history ++
            [(module, (opener module session.memory.1).1.map (Made.mk session.history.length))] :=
      congrArg (·.2) hmemory
    refine ⟨hhistory, ?_, mem_keys_iff.1 hkey⟩
    obtain ⟨new, hnew⟩ := h.asks opener tree (.acquire name module)
    have hmade := hnew.madeFor_eq module.key fun hgone => mem_keys_iff.1 hkey hgone.2
    have heq := hnew.history_eq.symm.trans hhistory
    rw [List.append_cancel_left heq, hnone, madeFor_singleton, if_pos rfl, Option.toList_none,
      List.nil_append] at hmade
    rw [isOpen_eq, ← eq_of_toList_eq hmade]
    cases (opener module session.memory.1).1 <;> rfl
  given_up step hs := by
    have hmemory := memory_of_givesUp opener.chronicled tree session hs
    refine ⟨congrArg (·.2) hmemory, fun key => ?_⟩
    obtain ⟨new, hnew⟩ := h.asks opener tree step
    have hnil : new = [] := List.append_right_eq_self.1
      (hnew.history_eq.symm.trans (congrArg (·.2) hmemory))
    have hkept : ¬ session.Removes opener.chronicled tree step key := by
      rw [h.removes_iff]
      rintro ⟨rfl, -⟩
      cases hs
    have hmade := hnew.madeFor_eq key hkept
    rw [hnil] at hmade
    exact (eq_of_toList_eq ((List.append_nil _).symm.trans hmade)).symm

/-- But for numbers and chronicle, a run is the one with the opener itself. -/
theorem performAll_chronicled (opener : Opener σ ρ) (tree : FileTree) (capacity : Nat) (memory : σ)
    (steps : List Step) :
    ((empty capacity (memory, [])).performAll opener.chronicled tree steps).map
        Made.reader Prod.fst =
      (empty capacity memory).performAll opener tree steps :=
  (performAll_map faithful_reader opener.chronicled_mapsTo tree (empty capacity (memory, []))
    steps).symm

/-- **One reader per key.** For every opener and every capacity, after every run. -/
theorem one_reader_per_key (opener : Opener σ ρ) (tree : FileTree) (capacity : Nat) (memory : σ)
    (steps : List Step) :
    ((empty capacity (memory, [])).after opener.chronicled tree steps).Creations opener tree ∧
      ((empty capacity (memory, [])).performAll opener.chronicled tree steps).map
          Made.reader Prod.fst =
        (empty capacity memory).performAll opener tree steps :=
  ⟨(sound_after opener.chronicled tree capacity (memory, []) steps).creations
    ((traced_empty capacity memory).after (sound_empty capacity (memory, [])) opener tree steps)
    opener tree, performAll_chronicled opener tree capacity memory steps⟩

end Steps

end Session

end SearchPath
