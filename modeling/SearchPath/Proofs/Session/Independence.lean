import Mathlib.Data.Finset.Card
import SearchPath.Proofs.Session.Accounts
import SearchPath.Proofs.Session.Identity
import SearchPath.Proofs.Session.Scans

/-!
# Scanners side by side

A scanner finds in a shared pool what others have left there: slots that take up room, readers made
for another module with its key, and slots whose reader could not be made. None of this can be seen
in what becomes of its scan, where the answer of the opener depends on the module alone.

1. A pool serves a module if there is a slot or room for it, and no other reader in the slot than
   the opener makes for the module (`Pool.Serves`). Then the scan comes to the same as with any
   other such pool, in particular with a new one (`Scanner.scan_congr`).
2. Where the opener makes the same of all modules with one key, and the capacity is at least the
   number of keys (`Fits`), the pool of a session serves all modules that were brought, whatever was
   done before: every slot was made for one of their keys (`noted_move`), and every reader for one
   of them (`Supplied.serves`).
3. Main result (`independent_after`): so after every run each scanner is as it was made, or as a
   scan alone leaves it, and what it answers next is what it would answer alone.
-/

namespace SearchPath

open Pool Relation

variable {σ μ ρ : Type} {made : Module → Except ContainerFault ρ}

/-! ## Pools that serve -/

/-- The answer of the opener depends on the module alone. -/
def Opener.Follows (opener : Opener σ ρ) (made : Module → Except ContainerFault ρ) : Prop :=
  ∀ module memory, (opener module memory).1 = made module

theorem Opener.Follows.recording {opener : Opener σ ρ} (h : opener.Follows made) :
    Opener.Follows (Session.recording opener) made :=
  fun module recorded => h module recorded.1

/-- The pool has a slot for the module or room for one, and no other reader in the slot than is made
for the module. -/
structure Pool.Serves (made : Module → Except ContainerFault ρ) (module : Module) (pool : Pool ρ) :
    Prop where
  not_refuses : ¬ pool.Refuses module.key
  made_eq : ∀ reader, pool.reader? module.key = some reader → made module = .ok reader

theorem Pool.serves_empty {room : Nat} (h : 0 < room) (module : Module) :
    (Pool.empty room : Pool ρ).Serves made module where
  not_refuses hr := by
    have hfull : room ≤ 0 := hr.2
    omega
  made_eq reader hr := by cases hr

namespace Scanner

variable [Readable ρ] {opener : Opener σ ρ} {other : Opener μ ρ} {module : Module} {pool : Pool ρ}

/-- In a pool that serves the module nothing but the module says what is listed. -/
theorem inspect_of_serves (ho : opener.Follows made) (hp : pool.Serves made module) (memory : σ) :
    (inspect opener pool memory module).1 = (made module).bind Readable.paths := by
  have hmade := ho module memory
  have hcases := pool.acquire_cases opener memory module
  unfold inspect
  generalize pool.acquire opener memory module = result at hcases ⊢
  cases hcases with
  | refused hr => exact absurd hr hp.not_refuses
  | shared hc =>
    rw [hp.made_eq _ hc]
    rfl
  | created _ _ ha =>
    rw [← hmade, ha]
    rfl
  | failed _ _ ha =>
    rw [← hmade, ha]
    rfl

/-- Scans in two pools that serve the module answer the same and leave the same scanner. -/
theorem scan_congr (ho : opener.Follows made) (hother : other.Follows made) (tree : FileTree)
    {scanner : Scanner} {beside : Pool ρ} (hp : pool.Serves made scanner.module)
    (hb : beside.Serves made scanner.module) (memory : σ) (memory' : μ) :
    (scanner.scan opener tree pool memory).answer =
        (scanner.scan other tree beside memory').answer ∧
      (scanner.scan opener tree pool memory).scanner =
        (scanner.scan other tree beside memory').scanner := by
  cases hs : scanner.started with
  | true =>
    rw [scan_of_started opener tree pool memory hs, scan_of_started other tree beside memory' hs]
    exact ⟨rfl, rfl⟩
  | false =>
    have hlisted := inspect_of_serves ho hp memory
    have hlisted' := inspect_of_serves hother hb memory'
    rcases hi : inspect opener pool memory scanner.module with ⟨listed, after, left⟩
    rcases hi' : inspect other beside memory' scanner.module with ⟨listed', after', left'⟩
    have hsame : listed = listed' := by
      rw [hi] at hlisted
      rw [hi'] at hlisted'
      exact hlisted.trans hlisted'.symm
    rw [scan_eq tree hs hi, scan_eq tree hs hi', hsame]
    exact ⟨rfl, rfl⟩

/-- The scan of a scanner as it was made, alone with a new pool. -/
def alone (opener : Opener σ ρ) (tree : FileTree) (room : Nat) (memory : σ) (scanner : Scanner) :
    Result σ ρ :=
  (fresh scanner.module scanner.policy).scan opener tree (Pool.empty room) memory

/-- The scanner is as it was made, or as its scan alone leaves it. -/
structure ByItself (opener : Opener σ ρ) (tree : FileTree) (scanner : Scanner) : Prop where
  /-- Before its scan it is as it was made. -/
  unscanned_eq : scanner.started = false → scanner = fresh scanner.module scanner.policy
  /-- Once it has been scanned, its state, the accepted paths with their status and the known paths
  are those that the scan alone leaves, in a pool of any size and whatever the opener remembers. -/
  scanned_eq : scanner.started = true → ∀ room memory, 0 < room →
    scanner = (scanner.alone opener tree room memory).scanner

theorem byItself_fresh (opener : Opener σ ρ) (tree : FileTree) (module : Module)
    (policy : Policy) : (fresh module policy).ByItself opener tree where
  unscanned_eq _ := rfl
  scanned_eq hs := by cases hs

/-- A scan in a pool that serves the module leaves the scanner as the scan alone does. -/
theorem ByItself.scan {tree : FileTree} {scanner : Scanner} (h : scanner.ByItself opener tree)
    (ho : opener.Follows made) (hother : other.Follows made)
    (hp : pool.Serves made scanner.module) (memory : μ) :
    (scanner.scan other tree pool memory).scanner.ByItself opener tree := by
  cases hs : scanner.started with
  | true =>
    rw [scan_of_started other tree pool memory hs]
    exact h
  | false =>
    have hscan : scanner.scan other tree pool memory = ⟨_, _, _, _⟩ := scan_eq tree hs rfl
    have hended : (scanner.scan other tree pool memory).scanner.started = true := by rw [hscan]
    have hmodule : (scanner.scan other tree pool memory).scanner.module = scanner.module := by
      rw [hscan]
    have hpolicy : (scanner.scan other tree pool memory).scanner.policy = scanner.policy := by
      rw [hscan]
    constructor
    · intro hu
      rw [hended] at hu
      cases hu
    · intro _ room left hroom
      unfold alone
      rw [hmodule, hpolicy, ← h.unscanned_eq hs]
      exact (scan_congr hother ho tree hp (serves_empty hroom _) memory left).2

end Scanner

/-! ## Slots and their questions -/

theorem Pool.mem_keys_lent_iff {pool : Pool ρ} {key other : ContainerId} :
    other ∈ (pool.lent key).keys ↔ other = key ∨ other ∈ pool.keys := by
  rw [mem_keys_iff, slot?_lent, mem_keys_iff]
  split_ifs with h
  · simp [h]
  · simp [h]

/-- The opener was asked for a reader for every slot. -/
def Noted (state : Pool (Made ρ) × Chronicle σ ρ) : Prop :=
  ∀ key ∈ state.1.keys, ∃ question ∈ state.2.2, question.1.key = key

/-- The question that a slot is made for is noted. -/
theorem Noted.asked {pool after : Pool (Made ρ)} {chronicle left : Chronicle σ ρ} {module : Module}
    {answer : Except ContainerFault (Made ρ)} (h : Noted (pool, chronicle))
    (hk : after.keys = (pool.lent module.key).keys)
    (ha : left.2 = chronicle.2 ++ [(module, answer)]) : Noted (after, left) := by
  intro key hm
  show ∃ question ∈ left.2, question.1.key = key
  have hin : key ∈ (pool.lent module.key).keys := hk ▸ hm
  rw [ha]
  rcases mem_keys_lent_iff.1 hin with rfl | hold
  · exact ⟨(module, answer), by simp, rfl⟩
  · obtain ⟨question, hq, hkey⟩ := h key hold
    exact ⟨question, List.mem_append_left _ hq, hkey⟩

theorem noted_move {opener : Opener σ ρ} {before after : Pool (Made ρ) × Chronicle σ ρ}
    (h : Move opener.chronicled before after) (hn : Noted before) : Noted after := by
  cases h with
  | acquire pool memory module =>
    have hcases := pool.acquire_cases opener.chronicled memory module
    generalize pool.acquire opener.chronicled memory module = result at hcases ⊢
    cases hcases with
    | refused => exact hn
    | shared hc =>
      intro key hk
      rcases mem_keys_lent_iff.1 hk with rfl | hold
      · apply hn
        rw [mem_keys_iff]
        intro hnone
        rw [reader?, hnone] at hc
        cases hc
      · exact hn key hold
    | created _ _ ha => exact hn.asked (keys_modify _ _ _) (chronicled_eq ha)
    | failed _ _ ha => exact hn.asked (keys_release _ _) (chronicled_eq ha)
  | release pool memory key =>
    intro held hk
    exact hn held (keys_release pool key ▸ hk)

theorem noted_moves {opener : Opener σ ρ} {before after : Pool (Made ρ) × Chronicle σ ρ}
    (h : Moves opener.chronicled before after) (hn : Noted before) : Noted after := by
  induction h with
  | refl => exact hn
  | tail _ hm ih => exact noted_move hm ih

namespace Session

/-! ## Sessions that serve -/

/-- The modules that steps bring, in order. -/
def brought (steps : List Step) : List Module :=
  steps.filterMap Step.module?

/-- One pool is enough for the modules. -/
structure Fits (made : Module → Except ContainerFault ρ) (capacity : Nat) (modules : List Module) :
    Prop where
  /-- Modules with the same key are the same to the opener, -/
  made_eq : ∀ first ∈ modules, ∀ second ∈ modules, first.key = second.key →
    made first = made second
  /-- and there is room for every key. -/
  card_le : (modules.map Module.key).toFinset.card ≤ capacity

/-- It is enough that no two of the modules have the same key. -/
theorem fits_of_key_injective {capacity : Nat} {modules : List Module}
    (hkey : ∀ first ∈ modules, ∀ second ∈ modules, first.key = second.key → first = second)
    (hcard : (modules.map Module.key).toFinset.card ≤ capacity) : Fits made capacity modules where
  made_eq first hf second hs hk := by rw [hkey first hf second hs hk]
  card_le := hcard

/-- A session with a chronicle in which the opener was asked for every slot, and only for modules of
a list. -/
structure Supplied (made : Module → Except ContainerFault ρ) (modules : List Module)
    (session : Session (Chronicle σ ρ) (Made ρ)) : Prop where
  sound : session.Sound
  traced : session.Traced
  within : session.Within (· ∈ modules) fun chronicle => ∀ question ∈ chronicle.2,
    question.1 ∈ modules ∧ question.2.map Made.reader = made question.1
  noted : Noted (session.pool, session.memory)

theorem keeps_answers {opener : Opener σ ρ} (ho : opener.Follows made) (modules : List Module) :
    opener.chronicled.Keeps (· ∈ modules) fun chronicle => ∀ question ∈ chronicle.2,
      question.1 ∈ modules ∧ question.2.map Made.reader = made question.1 := by
  intro module chronicle hm hc question hq
  rcases List.mem_append.1 hq with hq | hq
  · exact hc question hq
  · rw [List.mem_singleton.1 hq]
    refine ⟨hm, ?_⟩
    show ((opener module chronicle.1).1.map _).map Made.reader = made module
    rw [← ho module chronicle.1]
    cases (opener module chronicle.1).1 <;> rfl

theorem supplied_empty (made : Module → Except ContainerFault ρ) (modules : List Module)
    (capacity : Nat) (memory : σ) :
    (empty capacity (memory, []) : Session (Chronicle σ ρ) (Made ρ)).Supplied made modules where
  sound := sound_empty capacity (memory, [])
  traced := traced_empty capacity memory
  within := within_empty capacity fun _ hq => absurd hq List.not_mem_nil
  noted _ hk := absurd hk List.not_mem_nil

/-- The pool of such a session serves all of the modules, if it is enough for them. -/
theorem Supplied.serves {session : Session (Chronicle σ ρ) (Made ρ)} {modules : List Module}
    (h : session.Supplied made modules) (hfits : Fits made session.pool.capacity modules)
    {module : Module} (hm : module ∈ modules) :
    (session.pool.map Made.reader).Serves made module where
  not_refuses := by
    rw [refuses_map, h.sound.balanced.counted.refuses_iff, slot?_eq_none_iff]
    rintro ⟨hnone, hfull⟩
    -- the slots and the one that is missing have different keys, all of them of the modules
    have hsub : insert module.key session.pool.keys.toFinset ⊆
        (modules.map Module.key).toFinset := by
      intro key hk
      rw [List.mem_toFinset]
      rcases Finset.mem_insert.1 hk with rfl | hk
      · exact List.mem_map_of_mem hm
      · obtain ⟨question, hq, rfl⟩ := h.noted key (List.mem_toFinset.1 hk)
        exact List.mem_map_of_mem (h.within.memory question hq).1
    have hcard := Finset.card_le_card hsub
    rw [Finset.card_insert_of_notMem (by simpa using hnone),
      List.toFinset_card_of_nodup h.sound.balanced.counted.keys_nodup,
      ← size_eq_length_keys] at hcard
    have hroom := hfits.card_le
    omega
  made_eq reader hr := by
    rw [reader?_map] at hr
    obtain ⟨found, hf, rfl⟩ := Option.map_eq_some_iff.1 hr
    have hlast := h.traced.getLast?_eq module.key found hf
    obtain ⟨maker, hq, hk⟩ := mem_of_mem_madeFor (List.mem_of_getLast? hlast)
    obtain ⟨hin, hmade⟩ := h.within.memory _ hq
    rw [← hfits.made_eq maker hin module hm hk]
    exact hmade.symm

section Steps

variable [Readable ρ]

theorem Supplied.perform {session : Session (Chronicle σ ρ) (Made ρ)} {modules : List Module}
    (h : session.Supplied made modules) {opener : Opener σ ρ} (ho : opener.Follows made)
    (tree : FileTree) {step : Step} (hs : ∀ module, step.module? = some module → module ∈ modules) :
    (session.perform opener.chronicled tree step).session.Supplied made modules where
  sound := h.sound.perform opener.chronicled tree step
  traced := h.traced.perform h.sound opener tree step
  within := h.within.perform (keeps_answers ho modules) tree hs
  noted := by
    by_cases hc : step = .closePool
    · subst hc
      intro key hk
      refine h.noted key ?_
      rw [mem_keys_iff, h.sound.slot?_closePool] at hk
      rw [mem_keys_iff]
      split_ifs at hk
      · exact absurd rfl hk
      · exact hk
    · exact noted_moves (session.perform_moved opener.chronicled tree hc) h.noted

/-! ## Scanners by themselves -/

/-- Every scanner is as it was made, or as its scan alone leaves it. -/
def Apart (opener : Opener σ ρ) (tree : FileTree) (session : Session μ ρ) : Prop :=
  session.scanners.All (Scanner.ByItself opener tree)

/-- Where the pool serves the scanners of a session, a step leaves each of them by itself. -/
theorem Apart.perform {session : Session μ ρ} {opener : Opener σ ρ} {tree : FileTree}
    (h : session.Apart opener tree) (ho : opener.Follows made) {other : Opener μ ρ}
    (hother : other.Follows made)
    (hserves : session.scanners.All fun scanner => session.pool.Serves made scanner.module)
    (step : Step) : (session.perform other tree step).session.Apart opener tree := by
  intro name scanner hg
  by_cases hs : step.scanner? = some name
  · cases step with
    | prepare place module policy =>
      cases hs
      have hput : (session.scanners.put name (Scanner.fresh module policy)).get? name =
        some scanner := hg
      rw [Table.get?_put, if_pos rfl, Option.some.injEq] at hput
      rw [← hput]
      exact Scanner.byItself_fresh opener tree module policy
    | scan place harvest =>
      cases hs
      rw [Session.perform] at hg
      cases hb : session.scanners.get? name with
      | none =>
        unfold Session.scan at hg
        rw [hb] at hg
        exact h name scanner hg
      | some before =>
        rw [get?_scanners_scan other tree hb, if_pos rfl, Option.some.injEq] at hg
        rw [← hg]
        exact (h name before hb).scan ho hother.recording (hserves name before hb) _
    | _ => cases hs
  · rw [get?_scanners_perform other tree session hs] at hg
    exact h name scanner hg

/-! ## Runs -/

/-- What is kept along a run: the session with a chronicle is supplied, and without it the scanners
are by themselves. -/
theorem supplied_after {opener : Opener σ ρ} (ho : opener.Follows made) (tree : FileTree)
    (capacity : Nat) (memory : σ) {modules : List Module} (hfits : Fits made capacity modules)
    {steps : List Step}
    (hs : ∀ step ∈ steps, ∀ module, step.module? = some module → module ∈ modules) :
    let session := (empty capacity (memory, [])).after opener.chronicled tree steps
    (session.Supplied made modules ∧ session.pool.capacity = capacity) ∧
      (session.map Made.reader Prod.fst).Apart opener tree := by
  refine after_invariant (P := fun session => (session.Supplied made modules ∧
    session.pool.capacity = capacity) ∧ (session.map Made.reader Prod.fst).Apart opener tree)
    ⟨⟨supplied_empty made modules capacity memory, rfl⟩, Table.all_empty _⟩ ?_
  rintro step hstep before ⟨⟨hsupplied, hcapacity⟩, hapart⟩
  refine ⟨⟨hsupplied.perform ho tree (hs step hstep), ?_⟩, ?_⟩
  · rw [capacity_perform, hcapacity]
  · have hmap := perform_map faithful_reader opener.chronicled_mapsTo tree before step
    have hnext := hapart.perform ho ho (fun name scanner hg =>
      hsupplied.serves (hcapacity.symm ▸ hfits) (hsupplied.within.scanners name scanner hg)) step
    rw [hmap] at hnext
    exact hnext

/-- What a scanner in a session comes to, whatever else was done in the session. -/
structure Independent (opener : Opener σ ρ) (tree : FileTree) (session : Session σ ρ)
    (name : String) (scanner : Scanner) : Prop where
  /-- So far it is as it was made, or as its scan alone leaves it. -/
  byItself : scanner.ByItself opener tree
  /-- A scan answers what it would answer alone with a new pool, and so reports the same to the
  outside, one report after the other; it leaves the same scanner, -/
  scan_eq : ∀ room memory, 0 < room → ∀ harvest,
    (session.perform opener tree (.scan name harvest)).reply =
        .scanned (scanner.scan opener tree (Pool.empty room) memory).answer ∧
      (session.perform opener tree (.scan name harvest)).session.scanners.get? name =
        some (scanner.scan opener tree (Pool.empty room) memory).scanner
  /-- and reports handles on the same paths. -/
  harvest_eq : ∀ room memory, 0 < room → ∀ harvest,
    (session.perform opener tree (.scan name (some harvest))).session.harvests.get? harvest =
      some ⟨scanner.module, (Scanner.reportedPaths
        (scanner.scan opener tree (Pool.empty room) memory).answer).map some⟩

theorem independent_of_serves {opener : Opener σ ρ} (ho : opener.Follows made) (tree : FileTree)
    {session : Session σ ρ} {name : String} {scanner : Scanner}
    (hg : session.scanners.get? name = some scanner)
    (hp : session.pool.Serves made scanner.module) (h : scanner.ByItself opener tree) :
    session.Independent opener tree name scanner := by
  have hcongr (room : Nat) (memory : σ) (hroom : 0 < room) :=
    Scanner.scan_congr ho.recording ho tree hp (serves_empty hroom _) (session.memory, []) memory
  refine ⟨h, fun room memory hroom harvest => ⟨?_, ?_⟩, fun room memory hroom harvest => ?_⟩
  · rw [← (hcongr room memory hroom).1, Session.perform]
    unfold Session.scan
    rw [hg]
    rfl
  · rw [← (hcongr room memory hroom).2, Session.perform,
      get?_scanners_scan opener tree hg harvest name, if_pos rfl]
  · rw [← (hcongr room memory hroom).1, Session.perform]
    unfold Session.scan
    rw [hg]
    exact (Table.get?_put _ _ _ _).trans (if_pos rfl)

/-- **Independence.** After every run whose modules one pool is enough for, and with any opener
whose answer depends on the module alone, a scanner comes to what it would come to alone. -/
theorem independent_after (opener : Opener σ ρ) (ho : opener.Follows made) (tree : FileTree)
    (capacity : Nat) (memory : σ) (steps : List Step)
    (hfits : Fits made capacity (brought steps)) (name : String) (scanner : Scanner)
    (hg : ((empty capacity memory).after opener tree steps).scanners.get? name = some scanner) :
    ((empty capacity memory).after opener tree steps).Independent opener tree name scanner := by
  obtain ⟨⟨hsupplied, hcapacity⟩, hapart⟩ := supplied_after ho tree capacity memory hfits
    fun step hs module hm => List.mem_filterMap.2 ⟨step, hs, hm⟩
  have hmap : (empty capacity memory).after opener tree steps = _ :=
    after_map faithful_reader opener.chronicled_mapsTo tree (empty capacity (memory, [])) steps
  rw [hmap] at hg ⊢
  refine independent_of_serves ho tree hg ?_ (hapart name scanner hg)
  exact hsupplied.serves (hcapacity.symm ▸ hfits) (hsupplied.within.scanners name scanner hg)

/-- An opener that counts the questions, and fails for all modules but those of one name. -/
def onlyNamed (name : String) : Opener Nat MemoryContainer :=
  fun module asked =>
    (if module.name = name then .ok ⟨[("a", [1])]⟩ else .error (.unavailable module.name),
      asked + 1)

/-- Two scanners in a pool with room for two keys. One of the modules can never be had, and the
other is held, closed and loaded from between the scans. -/
theorem independent_of_neighbours :
    let opener := onlyNamed "good"
    let good := Module.named "good"
    let bad := Module.named "bad"
    let steps : List Step :=
      [.prepare "s" good .everything, .prepare "t" bad .everything, .acquire "x" bad,
        .scan "t" none, .acquire "x" good, .closePool, .scan "s" (some "h"), .take "h" 0 "r",
        .load "r", .release "x", .closePool]
    let session := (empty 2 0).after opener (.empty "/") steps
    Fits (fun module => (opener module 0).1) 2 (brought steps) ∧
      ∃ scanned skipped, session.scanners.get? "s" = some scanned ∧
        session.scanners.get? "t" = some skipped ∧ scanned.state = .scanned ∧
        skipped.state = .skipped (.failed (.unavailable "bad")) ∧
        session.Independent opener (.empty "/") "s" scanned ∧
        session.Independent opener (.empty "/") "t" skipped := by
  intro opener good bad steps session
  have hfits : Fits (fun module => (opener module 0).1) 2 (brought steps) :=
    fits_of_key_injective (by decide) (by decide)
  have hfollows : opener.Follows fun module => (opener module 0).1 := fun _ _ => rfl
  have hs : (session.scanners.get? "s").map Scanner.state = some .scanned := by
    decide +kernel
  have ht : (session.scanners.get? "t").map Scanner.state =
    some (.skipped (.failed (.unavailable "bad"))) := by decide +kernel
  obtain ⟨scanned, hscanned, hended⟩ := Option.map_eq_some_iff.1 hs
  obtain ⟨skipped, hskipped, hfailed⟩ := Option.map_eq_some_iff.1 ht
  exact ⟨hfits, scanned, skipped, hscanned, hskipped, hended, hfailed,
    independent_after opener hfollows (.empty "/") 2 0 steps hfits "s" scanned hscanned,
    independent_after opener hfollows (.empty "/") 2 0 steps hfits "t" skipped hskipped⟩

end Steps

end Session

end SearchPath
