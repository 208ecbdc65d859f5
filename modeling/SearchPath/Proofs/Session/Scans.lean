import SearchPath.Proofs.Scan.Judgement
import SearchPath.Proofs.Session.Run

/-!
# Scanners in a session

A scanner keeps where it stands in two places: whether it has been started, and its verdict. They
are set at different moments of the one scan that does anything.

1. Only preparing a scanner and scanning change what stands under its name
   (`get?_scanners_perform`), and between two steps no scanner is on its way (`AtRest`).
2. The first scan starts the scanner, asks for the container and lists it, and then concludes
   (`FirstScan`, `Sound.firstScan`). Any later scan is refused and changes nothing
   (`scan_of_started`).
3. Main result (`scansOnce_after`): so it is after every run, and a verdict stays for good.
-/

namespace SearchPath

open Pool

variable {σ ρ : Type}

/-! ## Scanners at rest -/

namespace Scanner

/-- The scanner is not on its way: it has a verdict if it has been started. -/
def AtRest (scanner : Scanner) : Prop :=
  scanner.started = scanner.verdict.isSome

theorem atRest_fresh (module : Module) (policy : Policy) : (fresh module policy).AtRest := rfl

theorem AtRest.state_eq_unscanned_iff {scanner : Scanner} (h : scanner.AtRest) :
    scanner.state = .unscanned ↔ scanner.started = false := by
  unfold AtRest at h
  unfold state
  rw [h]
  cases hv : scanner.verdict with
  | none => exact ⟨fun _ => rfl, fun _ => rfl⟩
  | some verdict => cases verdict <;> simp

theorem AtRest.state_cases {scanner : Scanner} (h : scanner.AtRest) :
    scanner.state = .unscanned ∨ scanner.state = .scanned ∨
      ∃ reason, scanner.state = .skipped reason := by
  unfold AtRest at h
  unfold state
  rw [h]
  rcases scanner.verdict with _ | ⟨findings, dated⟩ | reason
  · exact .inl rfl
  · exact .inr (.inl rfl)
  · exact .inr (.inr ⟨reason, rfl⟩)

/-- Only a scan that went through has found anything. -/
theorem findings?_eq_none_of_state {scanner : Scanner} (h : scanner.state ≠ .scanned) :
    scanner.findings? = none := by
  unfold state at h
  unfold findings?
  rcases hv : scanner.verdict with _ | ⟨findings, dated⟩ | reason
  · rfl
  · rw [hv] at h
    exact absurd rfl h
  · rfl

theorem accepted_eq_nil {scanner : Scanner} (h : scanner.state ≠ .scanned) :
    scanner.accepted = [] := by
  rw [accepted, findings?_eq_none_of_state h]
  rfl

theorem known_eq_nil {scanner : Scanner} (h : scanner.state ≠ .scanned) : scanner.known = [] := by
  rw [known, findings?_eq_none_of_state h]
  rfl

theorem handle?_eq_none {scanner : Scanner} (h : scanner.state ≠ .scanned) (path : String) :
    (scanner.handle? path : Option (Handle ρ)) = none := by
  unfold handle?
  rw [known_eq_nil h]
  dsimp only
  split_ifs with _ _ hc
  · rfl
  · rfl
  · cases hc
  · rfl

/-- The scanner has nothing to offer. -/
structure Silent (ρ : Type) (scanner : Scanner) : Prop where
  accepted_eq : scanner.accepted = []
  known_eq : scanner.known = []
  handles_eq : (scanner.handles : List (Handle ρ)) = []
  handle?_eq : ∀ path, (scanner.handle? path : Option (Handle ρ)) = none

theorem silent_of_state {scanner : Scanner} (h : scanner.state ≠ .scanned) : scanner.Silent ρ := by
  refine ⟨accepted_eq_nil h, known_eq_nil h, ?_, handle?_eq_none h⟩
  rw [handles, accepted_eq_nil h]
  rfl

/-- A verdict is the end of the scan, and says what is reported. -/
theorem conclude_cases (scanner : Scanner) (verdict : Verdict) :
    ((scanner.conclude verdict).state = .scanned ∧
        scanner.reports verdict =
          (scanner.conclude verdict).accepted.map fun a => .accepted a.path a.status) ∨
      ∃ reason, (scanner.conclude verdict).state = .skipped reason ∧
        scanner.reports verdict = [.skipped scanner.module reason] := by
  cases verdict with
  | scanned findings dated => exact .inl ⟨rfl, rfl⟩
  | skipped reason => exact .inr ⟨reason, rfl, rfl⟩

section Scans

variable [Readable ρ]

theorem scan_of_started (opener : Opener σ ρ) (tree : FileTree) {scanner : Scanner} (pool : Pool ρ)
    (memory : σ) (h : scanner.started = true) :
    scanner.scan opener tree pool memory =
      ⟨.error (.usage (.alreadyScanned scanner.module.display)), scanner, pool, memory⟩ := by
  unfold scan start
  rw [if_pos h]

theorem scan_atRest (opener : Opener σ ρ) (tree : FileTree) {scanner : Scanner} (pool : Pool ρ)
    (memory : σ) (h : scanner.AtRest) : (scanner.scan opener tree pool memory).scanner.AtRest := by
  cases hs : scanner.started with
  | true =>
    rw [scan_of_started opener tree pool memory hs]
    exact h
  | false =>
    rw [scan_eq tree hs rfl]
    rfl

/-- A scan asks for nothing but its own module, and at most once. -/
theorem scan_asked (opener : Opener σ ρ) (tree : FileTree) (scanner : Scanner) (pool : Pool ρ)
    (memory : σ) :
    (scanner.scan (Session.recording opener) tree pool (memory, [])).memory.2 = [] ∨
      (scanner.scan (Session.recording opener) tree pool (memory, [])).memory.2 =
        [scanner.module] := by
  cases hs : scanner.started with
  | true =>
    rw [scan_of_started _ tree pool _ hs]
    exact .inl rfl
  | false =>
    have hmemory :
        (inspect (Session.recording opener) pool (memory, []) scanner.module).2.2.2 = [] ∨
          (inspect (Session.recording opener) pool (memory, []) scanner.module).2.2.2 =
            [scanner.module] := by
      unfold inspect
      have hcases := pool.acquire_cases (Session.recording opener) (memory, []) scanner.module
      generalize pool.acquire (Session.recording opener) (memory, []) scanner.module = result
        at hcases ⊢
      cases hcases with
      | refused => exact .inl rfl
      | shared => exact .inl rfl
      | created _ _ ha => exact .inr (congrArg (·.2.2) ha).symm
      | failed _ _ ha => exact .inr (congrArg (·.2.2) ha).symm
    generalize hi : inspect (Session.recording opener) pool (memory, []) scanner.module = inspected
      at hmemory
    rw [scan_eq tree hs hi]
    exact hmemory

end Scans

end Scanner

namespace Session

/-! ## What stands under a name -/

/-- The scanner that a step makes or scans with. -/
def Step.scanner? : Step → Option String
  | .prepare name _ _ => some name
  | .scan name _ => some name
  | _ => none

theorem scanners_dropHandle (session : Session σ ρ) (name : String) :
    (session.dropHandle name).2.scanners = session.scanners := by
  unfold Session.dropHandle
  cases session.handles.get? name <;> rfl

theorem scanners_keep (session : Session σ ρ) (name : String) (handle : Handle ρ) :
    (session.keep name handle).session.scanners = session.scanners :=
  session.scanners_dropHandle name

theorem scanners_onHandle {α : Type} (session : Session σ ρ) (name : String)
    (call : Handle ρ → Pool ρ → Recorded σ →
      Handle.Outcome α (Recorded σ) ρ × Option (Returned ρ)) (reply : Except Error α → Reply ρ) :
    (session.onHandle name call reply).session.scanners = session.scanners := by
  unfold Session.onHandle
  cases session.handles.get? name <;> rfl

theorem scanners_take (session : Session σ ρ) (harvest : String) (index : Nat) (name : String) :
    (session.take harvest index name).session.scanners = session.scanners := by
  unfold Session.take
  cases session.harvests.get? harvest with
  | none => rfl
  | some found =>
    dsimp only
    cases (found.paths[index]?).join with
    | none => rfl
    | some path => exact scanners_keep _ name _

theorem scanners_dropLease (session : Session σ ρ) (name : String) :
    (session.dropLease name).scanners = session.scanners := by
  unfold Session.dropLease
  cases session.leases.get? name <;> rfl

theorem scanners_acquire (opener : Opener σ ρ) (session : Session σ ρ) (name : String)
    (module : Module) :
    (session.acquire opener name module).session.scanners = session.scanners := by
  unfold Session.acquire
  rcases session.pool.acquire (recording opener) (session.memory, []) module with
    ⟨fault | lease, pool, memory, asked⟩
  · rfl
  · exact scanners_dropLease { session with pool := pool, memory := memory } name

/-- The states that are shown are those of the scanners. -/
theorem lookup_scannerStates (session : Session σ ρ) (name : String) :
    session.scannerStates.lookup name = (session.scanners.get? name).map Scanner.state :=
  Table.get?_map Scanner.state session.scanners name

/-- While a scan is on its way the session shows the scanner as its start has left it. -/
theorem lookup_scannerStates_busy (session : Session σ ρ) (name : String)
    {scanner started : Scanner} (h : scanner.start = .ok started) :
    (session.busy name scanner).scannerStates.lookup name = some started.state := by
  rw [lookup_scannerStates, busy, h]
  dsimp only
  rw [Table.get?_put, if_pos rfl]
  rfl

section Steps

variable [Readable ρ]

theorem get?_scanners_scan (opener : Opener σ ρ) (tree : FileTree) {session : Session σ ρ}
    {name : String} {scanner : Scanner} (h : session.scanners.get? name = some scanner)
    (harvest : Option String) (other : String) :
    (session.scan opener tree name harvest).session.scanners.get? other =
      if other = name then
        some (scanner.scan (recording opener) tree session.pool (session.memory, [])).scanner
      else session.scanners.get? other := by
  unfold Session.scan
  rw [h]
  exact Table.get?_put _ _ _ _

/-- No step changes a scanner under another name than its own. -/
theorem get?_scanners_perform (opener : Opener σ ρ) (tree : FileTree) (session : Session σ ρ)
    {step : Step} {name : String} (hs : step.scanner? ≠ some name) :
    (session.perform opener tree step).session.scanners.get? name = session.scanners.get? name := by
  cases step with
  | acquire lease module => rw [Session.perform, scanners_acquire]
  | release lease => exact congrArg (·.get? name) (session.scanners_dropLease lease)
  | closePool => rfl
  | prepare other module policy =>
    show (session.scanners.put other _).get? name = _
    rw [Table.get?_put, if_neg]
    rintro rfl
    exact hs rfl
  | scan other harvest =>
    rw [Session.perform]
    cases hg : session.scanners.get? other with
    | none =>
      unfold Session.scan
      rw [hg]
    | some scanner =>
      rw [get?_scanners_scan opener tree hg, if_neg]
      rintro rfl
      exact hs rfl
  | find scanner path handle =>
    dsimp only [Session.perform]
    cases session.scanners.get? scanner with
    | none => rfl
    | some found =>
      dsimp only
      cases found.handle? (ρ := ρ) path with
      | none => rfl
      | some kept => exact congrArg (·.get? name) (session.scanners_keep handle kept)
  | take harvest index handle =>
    exact congrArg (·.get? name) (session.scanners_take harvest index handle)
  | openBuffered handle => exact congrArg (·.get? name) (session.scanners_onHandle handle _ _)
  | load handle => exact congrArg (·.get? name) (session.scanners_onHandle handle _ _)
  | openStreaming handle => exact congrArg (·.get? name) (session.scanners_onHandle handle _ _)
  | drain handle how =>
    dsimp only [Session.perform]
    cases session.handles.get? handle <;> rfl
  | closeHandle handle =>
    dsimp only [Session.perform]
    cases session.handles.get? handle <;> rfl
  | dropHandle handle => exact congrArg (·.get? name) (session.scanners_dropHandle handle)

/-! ## Runs -/

/-- No scanner of the session is on its way. -/
def AtRest (session : Session σ ρ) : Prop :=
  session.scanners.All Scanner.AtRest

omit [Readable ρ] in
theorem atRest_empty (capacity : Nat) (memory : σ) :
    (empty capacity memory : Session σ ρ).AtRest :=
  Table.all_empty _

theorem AtRest.perform {session : Session σ ρ} (h : session.AtRest) (opener : Opener σ ρ)
    (tree : FileTree) (step : Step) : (session.perform opener tree step).session.AtRest := by
  intro name scanner hg
  by_cases hs : step.scanner? = some name
  · cases step with
    | prepare other module policy =>
      cases hs
      have hput : (session.scanners.put name (Scanner.fresh module policy)).get? name =
        some scanner := hg
      rw [Table.get?_put, if_pos rfl, Option.some.injEq] at hput
      rw [← hput]
      exact Scanner.atRest_fresh module policy
    | scan other harvest =>
      cases hs
      rw [Session.perform] at hg
      cases hb : session.scanners.get? name with
      | none =>
        unfold Session.scan at hg
        rw [hb] at hg
        exact h name scanner hg
      | some before =>
        rw [get?_scanners_scan opener tree hb, if_pos rfl, Option.some.injEq] at hg
        rw [← hg]
        exact Scanner.scan_atRest _ tree _ _ (h name before hb)
    | _ => cases hs
  · rw [get?_scanners_perform opener tree session hs] at hg
    exact h name scanner hg

theorem AtRest.after {session : Session σ ρ} (h : session.AtRest) (opener : Opener σ ρ)
    (tree : FileTree) (steps : List Step) : (session.after opener tree steps).AtRest :=
  after_invariant h fun step _ _ hb => hb.perform opener tree step

/-! ## Scanning -/

/-- A later scan is refused, and nothing changes. -/
theorem scan_again (opener : Opener σ ρ) (tree : FileTree) {session : Session σ ρ} {name : String}
    {scanner : Scanner} (hg : session.scanners.get? name = some scanner)
    (hs : scanner.started = true) (harvest : Option String) :
    (session.scan opener tree name harvest).reply =
        .scanned (.error (.usage (.alreadyScanned scanner.module.display))) ∧
      (session.scan opener tree name harvest).events = [] ∧
      (session.scan opener tree name harvest).session.pool = session.pool ∧
      (session.scan opener tree name harvest).session.memory = session.memory ∧
      (session.scan opener tree name harvest).session.scanners = session.scanners := by
  unfold Session.scan
  rw [hg]
  dsimp only
  rw [Scanner.scan_of_started _ tree _ _ hs]
  exact ⟨rfl, rfl, rfl, rfl, Table.put_of_get? hg⟩

/-- The first scan with a scanner: what it answers, shows and leaves. -/
structure FirstScan (opener : Opener σ ρ) (tree : FileTree) (session : Session σ ρ) (name : String)
    (scanner : Scanner) (turn : Turn σ ρ) (started ended : Scanner) (reports : List Report) :
    Prop where
  /-- First the scanner is started. Until it has a verdict it is scanning, -/
  start_eq : scanner.start = .ok started
  scanning : started.state = .scanning ∧ started.Silent ρ
  /-- and so the session shows it, while the container is asked for and while it is listed. -/
  shown : (session.busy name scanner).scannerStates.lookup name = some .scanning
  /-- The opener is asked for its module at most once, and sees that session. -/
  asked : turn.events = [] ∨
    turn.events = [.asked scanner.module (session.busy name scanner).scannerStates]
  /-- In that session the container is listed, and what comes of the listing is the verdict. -/
  ended_eq : ended = started.conclude (started.verdictOf tree
    (Scanner.inspect (recording opener) (session.busy name scanner).pool
      ((session.busy name scanner).memory, []) started.module).1)
  /-- The scan answers with its reports, never with a failure, and leaves the scanner ended. -/
  reply_eq : turn.reply = .scanned (.ok reports)
  get?_eq : turn.session.scanners.get? name = some ended
  /-- It reports every accepted path in order, or once the reason to skip the container. -/
  ends : (ended.state = .scanned ∧
      reports = ended.accepted.map fun a => .accepted a.path a.status) ∨
    ∃ reason, ended.state = .skipped reason ∧ reports = [.skipped scanner.module reason]
  /-- A container that cannot be had is skipped, whether the pool or the opener refuses it, -/
  refused : ∀ fault left,
    session.pool.acquire (recording opener) (session.memory, []) scanner.module =
        (.error fault, left) →
      ended.state = .skipped (.failed fault)
  /-- and so is one that cannot be listed. -/
  unlisted : ∀ lease left fault,
    session.pool.acquire (recording opener) (session.memory, []) scanner.module =
        (.ok lease, left) →
      Readable.paths lease.reader = .error fault → ended.state = .skipped (.failed fault)
  /-- The lease of the scan is given back. -/
  leases_eq : ∀ key, turn.session.pool.leases key = session.pool.leases key

theorem Sound.firstScan {session : Session σ ρ} (h : session.Sound) (opener : Opener σ ρ)
    (tree : FileTree) {name : String} {scanner : Scanner}
    (hg : session.scanners.get? name = some scanner) (hs : scanner.started = false)
    (hv : scanner.verdict = none) (harvest : Option String) :
    ∃ started ended reports, session.FirstScan opener tree name scanner
      (session.perform opener tree (.scan name harvest)) started ended reports := by
  have hscan : scanner.scan (recording opener) tree session.pool (session.memory, []) =
      ⟨_, _, _, _⟩ := Scanner.scan_eq tree hs rfl
  have hasked := scanner.scan_asked opener tree session.pool session.memory
  have hget := get?_scanners_scan opener tree hg harvest name
  have hsound := h.scan opener tree name harvest
  have hreply : (session.scan opener tree name harvest).reply =
      .scanned (scanner.scan (recording opener) tree session.pool (session.memory, [])).answer := by
    unfold Session.scan
    rw [hg]
    rfl
  have hevents : (session.scan opener tree name harvest).events =
      (session.busy name scanner).questions
        (scanner.scan (recording opener) tree session.pool (session.memory, [])).memory.2 := by
    unfold Session.scan
    rw [hg]
    rfl
  have hout : (session.scan opener tree name harvest).session.outstanding =
      session.outstanding := by
    unfold Session.scan
    rw [hg]
    rfl
  have hstart : scanner.start = .ok { scanner with started := true } := by
    unfold Scanner.start
    rw [if_neg (Bool.eq_false_iff.1 hs)]
  have hstate : ({ scanner with started := true } : Scanner).state = .scanning := by
    unfold Scanner.state
    rw [hv]
    rfl
  rw [if_pos rfl, hscan] at hget
  rw [hscan] at hreply
  refine ⟨{ scanner with started := true }, _, _, hstart, ?_, ?_, ?_, rfl, hreply, hget, ?_, ?_, ?_,
    ?_⟩
  · exact ⟨hstate, Scanner.silent_of_state (by rw [hstate]; exact Phase.noConfusion)⟩
  · rw [session.lookup_scannerStates_busy name hstart, hstate]
  · rcases hasked with hn | hm
    · exact .inl (hevents.trans (by rw [hn]; rfl))
    · exact .inr (hevents.trans (by rw [hm]; rfl))
  · exact Scanner.conclude_cases { scanner with started := true } _
  · intro fault left ha
    dsimp only [Scanner.inspect, pool_busy, memory_busy]
    rw [ha]
    rfl
  · intro lease left fault ha hp
    dsimp only [Scanner.inspect, pool_busy, memory_busy]
    rw [ha]
    dsimp only
    rw [hp]
    rfl
  · intro key
    show (session.scan opener tree name harvest).session.pool.leases key = _
    rw [hsound.balanced.counted.leases_eq, hout, h.balanced.counted.leases_eq]

/-- What holds of a scanner in a session, whatever is done next. -/
structure ScansOnce (opener : Opener σ ρ) (tree : FileTree) (session : Session σ ρ) (name : String)
    (scanner : Scanner) : Prop where
  /-- Between two steps it has not been scanned, or the scan has ended. -/
  state_cases : scanner.state = .unscanned ∨ scanner.state = .scanned ∨
    ∃ reason, scanner.state = .skipped reason
  /-- A scanner that has not been scanned can be, whatever comes of it. -/
  first : scanner.state = .unscanned → ∀ harvest, ∃ started ended reports,
    session.FirstScan opener tree name scanner (session.perform opener tree (.scan name harvest))
      started ended reports
  /-- Before the first scan it stays as it was made, -/
  waits : scanner.state = .unscanned → ∀ steps, (∀ step ∈ steps, step.scanner? ≠ some name) →
    (session.after opener tree steps).scanners.get? name = some scanner
  /-- and once it has ended, as the scan has left it, also by further scans. -/
  stays : scanner.state ≠ .unscanned → ∀ steps,
    (∀ module policy, .prepare name module policy ∉ steps) →
    (session.after opener tree steps).scanners.get? name = some scanner
  /-- A later scan reports nothing, asks for nothing and takes no lease. -/
  again : scanner.state ≠ .unscanned → ∀ harvest,
    (session.perform opener tree (.scan name harvest)).reply =
        .scanned (.error (.usage (.alreadyScanned scanner.module.display))) ∧
      (session.perform opener tree (.scan name harvest)).events = [] ∧
      (session.perform opener tree (.scan name harvest)).session.pool = session.pool ∧
      (session.perform opener tree (.scan name harvest)).session.memory = session.memory ∧
      (session.perform opener tree (.scan name harvest)).session.scanners = session.scanners
  /-- Unless the scan went through, there is nothing to be had. -/
  silent : scanner.state ≠ .scanned → scanner.Silent ρ

theorem Sound.scansOnce {session : Session σ ρ} (h : session.Sound) (hr : session.AtRest)
    (opener : Opener σ ρ) (tree : FileTree) {name : String} {scanner : Scanner}
    (hg : session.scanners.get? name = some scanner) :
    session.ScansOnce opener tree name scanner := by
  have hrest := hr name scanner hg
  have hstarted : scanner.state ≠ .unscanned → scanner.started = true := fun hn =>
    Bool.not_eq_false _ ▸ mt hrest.state_eq_unscanned_iff.2 hn
  refine ⟨hrest.state_cases, fun hu harvest => ?_, fun _ steps hs => ?_, fun hn steps hs => ?_,
    fun hn harvest => scan_again opener tree hg (hstarted hn) harvest, Scanner.silent_of_state⟩
  · have hs := hrest.state_eq_unscanned_iff.1 hu
    refine h.firstScan opener tree hg hs ?_ harvest
    unfold Scanner.AtRest at hrest
    rw [hs] at hrest
    exact Option.isNone_iff_eq_none.1 (Option.isSome_eq_false_iff.1 hrest.symm)
  · refine after_invariant (P := (·.scanners.get? name = some scanner)) hg
      fun step hm before hb => ?_
    rw [get?_scanners_perform opener tree before (hs step hm), hb]
  · refine after_invariant (P := (·.scanners.get? name = some scanner)) hg
      fun step hm before hb => ?_
    by_cases hsame : step.scanner? = some name
    · cases step with
      | prepare other module policy =>
        cases hsame
        exact absurd hm (hs module policy)
      | scan other harvest =>
        cases hsame
        rw [Session.perform, (scan_again opener tree hb (hstarted hn) harvest).2.2.2.2, hb]
      | _ => cases hsame
    · rw [get?_scanners_perform opener tree before hsame, hb]

/-- **One scan.** After every run, with any opener and any capacity, a scanner scans once. -/
theorem scansOnce_after (opener : Opener σ ρ) (tree : FileTree) (capacity : Nat) (memory : σ)
    (steps : List Step) (name : String) (scanner : Scanner)
    (hg : ((empty capacity memory : Session σ ρ).after opener tree steps).scanners.get? name =
      some scanner) :
    ((empty capacity memory : Session σ ρ).after opener tree steps).ScansOnce opener tree name
      scanner :=
  (sound_after opener tree capacity memory steps).scansOnce
    ((atRest_empty capacity memory).after opener tree steps) opener tree hg

/-- A scanner before its scan, and after a scan that the pool has refused. -/
theorem scansOnce_after_prepare :
    let opener := Scanner.listing ["a"]
    let waiting := Scanner.fresh (.named "m") .everything
    let refused := waiting.conclude (.skipped (.failed (.poolExhausted 0)))
    let after (steps : List Step) := (empty 0 ()).after opener (.empty "/") steps
    (after [.prepare "s" (.named "m") .everything]).ScansOnce opener (.empty "/") "s" waiting ∧
      (after [.prepare "s" (.named "m") .everything, .scan "s" none]).ScansOnce opener (.empty "/")
        "s" { refused with started := true } :=
  ⟨scansOnce_after _ _ 0 () _ "s" _ rfl, scansOnce_after _ _ 0 () _ "s" _ rfl⟩

end Steps

end Session

end SearchPath
