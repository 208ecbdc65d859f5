import SearchPath.FileTree
import SearchPath.Policy.Basic
import SearchPath.Handle

/-!
# Scanners

A scanner walks the listing of one container once, applies the policy to every path, and reports
the accepted resources.

1. `start` moves a fresh scanner to scanning, and refuses one that has been started before;
2. `inspect` takes a lease, lists the container and gives the lease back; any failure is a reason
   to skip the container;
3. `judge` applies the policy to the listing in the order of its octets;
4. `conclude` records the verdict for good.

Of the time of the container's file it is only kept whether there is one.
-/

namespace SearchPath

/-! ## Verdicts -/

/-- Why a container contributed nothing. -/
inductive Refusal where
  /-- The reader could not be had, or could not list. -/
  | failed (error : ContainerFault)
  /-- A rule rejects the path of a resource. -/
  | rejectedResource (path : String)
  deriving DecidableEq, Repr

/-- Whether the reason is a failure rather than a decision. -/
def Refusal.isFault : Refusal → Bool
  | .failed _ => true
  | .rejectedResource _ => false

def Refusal.message : Refusal → String
  | .failed e => "container failed: " ++ e.message
  | .rejectedResource path => "contains blacklisted resource " ++ path

def Refusal.debug : Refusal → String
  | .failed e => "Failed(" ++ e.debug ++ ")"
  | .rejectedResource path => "BlacklistedResource(" ++ Text.quoted path ++ ")"

inductive Phase where
  | unscanned
  | scanning
  | scanned
  | skipped (reason : Refusal)
  deriving DecidableEq, Repr

def Phase.debug : Phase → String
  | .unscanned => "Unscanned"
  | .scanning => "Scanning"
  | .scanned => "Scanned"
  | .skipped reason => "Skipped(" ++ reason.debug ++ ")"

structure Acceptance where
  path : String
  status : DirectoryMatch
  deriving DecidableEq, Repr

structure Findings where
  accepted : List Acceptance
  /-- Every resource path, accepted or not. -/
  known : List String
  /-- Whether a rule asks for one of the paths. -/
  requested : Bool
  /-- How often the policy was asked about a directory. -/
  directoriesAsked : Nat
  deriving DecidableEq, Repr

inductive Verdict where
  /-- With these findings; the flag says whether the time of the container's file is known. -/
  | scanned (findings : Findings) (dated : Bool)
  | skipped (reason : Refusal)
  deriving DecidableEq, Repr

/-! ## The walk -/

/-- The findings on the way, with the last directory and what the policy said of it. -/
structure Walk where
  findings : Findings
  last : Option (String × DirectoryMatch)
  deriving DecidableEq, Repr

namespace Walk

def begin : Walk :=
  ⟨⟨[], [], false, 0⟩, none⟩

/-- What the policy says of a directory, asked only if it is not the last one. -/
def status (policy : Policy) (walk : Walk) (directory : String) : DirectoryMatch × Nat :=
  match walk.last with
  | some (last, status) =>
    if last = directory then (status, 0) else (policy.matchDirectory directory, 1)
  | none => (policy.matchDirectory directory, 1)

def visit (policy : Policy) (walk : Walk) (path : String) : Except Refusal Walk :=
  if policy.globs.rejects path then .error (.rejectedResource path)
  else
    let directory := Policy.parentDirectory path
    let (status, asked) := walk.status policy directory
    let found := walk.findings
    .ok {
      findings := {
        accepted :=
          if policy.accepts status path then found.accepted ++ [⟨path, status⟩]
          else found.accepted
        known := if found.known.contains path then found.known else found.known ++ [path]
        requested := found.requested || policy.globs.requests path
        directoriesAsked := found.directoriesAsked + asked }
      last := some (directory, status) }

end Walk

/-- The paths of a listing that name resources, not directories, in the order of their octets. -/
def resourcePaths (listing : List String) : List String :=
  (listing.mergeSort fun a b => !decide (b < a)).filter fun path => !path.endsWith "/"

/-- The findings in a listing, or the path that spoils the container. -/
def judge (policy : Policy) (listing : List String) : Except Refusal Findings :=
  ((resourcePaths listing).foldlM (Walk.visit policy) Walk.begin).map (·.findings)

/-! ## Scanners -/

structure Scanner where
  module : Module
  policy : Policy
  started : Bool
  verdict : Option Verdict
  deriving Repr

inductive Report where
  | accepted (path : String) (status : DirectoryMatch)
  | skipped (module : Module) (reason : Refusal)
  deriving DecidableEq, Repr

namespace Scanner

variable {ρ σ : Type}

def fresh (module : Module) (policy : Policy) : Scanner :=
  ⟨module, policy, false, none⟩

def key (scanner : Scanner) : ContainerId :=
  scanner.module.key

def state (scanner : Scanner) : Phase :=
  match scanner.verdict with
  | some (.scanned _ _) => .scanned
  | some (.skipped reason) => .skipped reason
  | none => if scanner.started then .scanning else .unscanned

/-! ### Scanning -/

/-- The scanner on its way, unless it has been started before. -/
def start (scanner : Scanner) : Except Error Scanner :=
  if scanner.started then .error (.usage (.alreadyScanned scanner.module.display))
  else .ok { scanner with started := true }

/-- The listing of the container, the pool with the lease given back, and what the opener
remembers. -/
def inspect [Readable ρ] (opener : Opener σ ρ) (pool : Pool ρ) (memory : σ)
    (module : Module) : Except ContainerFault (List String) × Pool ρ × σ :=
  match pool.acquire opener memory module with
  | (.error e, pool, memory) => (.error e, pool, memory)
  | (.ok lease, pool, memory) =>
    (Readable.paths lease.reader, pool.release lease.key, memory)

def verdictOf (tree : FileTree) (scanner : Scanner)
    (listed : Except ContainerFault (List String)) : Verdict :=
  match listed with
  | .error e => .skipped (.failed e)
  | .ok listing =>
    match judge scanner.policy listing with
    | .error reason => .skipped reason
    | .ok findings => .scanned findings (scanner.module.file.any tree.pathExists)

def conclude (scanner : Scanner) (verdict : Verdict) : Scanner :=
  { scanner with verdict := some verdict }

def reports (scanner : Scanner) : Verdict → List Report
  | .scanned findings _ => findings.accepted.map fun a => .accepted a.path a.status
  | .skipped reason => [.skipped scanner.module reason]

def reportedPaths : Except Error (List Report) → List String
  | .error _ => []
  | .ok reports => reports.filterMap fun
    | .accepted path _ => some path
    | .skipped _ _ => none

/-- What a scan leaves: its reports, the scanner, the pool, and what the opener remembers. -/
structure Result (σ ρ : Type) where
  answer : Except Error (List Report)
  scanner : Scanner
  pool : Pool ρ
  memory : σ

def scan [Readable ρ] (opener : Opener σ ρ) (tree : FileTree) (scanner : Scanner)
    (pool : Pool ρ) (memory : σ) : Result σ ρ :=
  match scanner.start with
  | .error e => ⟨.error e, scanner, pool, memory⟩
  | .ok started =>
    let (listed, pool, memory) := inspect opener pool memory started.module
    let verdict := started.verdictOf tree listed
    ⟨.ok (started.reports verdict), started.conclude verdict, pool, memory⟩

/-! ### Findings -/

def findings? (scanner : Scanner) : Option Findings :=
  match scanner.verdict with
  | some (.scanned findings _) => some findings
  | _ => none

def accepted (scanner : Scanner) : List Acceptance :=
  (scanner.findings?.map (·.accepted)).getD []

def known (scanner : Scanner) : List String :=
  (scanner.findings?.map (·.known)).getD []

def requested (scanner : Scanner) : Bool :=
  scanner.findings?.any (·.requested)

def directoriesAsked (scanner : Scanner) : Nat :=
  (scanner.findings?.map (·.directoriesAsked)).getD 0

/-- Whether the time of the container's file is known. -/
def dated (scanner : Scanner) : Bool :=
  match scanner.verdict with
  | some (.scanned _ dated) => dated
  | _ => false

/-- A handle on a resource of the container, by its path in any spelling. -/
def handle? (scanner : Scanner) (relative : String) : Option (Handle ρ) :=
  if relative.endsWith "/" then none
  else
    -- what has been listed is known as it was spelled there
    let path := Path.entryPath relative
    if path = "" then none
    else if scanner.known.contains path then some (Handle.fresh path scanner.module)
    else none

def handles (scanner : Scanner) : List (Handle ρ) :=
  scanner.accepted.map fun a => Handle.fresh a.path scanner.module

def debug (scanner : Scanner) : String :=
  Text.record "ModuleScanner"
    [("module", scanner.module.debug), ("state", scanner.state.debug)]

end Scanner

end SearchPath
