import Mathlib.Data.List.Nodup
import Mathlib.Data.List.SplitBy
import SearchPath.Container.Memory
import SearchPath.Proofs.Text.Order
import SearchPath.Scanner

/-!
# Judging a listing

The walk over a listing asks the policy about a directory only where the path before lies in
another one, collects what it finds in several places, and gives all of it up at the first rejected
path. What it comes to depends on the policy and on the resource paths alone.

1. The walk goes through the resource paths in the order of their octets, whatever the order of the
   listing (`resourcePaths_perm`, `resourcePaths_sorted`, `resourcePaths_congr`).
2. `Walk.Found` says what has been found on the way; every path that no rule rejects keeps it
   (`Found.visit`), and so does every list of them (`Found.visitAll`). The first rejected path ends
   the walk (`visitAll_of_find?`).
3. Main result (`scan_of_listing`): a scan that gets a listing ends as the policy says of it, and
   ends the same for the listing in any other order.
-/

namespace SearchPath

open Policy Text

/-! ## Maximal runs -/

theorem length_splitBy_loop_append_singleton {α : Type} (r : α → α → Bool) (rest : List α)
    (last next : α) (run : List α) (runs : List (List α)) :
    (List.splitBy.loop r (rest ++ [next]) last run runs).length =
      (List.splitBy.loop r rest last run runs).length +
        if r ((last :: rest).getLast (List.cons_ne_nil _ _)) next = true then 0 else 1 := by
  induction rest generalizing last run runs with
  | nil =>
    rw [List.getLast_singleton, List.nil_append, List.splitBy.loop]
    cases r last next <;> simp [List.splitBy.loop]
  | cons a rest ih =>
    rw [List.getLast_cons (List.cons_ne_nil a rest), List.cons_append, List.splitBy.loop,
      List.splitBy.loop]
    cases r last a <;> exact ih _ _ _

/-- A further element goes on with the last run or begins another one. -/
theorem length_splitBy_append_singleton {α : Type} (r : α → α → Bool) (l : List α) (next : α) :
    ((l ++ [next]).splitBy r).length =
      (l.splitBy r).length + if l.getLast?.any (r · next) = true then 0 else 1 := by
  cases l with
  | nil => rfl
  | cons a rest =>
    rw [List.getLast?_eq_some_getLast (List.cons_ne_nil a rest), Option.any_some]
    exact length_splitBy_loop_append_singleton r rest a next [] []

/-! ## Resource paths -/

/-- The paths of a listing that name resources, not directories. -/
def resourcesIn (listing : List String) : List String :=
  listing.filter fun path => !path.endsWith "/"

theorem resourcePaths_perm (listing : List String) :
    (resourcePaths listing).Perm (resourcesIn listing) :=
  (List.mergeSort_perm listing _).filter _

theorem mem_resourcePaths {listing : List String} {path : String} :
    path ∈ resourcePaths listing ↔ path ∈ resourcesIn listing :=
  (resourcePaths_perm listing).mem_iff

theorem not_decide_lt_iff {a b : String} : (!decide (b < a)) = true ↔ a ≤ b := by
  rw [Bool.not_eq_true', decide_eq_false_iff_not, not_lt]

theorem resourcePaths_sorted (listing : List String) :
    (resourcePaths listing).Pairwise fun a b => octets a ≤ octets b := by
  have htrans : ∀ a b c : String, (!decide (b < a)) = true → (!decide (c < b)) = true →
      (!decide (c < a)) = true := fun a b c hab hbc =>
    not_decide_lt_iff.2 ((not_decide_lt_iff.1 hab).trans (not_decide_lt_iff.1 hbc))
  have htotal : ∀ a b : String, (!decide (b < a) || !decide (a < b)) = true := by
    intro a b
    rw [Bool.or_eq_true, not_decide_lt_iff, not_decide_lt_iff]
    exact le_total a b
  have hsorted := List.pairwise_mergeSort htrans htotal listing
  refine (hsorted.sublist List.filter_sublist).imp fun {a b} h => ?_
  rw [octets_le_octets_iff]
  exact not_decide_lt_iff.1 h

/-- Listings of the same paths are walked through in the same order. -/
theorem resourcePaths_congr {listing other : List String} (h : listing.Perm other) :
    resourcePaths listing = resourcePaths other := by
  refine List.Perm.eq_of_pairwise (fun a b _ _ hab hba => ?_) (resourcePaths_sorted listing)
    (resourcePaths_sorted other)
    ((resourcePaths_perm listing).trans ((h.filter _).trans (resourcePaths_perm other).symm))
  exact le_antisymm (octets_le_octets_iff.1 hab) (octets_le_octets_iff.1 hba)

/-! ## Rules on whole paths -/

/-- One of the patterns matches the path. -/
def MatchedBy (patterns : List String) (path : String) : Prop :=
  ∃ pattern ∈ patterns, globMatches pattern path = true

theorem rejects_iff {globs : GlobRules} {path : String} :
    globs.rejects path = true ↔ MatchedBy globs.reject path :=
  List.any_eq_true

theorem rejects_eq_false_iff {globs : GlobRules} {path : String} :
    globs.rejects path = false ↔ ¬ MatchedBy globs.reject path := by
  rw [← rejects_iff, Bool.not_eq_true]

/-- Where no rule rejects a path it is asked for exactly if a rule asks for it. -/
theorem requests_iff {globs : GlobRules} {path : String} (h : globs.rejects path = false) :
    globs.requests path = true ↔ MatchedBy globs.accept path := by
  rw [GlobRules.requests, h, Bool.not_false, Bool.and_true]
  exact List.any_eq_true

/-! ## The walk -/

/-- Whether two paths lie in the same directory. -/
def sameDirectory (a b : String) : Bool :=
  parentDirectory a == parentDirectory b

namespace Walk

variable {policy : Policy} {paths : List String} {walk : Walk} {path : String}

/-- What the walk has found on the paths behind it, none of which a rule rejects. -/
structure Found (policy : Policy) (paths : List String) (walk : Walk) : Prop where
  accepted_eq : walk.findings.accepted =
    (paths.filter policy.acceptsPath).map fun path => ⟨path, policy.statusOf path⟩
  mem_known : ∀ path, path ∈ walk.findings.known ↔ path ∈ paths
  known_nodup : walk.findings.known.Nodup
  requested_eq : walk.findings.requested = paths.any policy.globs.requests
  /-- The policy was asked once for every run of paths in one directory. -/
  directoriesAsked_eq : walk.findings.directoriesAsked = (paths.splitBy sameDirectory).length
  last_eq : walk.last =
    paths.getLast?.map fun path => (parentDirectory path, policy.statusOf path)

theorem found_begin (policy : Policy) : Found policy [] begin where
  accepted_eq := rfl
  mem_known _ := Iff.rfl
  known_nodup := List.nodup_nil
  requested_eq := rfl
  directoriesAsked_eq := rfl
  last_eq := rfl

/-- What the walk remembers of the last directory is what the policy says of it. -/
theorem Found.status_eq (h : Found policy paths walk) (path : String) :
    walk.status policy (parentDirectory path) =
      (policy.statusOf path,
        if paths.getLast?.any (sameDirectory · path) = true then 0 else 1) := by
  unfold status
  rw [h.last_eq]
  cases paths.getLast? with
  | none => rfl
  | some last =>
    simp only [Option.map_some, Option.any_some, sameDirectory, beq_iff_eq]
    split_ifs with hd
    · rw [statusOf, statusOf, hd]
    · rfl

theorem visit_of_rejects (policy : Policy) (walk : Walk) (h : policy.globs.rejects path = true) :
    walk.visit policy path = .error (.rejectedResource path) :=
  if_pos h

theorem mem_ite_contains {known : List String} {other : String} :
    other ∈ (if known.contains path then known else known ++ [path]) ↔
      other ∈ known ∨ other = path := by
  split_ifs with h
  · constructor
    · exact .inl
    · rintro (ho | rfl)
      · exact ho
      · exact List.contains_iff_mem.1 h
  · rw [List.mem_append, List.mem_singleton]

theorem nodup_ite_contains {known : List String} (h : known.Nodup) (path : String) :
    (if known.contains path then known else known ++ [path]).Nodup := by
  split_ifs with hc
  · exact h
  · rw [← List.concat_eq_append]
    exact h.concat fun hm => hc (List.contains_iff_mem.2 hm)

/-- A path that no rule rejects is found as the policy says of it. -/
theorem Found.visit (h : Found policy paths walk) (hr : policy.globs.rejects path = false) :
    ∃ next, walk.visit policy path = .ok next ∧ Found policy (paths ++ [path]) next := by
  unfold Walk.visit
  rw [if_neg (Bool.eq_false_iff.1 hr)]
  dsimp only
  rw [h.status_eq]
  refine ⟨_, rfl, ?_, fun other => ?_, nodup_ite_contains h.known_nodup path, ?_, ?_, ?_⟩
  · show (if policy.acceptsPath path = true then _ else _) = _
    rw [h.accepted_eq, List.filter_append, List.map_append, List.filter_singleton]
    cases policy.acceptsPath path with
    | true => rfl
    | false => exact (List.append_nil _).symm
  · rw [mem_ite_contains, h.mem_known, List.mem_append, List.mem_singleton]
  · dsimp only
    rw [h.requested_eq, List.any_append, List.any_cons, List.any_nil, Bool.or_false]
  · dsimp only
    rw [h.directoriesAsked_eq, length_splitBy_append_singleton]
  · rw [List.getLast?_append, List.getLast?_singleton]
    rfl

/-- What the walk has found after any number of paths that no rule rejects. -/
theorem Found.visitAll {before : List String} (h : Found policy before walk)
    (hr : ∀ path ∈ paths, policy.globs.rejects path = false) :
    ∃ after, paths.foldlM (Walk.visit policy) walk = .ok after ∧
      Found policy (before ++ paths) after := by
  induction paths generalizing before walk with
  | nil => exact ⟨walk, rfl, (List.append_nil before).symm ▸ h⟩
  | cons path rest ih =>
    obtain ⟨next, hn, hf⟩ := h.visit (hr path List.mem_cons_self)
    obtain ⟨after, ha, hfound⟩ := ih hf fun other ho => hr other (List.mem_cons_of_mem path ho)
    refine ⟨after, ?_, ?_⟩
    · rw [List.foldlM_cons, hn]
      exact ha
    · rwa [List.append_assoc] at hfound

/-- The first rejected path ends the walk, whatever has been found before. -/
theorem visitAll_of_find? (walk : Walk) (h : paths.find? policy.globs.rejects = some path) :
    paths.foldlM (Walk.visit policy) walk = .error (.rejectedResource path) := by
  induction paths generalizing walk with
  | nil => cases h
  | cons first rest ih =>
    rw [List.foldlM_cons]
    by_cases hr : policy.globs.rejects first = true
    · rw [List.find?_cons_of_pos hr, Option.some.injEq] at h
      rw [visit_of_rejects policy walk hr, h]
      rfl
    · rw [List.find?_cons_of_neg hr] at h
      unfold Walk.visit
      rw [if_neg hr]
      exact ih _ h

end Walk

/-! ## The judgement -/

/-- In a sorted list the first element with a property is the least. -/
theorem octets_le_of_find? {paths : List String} {p : String → Bool} {path : String}
    (hs : paths.Pairwise fun a b => octets a ≤ octets b) (h : paths.find? p = some path)
    {other : String} (ho : other ∈ paths) (hp : p other = true) : octets path ≤ octets other := by
  obtain ⟨-, before, after, rfl, hbefore⟩ := List.find?_eq_some_iff_append.1 h
  rcases List.mem_append.1 ho with hm | hm
  · have := hbefore other hm
    rw [hp] at this
    cases this
  · rcases List.mem_cons.1 hm with rfl | hm
    · exact List.le_refl _
    · exact (List.pairwise_cons.1 (List.pairwise_append.1 hs).2.1).1 other hm

theorem judge_congr (policy : Policy) {listing other : List String} (h : listing.Perm other) :
    judge policy listing = judge policy other := by
  rw [judge, judge, resourcePaths_congr h]

/-- Where a rule rejects a resource path, the least one spoils the container. -/
theorem judge_of_rejects {policy : Policy} {listing : List String}
    (h : ∃ path ∈ resourcesIn listing, MatchedBy policy.globs.reject path) :
    ∃ path ∈ resourcesIn listing, MatchedBy policy.globs.reject path ∧
      (∀ other ∈ resourcesIn listing, MatchedBy policy.globs.reject other →
        octets path ≤ octets other) ∧
      judge policy listing = .error (.rejectedResource path) := by
  obtain ⟨some, hm, hr⟩ := h
  have hfound : ((resourcePaths listing).find? policy.globs.rejects).isSome = true :=
    List.find?_isSome.2 ⟨some, mem_resourcePaths.2 hm, rejects_iff.2 hr⟩
  obtain ⟨path, hf⟩ := Option.isSome_iff_exists.1 hfound
  refine ⟨path, mem_resourcePaths.1 (List.mem_of_find?_eq_some hf),
    rejects_iff.1 (List.find?_some hf), fun other ho hp => ?_, ?_⟩
  · exact octets_le_of_find? (resourcePaths_sorted listing) hf (mem_resourcePaths.2 ho)
      (rejects_iff.2 hp)
  · rw [judge, Walk.visitAll_of_find? Walk.begin hf]
    rfl

/-- Where no rule rejects a resource path, the findings are those of a walk through all. -/
theorem judge_of_not_rejects {policy : Policy} {listing : List String}
    (h : ∀ path ∈ resourcesIn listing, ¬ MatchedBy policy.globs.reject path) :
    ∃ walk : Walk, Walk.Found policy (resourcePaths listing) walk ∧
      judge policy listing = .ok walk.findings := by
  have hnone : ∀ path ∈ resourcePaths listing, policy.globs.rejects path = false :=
    fun path hp => rejects_eq_false_iff.2 (h path (mem_resourcePaths.1 hp))
  obtain ⟨walk, hw, hf⟩ := (Walk.found_begin policy).visitAll hnone
  refine ⟨walk, hf, ?_⟩
  rw [judge, hw]
  rfl

namespace Scanner

variable {σ ρ : Type}

/-- The scan of a listing has ended as the policy of the scanner says. -/
structure Result.FollowsPolicy (result : Result σ ρ) (scanner : Scanner) (listing : List String) :
    Prop where
  /-- If a rule rejects a resource path, the least such path is the reason to skip the container,
  and nothing is accepted, known or asked for. -/
  skipped : (∃ path ∈ resourcesIn listing, MatchedBy scanner.policy.globs.reject path) →
    ∃ path ∈ resourcesIn listing, MatchedBy scanner.policy.globs.reject path ∧
      (∀ other ∈ resourcesIn listing, MatchedBy scanner.policy.globs.reject other →
        octets path ≤ octets other) ∧
      result.scanner.state = .skipped (.rejectedResource path) ∧
      result.answer = .ok [.skipped scanner.module (.rejectedResource path)] ∧
      result.scanner.accepted = [] ∧ result.scanner.known = [] ∧
      result.scanner.requested = false ∧ result.scanner.directoriesAsked = 0
  /-- Otherwise the resource paths are walked through in the order of their octets: those are
  accepted, with the status of their own directory, that the policy accepts, and all are known. -/
  scanned : (∀ path ∈ resourcesIn listing, ¬ MatchedBy scanner.policy.globs.reject path) →
    ∃ sorted : List String, sorted.Perm (resourcesIn listing) ∧
      sorted.Pairwise (fun a b => octets a ≤ octets b) ∧
      result.scanner.state = .scanned ∧
      result.scanner.accepted = (sorted.filter fun path =>
        scanner.policy.accepts (scanner.policy.matchDirectory (parentDirectory path)) path).map
          (fun path => ⟨path, scanner.policy.matchDirectory (parentDirectory path)⟩) ∧
      result.answer = .ok (result.scanner.accepted.map fun a => .accepted a.path a.status) ∧
      (∀ path, path ∈ result.scanner.known ↔ path ∈ resourcesIn listing) ∧
      result.scanner.known.Nodup ∧
      (result.scanner.requested = true ↔
        ∃ path ∈ resourcesIn listing, MatchedBy scanner.policy.globs.accept path) ∧
      result.scanner.directoriesAsked =
        (sorted.splitBy fun a b => parentDirectory a == parentDirectory b).length

/-- What a scan answers and leaves, once the container has been listed. -/
theorem scan_eq [Readable ρ] {opener : Opener σ ρ} (tree : FileTree) {scanner : Scanner}
    {pool after : Pool ρ} {memory left : σ} {listed : Except ContainerFault (List String)}
    (hs : scanner.started = false)
    (hl : inspect opener pool memory scanner.module = (listed, after, left)) :
    scanner.scan opener tree pool memory =
      ⟨.ok (scanner.reports (scanner.verdictOf tree listed)),
        { scanner with started := true, verdict := some (scanner.verdictOf tree listed) },
        after, left⟩ := by
  unfold scan start
  rw [if_neg (Bool.eq_false_iff.1 hs)]
  dsimp only
  rw [hl]
  rfl

/-- **The policy decides.** A scan that gets a listing ends as the policy says of it. It ends the
same for the same paths listed in any order, also by another reader of another pool. -/
theorem scan_of_listing [Readable ρ] (opener : Opener σ ρ) (tree : FileTree) (scanner : Scanner)
    (pool after : Pool ρ) (memory left : σ) (listing : List String)
    (hs : scanner.started = false)
    (hl : inspect opener pool memory scanner.module = (.ok listing, after, left)) :
    (scanner.scan opener tree pool memory).FollowsPolicy scanner listing ∧
      ∀ {μ τ : Type} [Readable τ] (opener' : Opener μ τ) (pool' after' : Pool τ)
        (memory' left' : μ) (listing' : List String), listing'.Perm listing →
        inspect opener' pool' memory' scanner.module = (.ok listing', after', left') →
        (scanner.scan opener' tree pool' memory').answer =
            (scanner.scan opener tree pool memory).answer ∧
          (scanner.scan opener' tree pool' memory').scanner =
            (scanner.scan opener tree pool memory).scanner := by
  rw [scan_eq tree hs hl]
  refine ⟨⟨fun h => ?_, fun h => ?_⟩, ?_⟩
  · obtain ⟨path, hm, hr, hleast, hj⟩ := judge_of_rejects h
    have hv : scanner.verdictOf tree (.ok listing) = .skipped (.rejectedResource path) := by
      unfold verdictOf
      dsimp only
      rw [hj]
    rw [hv]
    exact ⟨path, hm, hr, hleast, rfl, rfl, rfl, rfl, rfl, rfl⟩
  · obtain ⟨walk, hf, hj⟩ := judge_of_not_rejects h
    have hv : scanner.verdictOf tree (.ok listing) =
        .scanned walk.findings (scanner.module.file.any tree.pathExists) := by
      unfold verdictOf
      dsimp only
      rw [hj]
    rw [hv]
    refine ⟨resourcePaths listing, resourcePaths_perm listing, resourcePaths_sorted listing, rfl,
      hf.accepted_eq, rfl, fun path => (hf.mem_known path).trans mem_resourcePaths,
      hf.known_nodup, ?_, hf.directoriesAsked_eq⟩
    show walk.findings.requested = true ↔ _
    rw [hf.requested_eq, List.any_eq_true]
    constructor
    · rintro ⟨path, hm, hp⟩
      have hmem := mem_resourcePaths.1 hm
      exact ⟨path, hmem, (requests_iff (rejects_eq_false_iff.2 (h path hmem))).1 hp⟩
    · rintro ⟨path, hm, hp⟩
      exact ⟨path, mem_resourcePaths.2 hm, (requests_iff (rejects_eq_false_iff.2 (h path hm))).2 hp⟩
  · intro μ τ _ opener' pool' after' memory' left' listing' hp hl'
    rw [scan_eq tree hs hl']
    have hv : scanner.verdictOf tree (.ok listing') = scanner.verdictOf tree (.ok listing) := by
      unfold verdictOf
      dsimp only
      rw [judge_congr scanner.policy hp]
    rw [hv]
    exact ⟨rfl, rfl⟩

/-- An opener for which every module is a container with these paths. -/
def listing (paths : List String) : Opener Unit MemoryContainer :=
  fun _ memory => (.ok ⟨paths.map fun path => (path, [])⟩, memory)

/-- One directory comes in two runs, the other one between them, and one path is there twice. -/
theorem scan_of_listing_in_runs :
    let scanner := fresh (.named "m") .everything
    let paths := ["a/c", "a/b/c", "a/", "a/b.txt", "a/c"]
    let result (paths : List String) :=
      scanner.scan (listing paths) (.empty "/") (Pool.empty 1) ()
    (result paths).FollowsPolicy scanner paths ∧
      (result paths.reverse).answer = (result paths).answer ∧
      (result paths.reverse).scanner = (result paths).scanner := by
  intro scanner paths result
  have h := scan_of_listing (listing paths) (.empty "/") scanner (Pool.empty 1) _ () _ paths rfl rfl
  exact ⟨h.1, h.2 (listing paths.reverse) (Pool.empty 1) _ () _ paths.reverse
    paths.reverse_perm rfl⟩

end Scanner

end SearchPath
