import SearchPath.Proofs.Path.Entry
import SearchPath.Proofs.Scan.Judgement

/-!
# Resources looked up

A scan keeps the paths of a listing as they are listed; a look-up writes its path anew, as a path
inside a container.

1. The findings of a scan come from a walk through a listing (`found_of_scan`): what it knows are
   resources, not directories, and what it accepts it knows. Where no rule rejects a resource, all
   of them are known (`known_of_listing`).
2. A look-up leads to the resource that its path names when written anew, if that is known
   (`handle?_eq`).
3. Main result (`handle_of_known`): a known path leads to its own resource exactly if it is written
   as a path inside a container. Any other one leads to another resource or to none.
-/

namespace SearchPath

open Policy

/-! ## Findings -/

/-- The findings in a listing are those of a walk through its resource paths. -/
theorem found_of_judge {policy : Policy} {listing : List String} {findings : Findings}
    (h : judge policy listing = .ok findings) :
    ∃ walk : Walk, Walk.Found policy (resourcePaths listing) walk ∧ walk.findings = findings := by
  have hr : ∀ path ∈ resourcesIn listing, ¬MatchedBy policy.globs.reject path := by
    intro path hm hp
    obtain ⟨least, -, -, -, hj⟩ := judge_of_rejects ⟨path, hm, hp⟩
    rw [hj] at h
    cases h
  obtain ⟨walk, hf, hj⟩ := judge_of_not_rejects hr
  rw [hj] at h
  exact ⟨walk, hf, Except.ok.inj h⟩

theorem Walk.Found.not_directory {policy : Policy} {listing : List String} {walk : Walk}
    (h : Walk.Found policy (resourcePaths listing) walk) {path : String}
    (hp : path ∈ walk.findings.known) : path.endsWith "/" = false := by
  have hm := mem_resourcePaths.1 ((h.mem_known path).1 hp)
  have := (List.mem_filter.1 hm).2
  rwa [Bool.not_eq_true'] at this

theorem Walk.Found.accepted_known {policy : Policy} {paths : List String} {walk : Walk}
    (h : Walk.Found policy paths walk) {a : Acceptance} (ha : a ∈ walk.findings.accepted) :
    a.path ∈ walk.findings.known := by
  rw [h.accepted_eq] at ha
  obtain ⟨path, hp, rfl⟩ := List.mem_map.1 ha
  exact (h.mem_known path).2 (List.mem_filter.1 hp).1

namespace Scanner

variable {σ ρ : Type}

/-- A scan that does not skip the container has walked through a listing. -/
theorem found_of_scan [Readable ρ] (opener : Opener σ ρ) (tree : FileTree) {scanner : Scanner}
    (pool : Pool ρ) (memory : σ) (hs : scanner.started = false)
    (hd : (scanner.scan opener tree pool memory).scanner.state = .scanned) :
    ∃ (listing : List String) (walk : Walk),
      Walk.Found scanner.policy (resourcePaths listing) walk ∧
      (scanner.scan opener tree pool memory).scanner.findings? = some walk.findings := by
  obtain ⟨listed, after, left, hl⟩ : ∃ listed after left,
      inspect opener pool memory scanner.module = (listed, after, left) := ⟨_, _, _, rfl⟩
  rw [scan_eq tree hs hl] at hd ⊢
  cases listed with
  | error e => cases hd
  | ok listing =>
    cases hj : judge scanner.policy listing with
    | error reason =>
      simp only [verdictOf, hj, state] at hd
      cases hd
    | ok findings =>
      obtain ⟨walk, hf, rfl⟩ := found_of_judge hj
      refine ⟨listing, walk, hf, ?_⟩
      simp only [verdictOf, hj, findings?]

/-- Where no rule rejects a listed resource the scan knows all of them. -/
theorem known_of_listing [Readable ρ] {opener : Opener σ ρ} (tree : FileTree) {scanner : Scanner}
    {pool after : Pool ρ} {memory left : σ} {listing : List String} (hs : scanner.started = false)
    (hl : inspect opener pool memory scanner.module = (.ok listing, after, left))
    (hr : ∀ path ∈ resourcesIn listing, ¬MatchedBy scanner.policy.globs.reject path) :
    (scanner.scan opener tree pool memory).scanner.state = .scanned ∧
      ∀ path, path ∈ (scanner.scan opener tree pool memory).scanner.known ↔
        path ∈ resourcesIn listing := by
  obtain ⟨walk, hf, hj⟩ := judge_of_not_rejects hr
  have hv : scanner.verdictOf tree (.ok listing) =
      .scanned walk.findings (scanner.module.file.any tree.pathExists) := by
    simp only [verdictOf, hj]
  rw [scan_eq tree hs hl, hv]
  exact ⟨rfl, fun path => (hf.mem_known path).trans mem_resourcePaths⟩

/-! ## Look-ups -/

/-- A look-up of what is no directory leads to what its path names when written anew. -/
theorem handle?_eq {scanner : Scanner} {path : String} (h : path.endsWith "/" = false) :
    (scanner.handle? path : Option (Handle ρ)) =
      if Path.entryPath path ≠ "" ∧ Path.entryPath path ∈ scanner.known then
        some (.fresh (Path.entryPath path) scanner.module)
      else none := by
  unfold handle?
  rw [h]
  by_cases he : Path.entryPath path = "" <;> simp [he]

/-- **Looking up what is known.** After a scan that did not skip the container, a known path leads
to its own resource if it is written as a path inside a container, and else to another known one or
to none. -/
theorem handle_of_known [Readable ρ] (opener : Opener σ ρ) (tree : FileTree) (scanner : Scanner)
    (pool : Pool ρ) (memory : σ) (hs : scanner.started = false)
    (hd : (scanner.scan opener tree pool memory).scanner.state = .scanned) :
    let done := (scanner.scan opener tree pool memory).scanner
    (∀ a ∈ done.accepted, a.path ∈ done.known) ∧
    (∀ path ∈ done.known, Path.IsEntry path.toList →
      (done.handle? path : Option (Handle ρ)) = some (.fresh path done.module)) ∧
    ∀ path ∈ done.known, ¬Path.IsEntry path.toList → ∀ handle : Handle ρ,
      done.handle? path = some handle → handle.path ≠ path ∧ handle.path ∈ done.known := by
  intro done
  obtain ⟨listing, walk, hf, hfound⟩ := found_of_scan opener tree pool memory hs hd
  have hknown : done.known = walk.findings.known := by
    unfold known
    rw [hfound]
    rfl
  have haccepted : done.accepted = walk.findings.accepted := by
    unfold accepted
    rw [hfound]
    rfl
  rw [haccepted, hknown]
  refine ⟨fun a ha => hf.accepted_known ha, fun path hp hentry => ?_,
    fun path hp hentry handle hh => ?_⟩
  · have hne : path ≠ "" := by
      rintro rfl
      exact hentry.ne_nil rfl
    rw [handle?_eq (hf.not_directory hp), (Path.entryPath_eq_self_iff hne).2 hentry, hknown,
      if_pos ⟨hne, hp⟩]
  · rw [handle?_eq (hf.not_directory hp), hknown] at hh
    split_ifs at hh with hk
    obtain rfl := Option.some.inj hh
    refine ⟨fun he => hentry ?_, hk.2⟩
    exact (Path.entryPath_eq_self_iff (he ▸ hk.1)).1 he

/-- A container holds two files whose paths differ by a slash: both are known, and the path of one
of them leads to the other one. -/
theorem handle_of_known_doubled_slash :
    let scanner := fresh (.named "m") .everything
    let done := (scanner.scan (listing ["a//b", "a/b"]) (.empty "/") (Pool.empty 1) ()).scanner
    "a//b" ∈ done.known ∧
      (done.handle? "a/b" : Option (Handle MemoryContainer)) = some (.fresh "a/b" done.module) ∧
      (done.handle? "a//b" : Option (Handle MemoryContainer)) = some (.fresh "a/b" done.module) ∧
      ∀ handle : Handle MemoryContainer,
        done.handle? "a//b" = some handle → handle.path ≠ "a//b" ∧ handle.path ∈ done.known := by
  intro scanner done
  have hl : ∃ after, inspect (listing ["a//b", "a/b"]) (Pool.empty 1) () scanner.module =
      (.ok ["a//b", "a/b"], after, ()) := ⟨_, rfl⟩
  have hr : ∀ path ∈ resourcesIn ["a//b", "a/b"],
      ¬MatchedBy scanner.policy.globs.reject path := by
    rintro path - ⟨pattern, hm, -⟩
    cases hm
  obtain ⟨after, hl⟩ := hl
  obtain ⟨hd, hknown⟩ := known_of_listing (.empty "/") rfl hl hr
  have hone : "a//b" ∈ done.known := (hknown _).2 (by decide +kernel)
  have htwo : "a/b" ∈ done.known := (hknown _).2 (by decide +kernel)
  obtain ⟨-, hentry, hother⟩ := handle_of_known (listing ["a//b", "a/b"]) (.empty "/") scanner
    (Pool.empty 1) () rfl hd
  refine ⟨hone, hentry _ htwo (by decide), ?_, hother _ hone (by decide)⟩
  have hanew : Path.entryPath "a//b" = "a/b" := by decide +kernel
  rw [handle?_eq (by decide +kernel), hanew, if_pos ⟨by decide, htwo⟩]

end Scanner

end SearchPath
