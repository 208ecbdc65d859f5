import SearchPath.Proofs.Module
import SearchPath.Proofs.Scan.Judgement
import SearchPath.Proofs.Session.Creation
import SearchPath.Proofs.Session.Modules

/-!
# Whose reader a lease gets

A lease gets the reader in the slot of its key, which was made for a module with that key
(`Traced.maker_of_acquire`). Where all modules are built from names, files and images, the key says
as much of the container as the file it comes from, or else its name.

Main result (`maker_after`): the reader was made for a module from the same file, or, if that is not
known of the module, for one of the same name of which it is not known either. So two modules of one
name that lie in two runtime images share a reader (`reader_across_images`).
-/

namespace SearchPath

open Pool

variable {σ ρ : Type}

/-! ## Makers -/

theorem mem_of_mem_madeFor {key : ContainerId} {questions : List (Question ρ)} {made : Made ρ}
    (h : made ∈ madeFor key questions) :
    ∃ module, (module, .ok made) ∈ questions ∧ module.key = key := by
  obtain ⟨⟨module, answer⟩, hm, hq⟩ := List.mem_filterMap.1 h
  dsimp only at hq
  split_ifs at hq with hk
  cases answer with
  | error fault => cases hq
  | ok reader =>
    cases hq
    exact ⟨module, hm, hk⟩

/-- A reader that was made is found by its number. -/
theorem Numbered.getElem?_number {questions : List (Question ρ)} (h : Numbered questions)
    {module : Module} {made : Made ρ} (hm : (module, .ok made) ∈ questions) :
    questions[made.number]? = some (module, .ok made) := by
  obtain ⟨place, hp⟩ := List.mem_iff_getElem?.1 hm
  rw [h place module made hp]
  exact hp

/-- The chronicle holds questions only for modules that were brought. -/
theorem keeps_chronicled (opener : Opener σ ρ) (P : Module → Prop) :
    opener.chronicled.Keeps P fun chronicle => ∀ question ∈ chronicle.2, P question.1 := by
  intro module chronicle hp hm question hq
  rcases List.mem_append.1 hq with hq | hq
  · exact hm question hq
  · rw [List.mem_singleton.1 hq]
    exact hp

namespace Session

/-- The reader of a lease was made for a module with the key of the lease. -/
theorem Traced.maker_of_acquire {session : Session (Chronicle σ ρ) (Made ρ)} (h : session.Traced)
    {opener : Opener σ ρ} {module : Module} {lease : Lease (Made ρ)} {after : Pool (Made ρ)}
    {left : Chronicle σ ρ}
    (ha : session.pool.acquire opener.chronicled session.memory module = (.ok lease, after, left)) :
    ∃ maker, left.2[lease.reader.number]? = some (maker, .ok lease.reader) ∧
      maker.key = module.key := by
  have hcases := session.pool.acquire_cases opener.chronicled session.memory module
  rw [ha] at hcases
  cases hcases with
  | shared hc =>
    have hlast := h.getLast?_eq module.key _ hc
    obtain ⟨maker, hm, hk⟩ := mem_of_mem_madeFor (List.mem_of_getLast? hlast)
    exact ⟨maker, h.numbered.getElem?_number hm, hk⟩
  | created _ _ hmade =>
    refine ⟨module, (h.numbered.chronicled hmade).getElem?_number ?_, rfl⟩
    rw [chronicled_eq hmade]
    exact List.mem_append_right _ List.mem_cons_self

/-- A module that is built from its name by saying where it is. -/
def IsBuilt (module : Module) : Prop :=
  ∃ name places, module = .built name places

/-- What is known of the reader that a lease on a module gets. -/
structure Identified (name : String) (places : List Module.Place) (lease : Lease (Made ρ))
    (questions : List (Question ρ)) : Prop where
  /-- It was made for a module from the same file, or for one of the same name if the module comes
  from no file, and then that one comes from none either. -/
  maker : ∃ other others,
    questions[lease.reader.number]? = some (.built other others, .ok lease.reader) ∧
      Module.origin? others = Module.origin? places ∧
      (Module.origin? places = none → other = name)
  /-- Where no file is given by a relative path, exactly these modules share it. -/
  shared_iff : ∀ other others, (∀ place ∈ places ++ others, place.isAbsolute) →
    ((Module.built other others).key = lease.key ↔
      Module.origin? others = Module.origin? places ∧
        (Module.origin? places = none → other = name))

/-- **Whose reader.** After every run over modules that are built from names, files and images. -/
theorem maker_after [Readable ρ] (opener : Opener σ ρ) (tree : FileTree) (capacity : Nat)
    (memory : σ) (steps : List Step)
    (hsteps : ∀ step ∈ steps, ∀ module, step.module? = some module → IsBuilt module)
    (session : Session (Chronicle σ ρ) (Made ρ))
    (hsession : session = (empty capacity (memory, [])).after opener.chronicled tree steps)
    (name : String) (places : List Module.Place) (lease : Lease (Made ρ)) (after : Pool (Made ρ))
    (left : Chronicle σ ρ)
    (hlease : session.pool.acquire opener.chronicled session.memory (.built name places) =
      (.ok lease, after, left)) :
    Identified name places lease left.2 := by
  have htraced := (traced_empty (ρ := ρ) capacity memory).after
    (sound_empty capacity (memory, [])) opener tree steps
  have hwithin : session.Within IsBuilt
      fun chronicle => ∀ question ∈ chronicle.2, IsBuilt question.1 := by
    rw [hsession]
    exact (within_empty capacity fun _ hq => absurd hq List.not_mem_nil).after
      (keeps_chronicled opener IsBuilt) tree hsteps
  rw [← hsession] at htraced
  have hkey : lease.key = (Module.built name places).key := Handle.key_of_acquire hlease
  refine ⟨?_, fun other others _ => ?_⟩
  · obtain ⟨maker, hm, hk⟩ := htraced.maker_of_acquire hlease
    have hasked := Pool.keeps_acquire (keeps_chronicled opener IsBuilt) session.pool session.memory
      hwithin.memory ⟨name, places, rfl⟩
    rw [hlease] at hasked
    obtain ⟨other, others, rfl⟩ := hasked _ (List.mem_of_getElem? hm)
    obtain ⟨horigin, hname⟩ := (Module.key_built_eq_iff other name others places).1 hk
    refine ⟨other, others, hm, horigin, fun hn => hname (horigin.trans hn)⟩
  · rw [hkey, Module.key_built_eq_iff]
    constructor
    · rintro ⟨horigin, hname⟩
      exact ⟨horigin, fun hn => hname (horigin.trans hn)⟩
    · rintro ⟨horigin, hname⟩
      exact ⟨horigin, fun hn => hname (horigin.symm.trans hn)⟩

/-- The reader made for a file is shared by a module of another name, whose file has the same path
in another spelling. -/
theorem maker_after_renamed :
    let opener := Scanner.listing ["a"]
    let steps := [Step.acquire "x" (.built "one" [.file "/f"])]
    Identified "two" [.image "/i", .file "//./f/"] ⟨⟨"file:///f"⟩, ⟨0, ⟨[("a", [])]⟩⟩⟩
      ((empty 1 ((), [])).after opener.chronicled (.empty "/") steps).memory.2 := by
  intro opener steps
  refine maker_after opener (.empty "/") 1 () steps ?_ _ rfl "two" [.image "/i", .file "//./f/"]
    _ _ _ rfl
  intro step hs module hm
  rw [List.mem_singleton.1 hs] at hm
  cases hm
  exact ⟨"one", [.file "/f"], rfl⟩

/-- A lease on the module of an image gets the reader made for the module of the same name in
another image, and one on a file the reader made for that file under another name. -/
theorem reader_across_images :
    let opener := Scanner.listing ["a"]
    let session (module : Module) : Session (Chronicle Unit MemoryContainer) _ :=
      (empty 2 ((), [])).after opener.chronicled (.empty "/") [.acquire "x" module]
    let base (image : String) := Module.built "java.base" [.image image]
    let same (name : String) := Module.built name [.file "/f"]
    (∃ lease after left,
      (session (base "/one")).pool.acquire opener.chronicled (session (base "/one")).memory
          (base "/two") = (.ok lease, after, left) ∧
        left.2[lease.reader.number]? = some (base "/one", .ok lease.reader) ∧
        (base "/one").file ≠ (base "/two").file) ∧
      ∃ lease after left,
        (session (same "one")).pool.acquire opener.chronicled (session (same "one")).memory
            (same "two") = (.ok lease, after, left) ∧
          left.2[lease.reader.number]? = some (same "one", .ok lease.reader) ∧
          (same "one").name ≠ (same "two").name := by
  refine ⟨⟨_, _, _, rfl, rfl, ?_⟩, ⟨_, _, _, rfl, rfl, ?_⟩⟩
  · decide
  · decide

end Session

end SearchPath
