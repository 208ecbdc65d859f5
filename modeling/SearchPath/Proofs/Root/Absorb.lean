import Mathlib.Logic.Function.Basic
import SearchPath.Proofs.Root.Order

/-!
# Absorbing a discovery

Which roots a discovery takes over from another one does not depend on how it came to know its own:
offered roots that are all admitted are kept exactly if their path is new, behind what is known.

1. Roots that are admitted, offered one after the other (`offerAll_eq`).
2. A discovery that calls have led to keeps every root under its path, no path twice and no root it
   does not admit (`Reached.kept`); so the reserved paths do not come between two such discoveries
   with the same ones.
3. Main result (`absorption_of_reached`): what is absorbed, and when nothing is.
-/

namespace SearchPath

namespace Root

theorem firsts_eq_self {roots : List Root} (h : (roots.map (·.path)).Nodup) :
    firsts roots = roots := by
  induction roots with
  | nil => rfl
  | cons first rest ih =>
    obtain ⟨hfirst, hrest⟩ := List.nodup_cons.1 h
    rw [firsts, ih hrest, List.filter_eq_self.2 fun root hr => ?_]
    exact decide_eq_true fun he => hfirst (List.mem_map.2 ⟨root, hr, he⟩)

/-- The roots whose path is not among those given. -/
def unseen (paths : List String) (roots : List Root) : List Root :=
  roots.filter (·.path ∉ paths)

theorem mem_unseen {paths : List String} {roots : List Root} {root : Root} :
    root ∈ unseen paths roots ↔ root ∈ roots ∧ root.path ∉ paths := by
  rw [unseen, List.mem_filter, decide_eq_true_iff]

theorem unseen_append (paths : List String) (roots more : List Root) :
    unseen paths (roots ++ more) = unseen paths roots ++ unseen paths more :=
  List.filter_append ..

theorem unseen_eq_nil_iff {paths : List String} {roots : List Root} :
    unseen paths roots = [] ↔ ∀ root ∈ roots, root.path ∈ paths := by
  rw [unseen, List.filter_eq_nil_iff]
  exact forall₂_congr fun root _ => by rw [decide_eq_true_iff, Decidable.not_not]

theorem unseen_unseen (paths others : List String) (roots : List Root) :
    unseen paths (unseen others roots) = unseen (paths ++ others) roots := by
  unfold unseen
  rw [List.filter_filter]
  refine List.filter_congr fun root _ => ?_
  simp only [List.mem_append, not_or, Bool.decide_and]

/-- Paths that are new to the roots need not be told apart from those already there. -/
theorem unseen_append_paths_unseen (paths : List String) (roots more : List Root) :
    unseen (paths ++ (unseen paths roots).map (·.path)) more =
      unseen (paths ++ roots.map (·.path)) more := by
  refine List.filter_congr fun root _ => decide_eq_decide.2 (not_congr ?_)
  rw [List.mem_append, List.mem_append]
  refine or_congr_right' fun hp => ?_
  simp only [List.mem_map, mem_unseen]
  constructor
  · rintro ⟨other, ⟨hm, -⟩, he⟩
    exact ⟨other, hm, he⟩
  · rintro ⟨other, hm, he⟩
    exact ⟨other, ⟨hm, he ▸ hp⟩, he⟩

end Root

namespace Discovery

open SearchPath.Root

/-! ## Roots offered -/

/-- The discovery with more roots behind those it knows. -/
def extend (known : Discovery) (roots : List Root) : Discovery :=
  { known with table := ⟨known.table.entries ++ roots.map fun root => (root.path, root)⟩ }

@[simp] theorem extend_nil (known : Discovery) : known.extend [] = known := by
  unfold extend
  rw [List.map_nil, List.append_nil]

theorem extend_append (known : Discovery) (roots more : List Root) :
    known.extend (roots ++ more) = (known.extend roots).extend more := by
  unfold extend
  rw [List.map_append, List.append_assoc]

theorem roots_extend (known : Discovery) (roots : List Root) :
    (known.extend roots).roots = known.roots ++ roots := by
  show (known.table.entries ++ _).map _ = _
  rw [List.map_append, List.map_map]
  exact congrArg _ (List.map_id roots)

theorem paths_extend (known : Discovery) (roots : List Root) :
    (known.extend roots).paths = known.paths ++ roots.map (·.path) := by
  show (known.table.entries ++ _).map _ = _
  rw [List.map_append, List.map_map]
  rfl

theorem admits_of_reserved_eq {known other : Discovery} (h : known.reserved = other.reserved) :
    known.admits = other.admits := by
  unfold admits
  rw [h]

theorem offer_of_mem {known : Discovery} {root : Root} (h : root.path ∈ known.paths) :
    known.offer root = (known, false) := by
  unfold offer
  split_ifs with hr hc
  · rfl
  · rfl
  · exact absurd ((known.contains_iff root.path).2 h) hc

theorem offer_of_not_mem {known : Discovery} {root : Root} (ha : known.admits root = true)
    (h : root.path ∉ known.paths) : known.offer root = (known.extend [root], true) := by
  have hr : ¬ (root.origin = .ordinary ∧ known.reserved.contains root.path = true) := by
    rw [← admits_eq_false_iff, ha]
    exact Bool.noConfusion
  unfold offer
  rw [if_neg hr, if_neg (mt (known.contains_iff root.path).1 h)]
  have hentries := Table.entries_put_of_get?_eq_none root (Table.get?_eq_none_iff.2 h)
  unfold extend
  rw [List.map_singleton, ← hentries]

/-- **Roots offered.** Of roots that are all admitted the first of each new path is kept, behind
the roots known before. -/
theorem offerAll_eq {known : Discovery} {roots : List Root}
    (ha : ∀ root ∈ roots, known.admits root = true) :
    known.offerAll roots =
      (known.extend (unseen known.paths (firsts roots)),
        decide (unseen known.paths (firsts roots) ≠ [])) := by
  induction roots generalizing known with
  | nil => simp [offerAll, firsts, unseen]
  | cons root rest ih =>
    have hrest : ∀ other ∈ rest, known.admits other = true :=
      fun other ho => ha other (List.mem_cons_of_mem _ ho)
    rw [offerAll]
    by_cases hp : root.path ∈ known.paths
    · have hskip : unseen known.paths (firsts (root :: rest)) =
          unseen known.paths (firsts rest) := by
        rw [firsts, unseen, List.filter_cons_of_neg (by simpa using hp), List.filter_filter]
        refine List.filter_congr fun other _ => ?_
        by_cases ho : other.path ∈ known.paths
        · simp [ho]
        · have hne : other.path ≠ root.path := fun he => ho (he ▸ hp)
          simp [ho, hne]
      rw [offer_of_mem hp, hskip, ih hrest, Bool.false_or]
    · have hkeep : unseen known.paths (firsts (root :: rest)) =
          root :: unseen (known.extend [root]).paths (firsts rest) := by
        rw [firsts, unseen, List.filter_cons_of_pos (by simpa using hp), List.filter_filter,
          paths_extend]
        refine congrArg _ (List.filter_congr fun other _ => ?_)
        simp only [List.map_singleton, List.mem_append, List.mem_singleton, not_or,
          Bool.decide_and, ne_eq]
      have hlater : ∀ other ∈ rest, (known.extend [root]).admits other = true := hrest
      rw [offer_of_not_mem (ha root List.mem_cons_self) hp, hkeep,
        decide_eq_true (List.cons_ne_nil _ _)]
      dsimp only
      rw [ih hlater, Bool.true_or]
      exact congrArg (·, true) (extend_append known [root] _).symm

/-! ## Discoveries that calls lead to -/

/-- A discovery with these reserved paths that calls have led to: the file tree may change between
them, and filters may be added and the delimiter changed at any time. -/
inductive Reached (reserved : Reserved) : Discovery → Prop where
  | empty (baseDirectory : String) (delimiter : Char) (filters : List Filter) :
    Reached reserved (empty baseDirectory delimiter reserved filters)
  | perform {known : Discovery} (h : Reached reserved known) (tree : FileTree) (call : Call) :
    Reached reserved (known.perform tree call).1
  | withFilters {known : Discovery} (h : Reached reserved known) (filters : List Filter) :
    Reached reserved { known with filters := known.filters ++ filters }
  | withDelimiter {known : Discovery} (h : Reached reserved known) (delimiter : Char) :
    Reached reserved { known with delimiter }

variable {reserved : Reserved} {known a b c : Discovery}

/-- What has been proposed to it is known, whenever its filters and delimiter were given. -/
theorem Reached.follows (h : Reached reserved known) :
    ∃ start proposed, Follows start known proposed ∧ start.reserved = reserved := by
  induction h with
  | empty baseDirectory delimiter filters =>
    exact ⟨_, [], follows_empty baseDirectory delimiter reserved filters, rfl⟩
  | @perform _ _ tree call ih =>
    obtain ⟨start, proposed, hf, hr⟩ := ih
    exact ⟨start, _, hf.perform tree call, hr⟩
  | @withFilters known _ filters ih =>
    obtain ⟨start, proposed, hf, hr⟩ := ih
    have hsetup := congrArg
      (fun setup : Discovery => { setup with filters := known.filters ++ filters }) hf.setup_eq
    exact ⟨{ start with filters := known.filters ++ filters }, proposed,
      ⟨hsetup, hf.roots_eq, hf.paths_eq⟩, hr⟩
  | @withDelimiter known _ delimiter ih =>
    obtain ⟨start, proposed, hf, hr⟩ := ih
    have hsetup := congrArg (fun setup : Discovery => { setup with delimiter }) hf.setup_eq
    exact ⟨{ start with delimiter }, proposed, ⟨hsetup, hf.roots_eq, hf.paths_eq⟩, hr⟩

/-- Every root is kept under its path, no path comes twice, and every root is admitted. -/
structure Kept (reserved : Reserved) (known : Discovery) : Prop where
  reserved_eq : known.reserved = reserved
  paths_eq : known.paths = known.roots.map (·.path)
  nodup : known.paths.Nodup
  admitted : ∀ root ∈ known.roots, known.admits root = true

theorem Reached.kept (h : Reached reserved known) : Kept reserved known := by
  obtain ⟨start, proposed, hf, hr⟩ := h.follows
  have hreserved : known.reserved = start.reserved := by rw [hf.setup_eq]
  refine ⟨hreserved.trans hr, hf.paths_eq, hf.paths_nodup, fun root hm => ?_⟩
  rw [hf.roots_eq] at hm
  rw [admits_of_reserved_eq hreserved]
  exact (List.mem_filter.1 (mem_of_mem_firsts hm)).2

/-- **What is absorbed.** With the same reserved paths, exactly the roots of new paths. -/
theorem Kept.absorb_eq (ha : Kept reserved a) (hb : Kept reserved b) :
    a.absorb b = (a.extend (unseen a.paths b.roots), decide (unseen a.paths b.roots ≠ [])) := by
  have hadmits : a.admits = b.admits :=
    admits_of_reserved_eq (ha.reserved_eq.trans hb.reserved_eq.symm)
  have hfirsts : firsts b.roots = b.roots := firsts_eq_self (hb.paths_eq ▸ hb.nodup)
  rw [absorb, offerAll_eq (hadmits ▸ hb.admitted), hfirsts]

theorem Reached.after (h : Reached reserved known) (tree : FileTree) (calls : List Call) :
    Reached reserved (known.after tree calls) := by
  induction calls generalizing known with
  | nil => exact h
  | cons call rest ih => exact ih (h.perform tree call)

theorem Reached.absorb (h : Reached reserved a) (other : Discovery) :
    Reached reserved (a.absorb other).1 :=
  h.perform (FileTree.empty "") (.absorb other)

theorem Kept.absorb_eq_self (ha : Kept reserved a) (hb : Kept reserved b)
    (h : ∀ root ∈ b.roots, root.path ∈ a.paths) : a.absorb b = (a, false) := by
  rw [ha.absorb_eq hb, unseen_eq_nil_iff.2 h, extend_nil]
  rfl

/-! ## Discoveries side by side -/

/-- Discoveries under names, of which one has absorbed another. -/
def absorbInto {ι : Type} [DecidableEq ι] (all : ι → Discovery) (into source : ι) :
    ι → Discovery :=
  Function.update all into ((all into).absorb (all source)).1

/-- What absorbing does, for three discoveries. -/
structure Absorption (a b c : Discovery) : Prop where
  /-- The roots of new paths come behind those known, as they are, and nothing else changes. -/
  absorb_eq : (a.absorb b).1 = { a with table := (a.absorb b).1.table }
  roots_eq : (a.absorb b).1.roots = a.roots ++ b.roots.filter (·.path ∉ a.paths)
  paths_eq : (a.absorb b).1.paths = (a.absorb b).1.roots.map (·.path)
  answer : (a.absorb b).2 = true ↔ ∃ root ∈ b.roots, root.path ∉ a.paths
  /-- Absorbing it once more changes nothing, nor does absorbing no root or a copy. -/
  again : (a.absorb b).1.absorb b = ((a.absorb b).1, false)
  nothing : b.roots = [] → a.absorb b = (a, false)
  copy : b.roots = a.roots → a.absorb b = (a, false)
  self : a.absorb a = (a, false)
  /-- It does not matter whether the third comes into the first at once or with the second. -/
  assoc : ((a.absorb b).1.absorb c).1 = (a.absorb (b.absorb c).1).1
  /-- Of discoveries side by side only the one that absorbs is changed. -/
  others : ∀ {ι : Type} [DecidableEq ι] (all : ι → Discovery) (into source name : ι),
    name ≠ into → absorbInto all into source name = all name

/-- **Absorbing.** For discoveries with the same reserved paths, whatever calls have led to them. -/
theorem absorption_of_reached (ha : Reached reserved a) (hb : Reached reserved b)
    (hc : Reached reserved c) : Absorption a b c := by
  have habsorb := ha.kept.absorb_eq hb.kept
  have hroots : (a.absorb b).1.roots = a.roots ++ unseen a.paths b.roots := by
    rw [habsorb, roots_extend]
  have hpaths : (a.absorb b).1.paths = a.paths ++ (unseen a.paths b.roots).map (·.path) := by
    rw [habsorb, paths_extend]
  have hmem : ∀ root ∈ a.roots, root.path ∈ a.paths := by
    intro root hr
    rw [ha.kept.paths_eq]
    exact List.mem_map_of_mem hr
  refine ⟨?_, hroots, (ha.absorb b).kept.paths_eq, ?_, ?_, ?_, ?_, ?_, ?_, ?_⟩
  · rw [habsorb]
    rfl
  · rw [habsorb, decide_eq_true_iff, Ne, unseen_eq_nil_iff]
    simp only [not_forall, exists_prop]
  · refine (ha.absorb b).kept.absorb_eq_self hb.kept fun root hr => ?_
    rw [hpaths, List.mem_append]
    by_cases hp : root.path ∈ a.paths
    · exact .inl hp
    · exact .inr (List.mem_map_of_mem (mem_unseen.2 ⟨hr, hp⟩))
  · intro he
    refine ha.kept.absorb_eq_self hb.kept fun root hr => ?_
    rw [he] at hr
    exact absurd hr List.not_mem_nil
  · intro he
    exact ha.kept.absorb_eq_self hb.kept (he ▸ hmem)
  · exact ha.kept.absorb_eq_self ha.kept hmem
  · have hleft : ((a.absorb b).1.absorb c).1 =
        (a.extend (unseen a.paths b.roots)).extend (unseen (a.absorb b).1.paths c.roots) := by
      rw [(ha.absorb b).kept.absorb_eq hc.kept, habsorb]
    have hright : (a.absorb (b.absorb c).1).1 =
        a.extend (unseen a.paths (b.roots ++ unseen b.paths c.roots)) := by
      rw [ha.kept.absorb_eq (hb.absorb c).kept, hb.kept.absorb_eq hc.kept, roots_extend]
    rw [hleft, hright, unseen_append, extend_append, unseen_unseen, hpaths,
      unseen_append_paths_unseen, hb.kept.paths_eq]
  · intro ι _ all into source name hne
    exact Function.update_of_ne hne _ _

/-- A root of the system under a reserved path comes first; the second discovery may not report it,
and the third knows a root of the second as the system's. -/
theorem absorption_of_reserved :
    let start := empty "/" ':' ⟨["/rt"]⟩ []
    let tree := FileTree.empty "/"
    let a := start.after tree [.system "/rt" ["boot"], .root "a" ["app"]]
    let b := start.after tree [.root "a" ["ext"], .root "/rt" ["ext"], .root "b" ["ext"]]
    let c := start.after tree [.system "/b" ["boot"], .system "/rt" ["tool"], .root "c" ["tool"]]
    Reached ⟨["/rt"]⟩ a ∧ Reached ⟨["/rt"]⟩ b ∧ Reached ⟨["/rt"]⟩ c ∧ Absorption a b c ∧
      ((a.absorb b).1.absorb c).1.roots =
        [⟨"/rt", ["boot"], .system⟩, ⟨"/a", ["app"], .ordinary⟩, ⟨"/b", ["ext"], .ordinary⟩,
          ⟨"/c", ["tool"], .ordinary⟩] := by
  intro start tree a b c
  have hstart : Reached ⟨["/rt"]⟩ start := .empty "/" ':' []
  have ha : Reached ⟨["/rt"]⟩ a := hstart.after tree _
  have hb : Reached ⟨["/rt"]⟩ b := hstart.after tree _
  have hc : Reached ⟨["/rt"]⟩ c := hstart.after tree _
  exact ⟨ha, hb, hc, absorption_of_reached ha hb hc, by decide⟩

end Discovery

end SearchPath
