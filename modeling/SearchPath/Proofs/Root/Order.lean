import Mathlib.Tactic.SplitIfs
import SearchPath.Proofs.Root.Nesting
import SearchPath.Proofs.Table

/-!
# The order of roots

Every call to a discovery proposes roots, in an order that depends on the call, on the file tree and
on how the discovery was set up, and not on what is known already (`proposals`). What is known after
calls is the proposals of all of them that are admitted, one after the other, with only the first
of each path kept (`firsts`).

1. Offering a root appends it to the proposals that are reflected (`Follows.offer`).
2. So does every call with its proposals, however values are nested (`Follows.perform`).
3. Main result (`order_of_calls`): the order of the roots after any calls, and what follows from it.
-/

namespace SearchPath

namespace Root

/-! ## First occurrences -/

/-- The first root of each path. -/
def firsts : List Root → List Root
  | [] => []
  | root :: rest => root :: (firsts rest).filter (·.path ≠ root.path)

theorem mem_of_mem_firsts {root : Root} {roots : List Root} (h : root ∈ firsts roots) :
    root ∈ roots := by
  induction roots with
  | nil => exact h
  | cons first rest ih =>
    rcases List.mem_cons.1 h with rfl | h
    · exact List.mem_cons_self
    · exact List.mem_cons_of_mem _ (ih (List.mem_filter.1 h).1)

theorem mem_paths_firsts {path : String} {roots : List Root} :
    path ∈ (firsts roots).map (·.path) ↔ path ∈ roots.map (·.path) := by
  induction roots with
  | nil => exact Iff.rfl
  | cons first rest ih =>
    have hrest : ((firsts rest).filter (·.path ≠ first.path)).map (·.path) =
        ((firsts rest).map (·.path)).filter (· ≠ first.path) := by
      rw [List.filter_map]
      rfl
    rw [firsts, List.map_cons, List.map_cons, List.mem_cons, List.mem_cons, hrest, List.mem_filter,
      ih]
    by_cases hp : path = first.path
    · exact ⟨fun _ => .inl hp, fun _ => .inl hp⟩
    · simp [hp]

theorem nodup_paths_firsts (roots : List Root) : ((firsts roots).map (·.path)).Nodup := by
  induction roots with
  | nil => exact List.nodup_nil
  | cons first rest ih =>
    refine List.nodup_cons.2 ⟨fun hm => ?_, ih.sublist (List.filter_sublist.map _)⟩
    obtain ⟨root, hr, hp⟩ := List.mem_map.1 hm
    exact of_decide_eq_true (List.mem_filter.1 hr).2 hp

/-- One more root is kept behind the others, unless there was one with its path. -/
theorem firsts_append_singleton (roots : List Root) (root : Root) :
    firsts (roots ++ [root]) =
      if root.path ∈ roots.map (·.path) then firsts roots else firsts roots ++ [root] := by
  induction roots with
  | nil => rfl
  | cons first rest ih =>
    show first :: (firsts (rest ++ [root])).filter (·.path ≠ first.path) =
      if root.path ∈ first.path :: rest.map (·.path) then
        first :: (firsts rest).filter (·.path ≠ first.path)
      else first :: (firsts rest).filter (·.path ≠ first.path) ++ [root]
    rw [ih]
    by_cases hr : root.path ∈ rest.map (·.path)
    · rw [if_pos hr, if_pos (List.mem_cons_of_mem _ hr)]
    · rw [if_neg hr, List.filter_append]
      by_cases hf : root.path = first.path
      · rw [if_pos (List.mem_cons.2 (.inl hf)), List.filter_cons_of_neg (by simp [hf]),
          List.filter_nil, List.append_nil]
      · rw [if_neg fun hm => (List.mem_cons.1 hm).elim hf hr,
          List.filter_cons_of_pos (by simp [hf]), List.filter_nil]
        rfl

theorem firsts_prefix (roots more : List Root) : firsts roots <+: firsts (roots ++ more) := by
  induction roots with
  | nil => exact List.nil_prefix
  | cons first rest ih => exact List.cons_prefix_cons.2 ⟨rfl, ih.filter _⟩

end Root

namespace Discovery

open SearchPath.Text Root

/-! ## Calls and their proposals -/

/-- A call that reports roots. -/
inductive Call where
  | root (raw : String) (handles : List String)
  | system (path : String) (handles : List String)
  | list (list : String) (handles : List String)
  | value (value : LoaderValue) (handles : List String)
  | absorb (other : Discovery)

/-- What is known after a call, and its answer. -/
def perform (tree : FileTree) (known : Discovery) : Call → Discovery × Bool
  | .root raw handles => known.report tree raw handles
  | .system path handles => known.reportSystem path handles
  | .list list handles => known.reportList tree list handles
  | .value value handles => known.reportValue tree handles value
  | .absorb other => known.absorb other

/-- What is known after calls. -/
def after (tree : FileTree) (known : Discovery) (calls : List Call) : Discovery :=
  calls.foldl (fun known call => (known.perform tree call).1) known

/-- Whether all filters accept a path. -/
def accepts (known : Discovery) (path : String) : Bool :=
  known.filters.all (· path)

/-- The roots that a spelling proposes: itself, or every entry of a directory. The filters decide
on the spelling and its canonical form, and on those of the directory for its entries. -/
def spelled (tree : FileTree) (known : Discovery) (handles : List String) (raw : String) :
    List Root :=
  match Spelling.ofChars (trim raw.toList) with
  | .plain path =>
    if path ≠ "" ∧ known.accepts path ∧ known.accepts (known.canonical path) then
      [⟨known.canonical path, handles, .ordinary⟩]
    else []
  | .entriesOf directory =>
    if known.accepts directory ∧ known.accepts (known.canonical directory) then
      ((tree.entries? (known.canonical directory)).getD []).map fun name =>
        ⟨known.canonical (FileTree.join (known.canonical directory) name), handles, .ordinary⟩
    else []
  | .malformed => []

/-- The roots that a list of paths proposes. -/
def listed (tree : FileTree) (known : Discovery) (handles : List String) (list : String) :
    List Root :=
  (known.pathsIn list).flatMap (known.spelled tree handles)

/-- The roots that a call proposes. -/
def proposals (tree : FileTree) (known : Discovery) : Call → List Root
  | .root raw handles => known.spelled tree handles raw
  | .system path handles => [⟨path, handles, .system⟩]
  | .list list handles => known.listed tree handles list
  | .value value handles => value.leaves.flatMap (known.listed tree handles)
  | .absorb other => other.roots

/-- Whether a root may be known: an ordinary one must not be reserved for the system. -/
def admits (known : Discovery) (root : Root) : Bool :=
  root.origin = .system ∨ known.reserved.contains root.path = false

theorem admits_eq_false_iff (known : Discovery) (root : Root) :
    known.admits root = false ↔
      root.origin = .ordinary ∧ known.reserved.contains root.path = true := by
  unfold admits
  cases root.origin <;> simp

theorem passesBoth_eq (filters : List Filter) (given canonical : String) :
    Filter.passesBoth filters given canonical =
      (filters.all (· given) && filters.all (· canonical)) := by
  unfold Filter.passesBoth Filter.passes
  by_cases h : given = canonical
  · rw [h, beq_self_eq_true, Bool.true_or, Bool.and_true, Bool.and_self]
  · rw [beq_eq_false_iff_ne.2 h, Bool.false_or]

/-- What is discovered for a spelling is what it proposes. -/
theorem discover_getD (tree : FileTree) (known : Discovery) (raw : String)
    (handles : List String) :
    (known.discover tree raw handles).getD [] = known.spelled tree handles raw := by
  unfold discover passes spellings spelled accepts
  cases hs : Spelling.ofChars (trim raw.toList) with
  | plain path =>
    by_cases he : path = ""
    · simp [he]
    · simp only [he, if_false, passesBoth_eq, Bool.and_eq_true, ne_eq, not_false_eq_true, true_and]
      split_ifs <;> rfl
  | entriesOf directory =>
    simp only [passesBoth_eq, Bool.and_eq_true]
    split_ifs
    · cases tree.entries? (known.canonical directory) <;> rfl
    · rfl
  | malformed => rfl

/-! ## Following the proposals -/

/-- A discovery knows what has been proposed to another one, as far as that one admits it. -/
structure Follows (start known : Discovery) (proposed : List Root) : Prop where
  setup_eq : known = { start with table := known.table }
  roots_eq : known.roots = firsts (proposed.filter start.admits)
  paths_eq : known.paths = known.roots.map (·.path)

variable {start known : Discovery} {proposed : List Root}

theorem follows_empty (baseDirectory : String) (delimiter : Char) (reserved : Reserved)
    (filters : List Filter) :
    (empty baseDirectory delimiter reserved filters).Follows
      (empty baseDirectory delimiter reserved filters) [] :=
  ⟨rfl, rfl, rfl⟩

theorem contains_iff (known : Discovery) (path : String) :
    known.contains path = true ↔ path ∈ known.paths := by
  unfold contains get? paths
  rw [Option.isSome_iff_ne_none, Ne, Table.get?_eq_none_iff, Decidable.not_not]

theorem Follows.offer (h : start.Follows known proposed) (root : Root) :
    start.Follows (known.offer root).1 (proposed ++ [root]) := by
  have hreserved : known.reserved = start.reserved := by rw [h.setup_eq]
  have hcontains : known.contains root.path = true ↔
      root.path ∈ (proposed.filter start.admits).map (·.path) := by
    rw [contains_iff, h.paths_eq, h.roots_eq, mem_paths_firsts]
  unfold Discovery.offer
  rw [hreserved]
  by_cases ha : root.origin = .ordinary ∧ start.reserved.contains root.path = true
  · rw [if_pos ha]
    have hrefused := (start.admits_eq_false_iff root).2 ha
    refine ⟨h.setup_eq, ?_, h.paths_eq⟩
    rw [List.filter_append, List.filter_cons_of_neg (Bool.not_eq_true _ ▸ hrefused),
      List.filter_nil, List.append_nil]
    exact h.roots_eq
  rw [if_neg ha]
  have hadmitted : start.admits root = true := by
    rw [← Bool.not_eq_false, admits_eq_false_iff]
    exact ha
  have hfilter : (proposed ++ [root]).filter start.admits =
      proposed.filter start.admits ++ [root] := by
    rw [List.filter_append, List.filter_cons_of_pos hadmitted, List.filter_nil]
  by_cases hc : known.contains root.path = true
  · rw [if_pos hc]
    refine ⟨h.setup_eq, ?_, h.paths_eq⟩
    rw [hfilter, firsts_append_singleton, if_pos (hcontains.1 hc)]
    exact h.roots_eq
  · rw [if_neg hc]
    have hnew : known.table.get? root.path = none :=
      Option.not_isSome_iff_eq_none.1 hc
    have hroots : (known.table.put root.path root).values = known.roots ++ [root] :=
      Table.values_put_of_get?_eq_none root hnew
    have hpaths : (known.table.put root.path root).names = known.paths ++ [root.path] :=
      Table.names_put_of_get?_eq_none root hnew
    refine ⟨?_, ?_, ?_⟩
    · rw [h.setup_eq]
    · rw [hfilter, firsts_append_singleton, if_neg (mt hcontains.2 hc), ← h.roots_eq]
      exact hroots
    · show (known.table.put root.path root).names =
        (known.table.put root.path root).values.map (·.path)
      rw [hpaths, hroots, List.map_append, h.paths_eq]
      rfl

theorem Follows.offerAll (h : start.Follows known proposed) (roots : List Root) :
    start.Follows (known.offerAll roots).1 (proposed ++ roots) := by
  induction roots generalizing known proposed with
  | nil =>
    rw [List.append_nil]
    exact h
  | cons root rest ih =>
    have hrest := ih (h.offer root)
    rw [List.append_assoc] at hrest
    exact hrest

theorem Follows.report (h : start.Follows known proposed) (tree : FileTree) (raw : String)
    (handles : List String) :
    start.Follows (known.report tree raw handles).1
      (proposed ++ start.spelled tree handles raw) := by
  have hdiscover : known.discover tree raw handles = start.discover tree raw handles := by
    rw [h.setup_eq]
    rfl
  unfold Discovery.report
  rw [← discover_getD, hdiscover]
  cases start.discover tree raw handles with
  | none =>
    show start.Follows known (proposed ++ [])
    rw [List.append_nil]
    exact h
  | some found =>
    have hoffered := h.offerAll found
    dsimp only
    cases Spelling.ofChars (trim raw.toList) <;> exact hoffered

theorem Follows.reportList (h : start.Follows known proposed) (tree : FileTree) (list : String)
    (handles : List String) :
    start.Follows (known.reportList tree list handles).1
      (proposed ++ start.listed tree handles list) := by
  have hpaths : known.pathsIn list = start.pathsIn list := by
    rw [h.setup_eq]
    rfl
  unfold Discovery.reportList listed
  rw [hpaths]
  show start.Follows ((start.pathsIn list).foldl _ known) _
  clear hpaths
  generalize start.pathsIn list = paths
  induction paths generalizing known proposed with
  | nil =>
    rw [List.flatMap_nil, List.append_nil]
    exact h
  | cons path rest ih =>
    have hrest := ih (h.report tree path handles)
    rw [List.append_assoc] at hrest
    exact hrest

theorem Follows.reportLists (h : start.Follows known proposed) (tree : FileTree)
    (handles lists : List String) :
    start.Follows (known.reportLists tree handles lists).1
      (proposed ++ lists.flatMap (start.listed tree handles)) := by
  induction lists generalizing known proposed with
  | nil =>
    rw [List.flatMap_nil, List.append_nil]
    exact h
  | cons list rest ih =>
    have hrest := ih (h.reportList tree list handles)
    rw [List.append_assoc] at hrest
    exact hrest

/-- **Values.** However values are nested, their lists are taken from left to right. -/
theorem Follows.reportValue (h : start.Follows known proposed) (tree : FileTree)
    (handles : List String) (value : LoaderValue) :
    start.Follows (known.reportValue tree handles value).1
      (proposed ++ value.leaves.flatMap (start.listed tree handles)) := by
  rw [reportValue_eq]
  exact h.reportLists tree handles value.leaves

/-- **Step.** A call takes over what it proposes, and nothing else. -/
theorem Follows.perform (h : start.Follows known proposed) (tree : FileTree) (call : Call) :
    start.Follows (known.perform tree call).1 (proposed ++ start.proposals tree call) := by
  cases call with
  | root raw handles => exact h.report tree raw handles
  | system path handles => exact h.offer ⟨path, handles, .system⟩
  | list list handles => exact h.reportList tree list handles
  | value value handles => exact h.reportValue tree handles value
  | absorb other => exact h.offerAll other.roots

/-- **Run.** What is known after calls follows what they propose, one after the other. -/
theorem Follows.after (h : start.Follows known proposed) (tree : FileTree) (calls : List Call) :
    start.Follows (known.after tree calls) (proposed ++ calls.flatMap (start.proposals tree)) := by
  induction calls generalizing known proposed with
  | nil =>
    rw [List.flatMap_nil, List.append_nil]
    exact h
  | cons call rest ih =>
    have hrest := ih (h.perform tree call)
    rw [List.append_assoc] at hrest
    exact hrest

/-! ## The order -/

/-- The order of the roots known after calls, and what follows from it. -/
structure Ordered (tree : FileTree) (start : Discovery) (calls : List Call) (known : Discovery) :
    Prop where
  /-- The roots are all that has been proposed, without ordinary ones that are reserved, and with
  the first of each path only. -/
  roots_eq : known.roots = firsts ((calls.flatMap (start.proposals tree)).filter start.admits)
  /-- The roots are kept under their paths, none of which comes twice. -/
  paths_eq : known.roots.map (·.path) = known.paths
  paths_nodup : known.paths.Nodup
  get?_eq_some_iff : ∀ path root,
    known.get? path = some root ↔ root ∈ known.roots ∧ root.path = path
  /-- A call only appends roots. -/
  appends : ∀ call, known.roots <+: (known.perform tree call).1.roots
  not_reserved : ∀ root ∈ known.roots,
    root.origin = .ordinary → start.reserved.contains root.path = false
  /-- The system reports a root with success exactly if its path is new, reserved or not. -/
  system : ∀ path handles, known.reportSystem path handles =
    if path ∈ known.paths then (known, false)
    else ({ known with table := known.table.put path ⟨path, handles, .system⟩ }, true)
  /-- The list that is made of the roots at the end has them in this order. -/
  rootList_roots : known.rootList.roots = known.roots
  rootList_paths : known.rootList.paths = known.paths
  position?_eq_some_iff : ∀ path place,
    known.rootList.position? path = some place ↔ known.paths[place]? = some path

theorem idxOf?_eq_some_iff_of_nodup {names : List String} (hd : names.Nodup) (name : String)
    (place : Nat) : names.idxOf? name = some place ↔ names[place]? = some name := by
  rw [List.idxOf?_eq_some_iff, List.getElem?_eq_some_iff]
  constructor
  · rintro ⟨hp, he, -⟩
    exact ⟨hp, he⟩
  · rintro ⟨hp, rfl⟩
    refine ⟨hp, rfl, fun earlier he => ?_⟩
    exact List.pairwise_iff_getElem.1 hd earlier place (Nat.lt_trans he hp) hp he

theorem Follows.paths_nodup (h : start.Follows known proposed) : known.paths.Nodup := by
  rw [h.paths_eq, h.roots_eq]
  exact nodup_paths_firsts _

theorem Follows.get?_eq_some_iff (h : start.Follows known proposed) (path : String) (root : Root) :
    known.get? path = some root ↔ root ∈ known.roots ∧ root.path = path := by
  have hentries : ∀ entry ∈ known.table.entries, entry.1 = entry.2.path := by
    have hpaths : known.table.entries.map (·.1) =
        (known.table.entries.map (·.2)).map (·.path) := h.paths_eq
    rw [List.map_map] at hpaths
    exact List.map_inj_left.1 hpaths
  constructor
  · intro hg
    have hm := Table.mem_of_get? hg
    exact ⟨List.mem_map_of_mem hm, (hentries _ hm).symm⟩
  · rintro ⟨hr, rfl⟩
    obtain ⟨entry, he, rfl⟩ := List.mem_map.1 hr
    refine Table.get?_of_mem h.paths_nodup ?_
    rw [← hentries entry he]
    exact he

/-- **The order of roots.** After any calls, whatever the base directory, the delimiter, the
reserved paths, the filters and the file tree. -/
theorem order_of_calls (tree : FileTree) (baseDirectory : String) (delimiter : Char)
    (reserved : Reserved) (filters : List Filter) (calls : List Call) :
    Ordered tree (empty baseDirectory delimiter reserved filters) calls
      ((empty baseDirectory delimiter reserved filters).after tree calls) := by
  have h := (follows_empty baseDirectory delimiter reserved filters).after tree calls
  rw [List.nil_append] at h
  generalize empty baseDirectory delimiter reserved filters = start at h ⊢
  generalize start.after tree calls = known at h ⊢
  refine ⟨h.roots_eq, h.paths_eq.symm, h.paths_nodup, h.get?_eq_some_iff, fun call => ?_,
    fun root hr ho => ?_, fun path handles => ?_, rfl, rfl,
    idxOf?_eq_some_iff_of_nodup h.paths_nodup⟩
  · rw [(h.perform tree call).roots_eq, h.roots_eq, List.filter_append]
    exact firsts_prefix _ _
  · rw [h.roots_eq] at hr
    have hadmitted := (List.mem_filter.1 (mem_of_mem_firsts hr)).2
    rw [← Bool.not_eq_true]
    intro hc
    rw [(start.admits_eq_false_iff root).2 ⟨ho, hc⟩] at hadmitted
    cases hadmitted
  · unfold reportSystem Discovery.offer
    rw [if_neg fun hs => by cases hs.1]
    by_cases hp : path ∈ known.paths
    · rw [if_pos ((contains_iff known path).2 hp), if_pos hp]
    · rw [if_neg (mt (contains_iff known path).1 hp), if_neg hp]

end Discovery

end SearchPath
