import SearchPath.Proofs.Url.File

/-!
# The keys of modules

A module is built from its name by saying where it is, in a file or in a runtime image, any number
of times. The first file given by an absolute path becomes its location for good (`location_built`);
an image becomes none, and neither does a relative path. So two modules have the same key if they
come from the same file, or if none of them comes from a file and they have the same name
(`key_built_eq_iff`).
-/

namespace SearchPath.Module

/-- One way to say where a module is. -/
inductive Place where
  | file (path : String)
  | image (path : String)
  deriving DecidableEq, Repr

/-- The module at one more place. -/
def placed (module : Module) : Place → Module
  | .file path => module.inFile path
  | .image path => module.partOf path

/-- The module of a name at these places. -/
def built (name : String) (places : List Place) : Module :=
  places.foldl placed (.named name)

/-- The file of an absolute path, as the names of the path. -/
def Place.absolute? : Place → Option (List (List Char))
  | .file path => if (filePath path).1 then some (filePath path).2 else none
  | .image _ => none

/-- The first file given by an absolute path. -/
def origin? (places : List Place) : Option (List (List Char)) :=
  places.findSome? Place.absolute?

/-- Whether no file is given by a relative path. -/
def Place.isAbsolute : Place → Bool
  | .file path => (filePath path).1
  | .image _ => true

theorem origin?_cons (place : Place) (places : List Place) :
    origin? (place :: places) = (place.absolute? <|> origin? places) := by
  unfold origin?
  rw [List.findSome?_cons]
  cases place.absolute? <;> rfl

/-- A file given by an absolute path has a URL, and one given by a relative path has none. -/
theorem absolute?_cases (path : String) :
    (∃ rest, (Place.file path).absolute? = some (Url.components rest) ∧
        Url.fileUrl? path.toList = some (Url.ofNames (Url.components rest))) ∨
      (Place.file path).absolute? = none ∧ Url.fileUrl? path.toList = none := by
  unfold Place.absolute? filePath
  dsimp only
  split
  next rest hp =>
    rw [hp, Url.fileUrl?_of_absolute]
    exact .inl ⟨rest, rfl, rfl⟩
  next hp =>
    refine .inr ⟨rfl, ?_⟩
    unfold Url.fileUrl?
    split
    next rest hr => exact absurd hr (hp rest)
    next => rfl

theorem fileUrl?_eq (path : String) :
    (Url.fileUrl? path.toList).map String.ofList =
      (Place.file path).absolute?.map fun names => String.ofList (Url.ofNames names) := by
  rcases absolute?_cases path with ⟨rest, hp, hu⟩ | ⟨hp, hu⟩
  · rw [hp, hu]
    rfl
  · rw [hp, hu]
    rfl

theorem location_placed (module : Module) (place : Place) :
    (module.placed place).location = (module.location <|>
      place.absolute?.map fun names => String.ofList (Url.ofNames names)) := by
  cases place with
  | file path =>
    rw [← fileUrl?_eq]
    rfl
  | image path =>
    show module.location = (module.location <|> none)
    cases module.location <;> rfl

theorem location_foldl_placed (module : Module) (places : List Place) :
    (places.foldl placed module).location = (module.location <|>
      (origin? places).map fun names => String.ofList (Url.ofNames names)) := by
  induction places generalizing module with
  | nil =>
    show module.location = (module.location <|> none)
    cases module.location <;> rfl
  | cons place rest ih =>
    rw [List.foldl_cons, ih, location_placed, origin?_cons]
    cases module.location <;> cases place.absolute? <;> rfl

/-- The location of a module is the URL of its first file. -/
theorem location_built (name : String) (places : List Place) :
    (built name places).location =
      (origin? places).map fun names => String.ofList (Url.ofNames names) :=
  location_foldl_placed (.named name) places

theorem name_built (name : String) (places : List Place) : (built name places).name = name := by
  have hfold : ∀ (places : List Place) (module : Module),
      (places.foldl placed module).name = module.name := by
    intro places
    induction places with
    | nil => exact fun _ => rfl
    | cons place rest ih =>
      intro module
      rw [List.foldl_cons, ih]
      cases place <;> rfl
  exact hfold places (.named name)

theorem ne_nil_of_mem_origin? {places : List Place} {names : List (List Char)}
    (h : origin? places = some names) : ∀ name ∈ names, name ≠ [] := by
  obtain ⟨place, -, hp⟩ := List.exists_of_findSome?_eq_some h
  cases place with
  | image path => cases hp
  | file path =>
    rcases absolute?_cases path with ⟨rest, ha, -⟩ | ⟨ha, -⟩
    · rw [ha] at hp
      cases hp
      exact fun name => Url.ne_nil_of_mem_components
    · rw [ha] at hp
      cases hp

/-- A location that is the URL of a file is no key made from a name. -/
theorem ofNames_ne_named (names : List (List Char)) (name : String) :
    String.ofList (Url.ofNames names) ≠ "jrt:/" ++ name := by
  intro h
  have hlist := congrArg String.toList h
  rw [String.toList_ofList, String.toList_append] at hlist
  cases hlist

/-- **Same container.** The keys of two modules are the same exactly if the modules come from the
same file, or from none and have the same name. -/
theorem key_built_eq_iff (name other : String) (places others : List Place) :
    (built name places).key = (built other others).key ↔
      origin? places = origin? others ∧ (origin? places = none → name = other) := by
  unfold key
  rw [location_built, location_built, name_built, name_built, ContainerId.mk.injEq]
  cases hp : origin? places with
  | none =>
    cases ho : origin? others with
    | none => simp
    | some names => simpa using (ofNames_ne_named names name).symm
  | some names =>
    cases ho : origin? others with
    | none => simpa using ofNames_ne_named names other
    | some others =>
      have hnames := ne_nil_of_mem_origin? hp
      have hothers := ne_nil_of_mem_origin? ho
      simp only [Option.map_some, Option.getD_some, String.ofList_inj, Option.some.injEq,
        reduceCtorEq, false_implies, and_true]
      exact ⟨Url.ofNames_injective hnames hothers, congrArg Url.ofNames⟩

end SearchPath.Module
