import SearchPath.Proofs.Policy.Rules

/-!
# Accepting more

A policy that accepts something by name looks at the directory of a resource in a fixed order: an
accepted place itself, then the package of an accepted class, then any directory below an accepted
place. So accepting a class takes from a place above it what else lies in its package.

1. `Selective.statusOf_eq` is this order, and `Selective.acceptsPath_iff` says in one condition what
   is accepted.
2. `Narrows` is the one way in which accepting a class takes a resource away.
3. Main result (`acceptsPath_add_iff`): one more accepted place takes nothing away, and one more
   accepted class exactly what it narrows (`acceptClass_narrows`).
-/

namespace SearchPath.Policy

variable {policy : Policy} {path : String}

/-! ## What is accepted by name -/

/-- Something is accepted by name. -/
def Selective (policy : Policy) : Prop :=
  policy.acceptedPrefixes ≠ [] ∨ policy.classPackages ≠ []

instance (policy : Policy) : Decidable policy.Selective :=
  inferInstanceAs (Decidable (_ ∨ _))

/-- The text of the directory of a resource that prefixes are compared with. -/
def stemOf (path : String) : String :=
  stem (parentDirectory path)

/-- One of the prefixes covers the directory of the resource. -/
def CoveredBy (starts : List String) (path : String) : Prop :=
  ∃ start ∈ starts, startsWith start (stemOf path) = true

instance (starts : List String) (path : String) : Decidable (CoveredBy starts path) :=
  inferInstanceAs (Decidable (∃ start ∈ starts, startsWith start (stemOf path) = true))

theorem any_startsWith_iff {starts : List String} :
    starts.any (startsWith · (stem (parentDirectory path))) = true ↔ CoveredBy starts path :=
  List.any_eq_true

/-- The order in which a directory is looked at. -/
theorem Selective.statusOf_eq (hs : policy.Selective) (path : String) :
    policy.statusOf path =
      if CoveredBy policy.rejectedPrefixes path then .rejected
      else if stemOf path ∈ policy.acceptedPrefixes then .accepted
      else if stemOf path ∈ policy.classPackages then .classPackage
      else if CoveredBy policy.acceptedPrefixes path then .below
      else .unmatched := by
  have hnamed : ¬(policy.acceptedPrefixes.isEmpty && policy.classPackages.isEmpty) = true := by
    rcases hs with h | h <;> simp [h]
  unfold statusOf matchDirectory
  dsimp only
  rw [← stem, if_neg hnamed]
  simp only [any_startsWith_iff, List.contains_iff_mem, stemOf]
  congr

/-- **What is accepted.** -/
theorem Selective.acceptsPath_iff (hs : policy.Selective) :
    policy.acceptsPath path = true ↔ ¬CoveredBy policy.rejectedPrefixes path ∧
      (stemOf path ∈ policy.acceptedPrefixes ∨
        stemOf path ∈ policy.classPackages ∧ path ∈ policy.classFiles ∨
        stemOf path ∉ policy.classPackages ∧ CoveredBy policy.acceptedPrefixes path) := by
  unfold acceptsPath
  rw [hs.statusOf_eq]
  split_ifs with hr ha hc hb
  · simp [accepts, hr]
  · simp [accepts, hr, ha]
  · simp [accepts, acceptsClassFile, hr, ha, hc]
  · simp [accepts, hr, hc, hb]
  · simp [accepts, ha, hc, hb]

/-! ## One more rule -/

/-- Accepting the class takes the resource away: it is another one of the package of the class,
which so far was accepted only for lying below an accepted place. -/
structure Narrows (policy : Policy) (name path : String) : Prop where
  inPackage : stemOf path = packageOfClass name
  not_place : stemOf path ∉ policy.acceptedPrefixes
  /-- No other class of the package has been accepted so far. -/
  not_package : stemOf path ∉ policy.classPackages
  not_file : path ∉ policy.classFiles
  ne_file : path ≠ fileOfClass name

theorem Selective.add (hs : policy.Selective) (rule : Rule) : (policy.add rule).Selective := by
  rw [add_eq]
  rcases hs with h | h
  · exact .inl (List.append_ne_nil_of_left_ne_nil h _)
  · exact .inr (List.append_ne_nil_of_left_ne_nil h _)

theorem coveredBy_append {starts more : List String} (h : CoveredBy starts path) :
    CoveredBy (starts ++ more) path := by
  obtain ⟨start, hm, hp⟩ := h
  exact ⟨start, List.mem_append_left more hm, hp⟩

/-- One more accepted place takes nothing away. -/
theorem Selective.acceptsPath_add_place (hs : policy.Selective) (place : Place)
    (h : policy.acceptsPath path = true) :
    (policy.add (.accept place)).acceptsPath path = true := by
  rw [hs.acceptsPath_iff] at h
  rw [(hs.add _).acceptsPath_iff]
  obtain ⟨hr, hplace | hclass | ⟨hc, hbelow⟩⟩ := h
  · exact ⟨hr, .inl (List.mem_append_left _ hplace)⟩
  · exact ⟨hr, .inr (.inl hclass)⟩
  · exact ⟨hr, .inr (.inr ⟨hc, coveredBy_append hbelow⟩)⟩

/-- One more accepted class takes away exactly what it narrows. -/
theorem Selective.acceptsPath_add_class (hs : policy.Selective) (name : String)
    (h : policy.acceptsPath path = true) :
    (policy.add (.acceptClass name)).acceptsPath path = true ↔ ¬policy.Narrows name path := by
  rw [hs.acceptsPath_iff] at h
  obtain ⟨hr, h⟩ := h
  rw [(hs.add _).acceptsPath_iff]
  show _ ∧ (stemOf path ∈ policy.acceptedPrefixes ∨
    stemOf path ∈ policy.classPackages ++ [packageOfClass name] ∧
      path ∈ policy.classFiles ++ [fileOfClass name] ∨
    stemOf path ∉ policy.classPackages ++ [packageOfClass name] ∧ _) ↔ _
  simp only [List.mem_append, List.mem_singleton, not_or]
  constructor
  · rintro ⟨-, hplace | ⟨hc, hf⟩ | ⟨hc, -⟩⟩ hn
    · exact hn.not_place hplace
    · exact hf.elim hn.not_file hn.ne_file
    · exact hc.2 hn.inPackage
  · intro hn
    refine ⟨hr, ?_⟩
    rcases h with hplace | ⟨hc, hf⟩ | ⟨hc, hbelow⟩
    · exact .inl hplace
    · exact .inr (.inl ⟨.inl hc, .inl hf⟩)
    -- so far accepted for lying below a place: the new class may take that away
    · by_cases hplace : stemOf path ∈ policy.acceptedPrefixes
      · exact .inl hplace
      by_cases hpackage : stemOf path = packageOfClass name
      · refine .inr (.inl ⟨.inr hpackage, ?_⟩)
        by_contra hfile
        rw [not_or] at hfile
        exact hn ⟨hpackage, hplace, hc, hfile.1, hfile.2⟩
      · exact .inr (.inr ⟨⟨hc, hpackage⟩, hbelow⟩)

/-- **Accepting more.** Where something is accepted by name, a further accepted path or package
keeps every accepted resource accepted, and a further accepted class keeps all but those of its own
package that were accepted only for lying below an accepted place. -/
theorem acceptsPath_add_iff (hs : policy.Selective) (h : policy.acceptsPath path = true) :
    (∀ place, (policy.add (.accept place)).acceptsPath path = true) ∧
      ∀ name, (policy.add (.acceptClass name)).acceptsPath path = true ↔
        ¬policy.Narrows name path :=
  ⟨fun place => hs.acceptsPath_add_place place h, fun name => hs.acceptsPath_add_class name h⟩

/-- Two classes of one package below an accepted place, and a class of a package below that. -/
theorem acceptsPath_add_in_order :
    let policy := everything.addAll [.accept (.path "com"), .acceptClass "com.example.Foo"]
    policy.Selective ∧ policy.acceptsPath "com/example/Foo.class" = true ∧
      policy.acceptsPath "com/example/api/Qux.class" = true ∧
      (policy.add (.accept (.path "com/example/api"))).acceptsPath "com/example/Foo.class" = true ∧
      (policy.add (.acceptClass "com.example.Bar")).acceptsPath "com/example/Foo.class" = true ∧
      (policy.add (.acceptClass "com.example.api.Baz")).acceptsPath "com/example/api/Qux.class" =
        false := by
  intro policy
  have hs : policy.Selective := by decide
  have hfoo : policy.acceptsPath "com/example/Foo.class" = true := by decide
  have hqux : policy.acceptsPath "com/example/api/Qux.class" = true := by decide
  have hkept := acceptsPath_add_iff hs hfoo
  have hlost := acceptsPath_add_iff hs hqux
  refine ⟨hs, hfoo, hqux, hkept.1 _, (hkept.2 _).2 fun hn => hn.not_package (by decide), ?_⟩
  rw [Bool.eq_false_iff, ne_eq, hlost.2, not_not]
  exact ⟨by decide, by decide, by decide, by decide, by decide⟩

/-- A class takes the rest of its package from the place above. -/
theorem acceptClass_narrows :
    let policy := everything.addAll [.accept (.path "com")]
    policy.Selective ∧ policy.acceptsPath "com/example/Bar.class" = true ∧
      (policy.add (.acceptClass "com.example.Foo")).acceptsPath "com/example/Bar.class" =
        false := by
  decide

end SearchPath.Policy
