import SearchPath.Proofs.Policy.Acceptance
import SearchPath.Proofs.Policy.Segments

/-!
# Policies of classes

A class is found by two texts that are made on their own: the prefix of its package, which is
compared with the directory of a resource, and the path of its file. For names whose parts between
the dots are proper (`IsClassName`) the two fit.

1. The package of such a class is its parts but the last one, each with a slash behind it
   (`toList_packageOfClass`).
2. The path of its file is the name with slashes for dots (`fileOfClass_eq`), and the file lies in
   the package (`stemOf_fileOfClass`).
3. Main result (`acceptsPath_classes_iff`): a policy of classes accepts exactly their files.
-/

namespace SearchPath.Policy

open SearchPath.Text

variable {before names rest : List (List Char)} {s simple : List Char} {name : String}

/-! ## Names of classes -/

/-- A part of the name of a class: not empty, without slashes, and without blanks at its ends. -/
structure IsClassPart (s : List Char) : Prop where
  ne_nil : s ≠ []
  no_slash : '/' ∉ s
  trimmed : trim s = s

/-- What stands between the dots of the name are parts of the name of a class. -/
def IsClassName (name : String) : Prop :=
  ∀ s ∈ pieces '.' name.toList, IsClassPart s

instance (s : List Char) : Decidable (IsClassPart s) :=
  decidable_of_iff (s ≠ [] ∧ '/' ∉ s ∧ trim s = s)
    ⟨fun h => ⟨h.1, h.2.1, h.2.2⟩, fun h => ⟨h.1, h.2, h.3⟩⟩

instance (name : String) : Decidable (IsClassName name) :=
  inferInstanceAs (Decidable (∀ s ∈ pieces '.' name.toList, IsClassPart s))

/-- The path of the file of a class: its name with slashes for dots, and the extension. -/
def pathOfClass (name : String) : String :=
  String.ofList (name.toList.map fun c => if c = '.' then '/' else c) ++ ".class"

/-! ## Packages -/

theorem trim_join (h : ∀ s ∈ names, IsClassPart s) : trim (join '/' names) = join '/' names := by
  have hne : ∀ s ∈ names, s ≠ [] := fun s hs => (h s hs).ne_nil
  refine trim_eq_self (fun c hc => ?_) fun c hc => ?_
  · obtain ⟨s, hs, hc⟩ := exists_head?_of_join hne hc
    rw [← (h s hs).trimmed] at hc
    exact head?_trim hc
  · obtain ⟨s, hs, hc⟩ := exists_getLast?_of_join hne hc
    rw [← (h s hs).trimmed] at hc
    exact getLast?_trim hc

theorem trimBoth_slash_join (h : ∀ s ∈ names, IsClassPart s) :
    trimBoth (· == '/') (join '/' names) = join '/' names := by
  have hne : ∀ s ∈ names, s ≠ [] := fun s hs => (h s hs).ne_nil
  refine trimBoth_eq_self (fun c hc => ?_) fun c hc => ?_
  · obtain ⟨s, hs, hc⟩ := exists_head?_of_join hne hc
    exact beq_false_of_ne fun he => (h s hs).no_slash (he ▸ List.mem_of_head? hc)
  · obtain ⟨s, hs, hc⟩ := exists_getLast?_of_join hne hc
    exact beq_false_of_ne fun he => (h s hs).no_slash (he ▸ List.mem_of_getLast? hc)

theorem join_concat (names : List (List Char)) (s : List Char) :
    join '/' (names ++ [s]) = trail names ++ s := by
  by_cases h : names = []
  · subst h
    rfl
  · rw [join_append '/' h (List.cons_ne_nil s []), trail_eq_join h, List.append_assoc]
    rfl

/-- A package of proper parts has these as its segments. -/
theorem segments_package (h : ∀ s ∈ names, IsClassPart s) (hdot : ∀ s ∈ names, '.' ∉ s) :
    (Place.package (String.ofList (join '.' names))).segments = names := by
  by_cases hnil : names = []
  · subst hnil
    rfl
  · have hslash : ∀ s ∈ names, '/' ∉ s := fun s hs => (h s hs).no_slash
    have hspelling : (Place.package (String.ofList (join '.' names))).spelling =
        join '/' names := by
      show ((String.ofList (join '.' names)).toList.map fun c => if c = '.' then '/' else c) = _
      rw [String.toList_ofList, map_replace_eq_join, pieces_join hnil hdot]
    have hne : join '/' names ≠ [] := by
      intro he
      have hpieces := pieces_join hnil hslash
      rw [he, pieces_nil] at hpieces
      exact (h [] (hpieces ▸ List.mem_cons_self)).ne_nil rfl
    unfold Place.segments
    dsimp only
    rw [hspelling, trim_join h, trimBoth_slash_join h, if_neg hne, pieces_join hnil hslash]

/-! ## Files -/

/-- The last part of a name is the simple name, and those before it make the package. -/
theorem splitClassName_join (before : List (List Char)) (h : '.' ∉ simple) :
    splitClassName (String.ofList (join '.' (before ++ [simple]))) =
      (String.ofList (join '.' before), String.ofList simple) := by
  unfold splitClassName
  rw [String.toList_ofList]
  by_cases hnil : before = []
  · subst hnil
    have hjoin : join '.' ([] ++ [simple]) = simple := rfl
    rw [hjoin, breakAtLast_eq_none h]
    rfl
  · rw [join_append '.' hnil (List.cons_ne_nil simple []), join, breakAtLast_append h]

/-- The name of a class is a list of parts and one more. -/
theorem IsClassName.exists_parts (h : IsClassName name) :
    ∃ before simple, (∀ s ∈ before ++ [simple], IsClassPart s ∧ '.' ∉ s) ∧
      name = String.ofList (join '.' (before ++ [simple])) := by
  have hne := pieces_ne_nil '.' name.toList
  refine ⟨(pieces '.' name.toList).dropLast, (pieces '.' name.toList).getLast hne, ?_, ?_⟩
  · rw [List.dropLast_concat_getLast hne]
    exact fun s hs => ⟨h s hs, not_mem_of_mem_pieces hs⟩
  · rw [List.dropLast_concat_getLast hne, join_pieces, String.ofList_toList]

/-- A file below some segments lies in the directory of these. -/
theorem hasSegments_parentDirectory (hslash : ∀ s ∈ names, '/' ∉ s) (hne : names ≠ [[]])
    (h : '/' ∉ s) : HasSegments (parentDirectory (String.ofList (trail names ++ s))) names := by
  unfold parentDirectory
  rw [String.toList_ofList]
  by_cases hnil : names = []
  · subst hnil
    rw [trail_nil, List.nil_append, breakAtLast_eq_none h]
    exact .top
  · have htrail : trail names ++ s = join '/' names ++ '/' :: s := by
      rw [trail_eq_join hnil, List.append_assoc]
      rfl
    have hbelow := HasSegments.below hslash hne
    rw [trail_eq_join hnil] at hbelow
    rw [htrail, breakAtLast_append h]
    exact hbelow

/-- The package of a class is its parts but the last one, each with a slash behind it. -/
theorem toList_packageOfClass (h : ∀ s ∈ before ++ [simple], IsClassPart s ∧ '.' ∉ s) :
    (packageOfClass (String.ofList (join '.' (before ++ [simple])))).toList = trail before := by
  have hsimple := h simple (List.mem_append_right before List.mem_cons_self)
  have hbefore := fun s hs => h s (List.mem_append_left [simple] hs)
  rw [packageOfClass, splitClassName_join before hsimple.2]
  show (Place.package (String.ofList (join '.' before))).start.toList = _
  rw [Place.toList_start, segments_package (fun s hs => (hbefore s hs).1) fun s hs =>
    (hbefore s hs).2]

theorem toList_fileOfClass (h : ∀ s ∈ before ++ [simple], IsClassPart s ∧ '.' ∉ s) :
    (fileOfClass (String.ofList (join '.' (before ++ [simple])))).toList =
      trail before ++ (simple ++ ".class".toList) := by
  have hsimple := h simple (List.mem_append_right before List.mem_cons_self)
  rw [fileOfClass, String.toList_append, String.toList_append, toList_packageOfClass h,
    splitClassName_join before hsimple.2, String.toList_ofList, List.append_assoc]

/-- **The path of a class.** Its package and its simple name make the name with slashes for
dots. -/
theorem fileOfClass_eq (h : IsClassName name) : fileOfClass name = pathOfClass name := by
  obtain ⟨before, simple, hparts, rfl⟩ := h.exists_parts
  have hcut : pieces '.' (join '.' (before ++ [simple])) = before ++ [simple] :=
    pieces_join (List.append_ne_nil_of_right_ne_nil before (List.cons_ne_nil simple []))
      fun s hs => (hparts s hs).2
  rw [← String.toList_inj, toList_fileOfClass hparts, pathOfClass, String.toList_append]
  simp only [String.toList_ofList]
  rw [map_replace_eq_join, hcut, join_concat, List.append_assoc]

/-- **The directory of a class.** The file of a class lies in its package. -/
theorem stemOf_fileOfClass (h : IsClassName name) :
    stemOf (fileOfClass name) = packageOfClass name := by
  obtain ⟨before, simple, hparts, rfl⟩ := h.exists_parts
  have hsimple := (hparts simple (List.mem_append_right before List.mem_cons_self)).1
  have hbefore := fun s hs => (hparts s (List.mem_append_left [simple] hs)).1
  have hslash : ∀ s ∈ before, '/' ∉ s := fun s hs => (hbefore s hs).no_slash
  have hne : before ≠ [[]] := by
    rintro rfl
    exact (hbefore [] List.mem_cons_self).ne_nil rfl
  have hfile : '/' ∉ simple ++ ".class".toList := by
    rw [List.mem_append, not_or]
    exact ⟨hsimple.no_slash, by decide⟩
  have htext : fileOfClass (String.ofList (join '.' (before ++ [simple]))) =
      String.ofList (trail before ++ (simple ++ ".class".toList)) := by
    rw [← toList_fileOfClass hparts, String.ofList_toList]
  rw [← String.toList_inj, toList_packageOfClass hparts, htext, stemOf]
  exact (hasSegments_parentDirectory hslash hne hfile).toList_eq

/-! ## Policies of classes alone -/

theorem addAll_classes (names : List String) :
    everything.addAll (names.map .acceptClass) =
      { everything with
        classPackages := names.map packageOfClass
        classFiles := names.map fileOfClass } := by
  have haccepted : (names.map Rule.acceptClass).filterMap Rule.accepted? = [] := by
    simp [Rule.accepted?]
  have hrejected : (names.map Rule.acceptClass).filterMap Rule.rejected? = [] := by
    simp [Rule.rejected?]
  have hclasses : (names.map Rule.acceptClass).filterMap Rule.class? = names := by
    rw [List.filterMap_map]
    exact List.filterMap_some
  rw [addAll_eq, haccepted, hrejected, hclasses]
  rfl

/-- **Classes alone.** A policy made by accepting some classes, and nothing else, accepts the files
of these classes and no other resource. -/
theorem acceptsPath_classes_iff {names : List String} (hne : names ≠ [])
    (hnames : ∀ name ∈ names, IsClassName name) (path : String) :
    (everything.addAll (names.map .acceptClass)).acceptsPath path = true ↔
      ∃ name ∈ names, path = pathOfClass name := by
  have hs : (everything.addAll (names.map .acceptClass)).Selective := by
    rw [addAll_classes]
    exact .inr fun he => hne (List.map_eq_nil_iff.1 he)
  rw [hs.acceptsPath_iff, addAll_classes]
  constructor
  · rintro ⟨-, hplace | ⟨-, hfile⟩ | ⟨-, start, hstart, -⟩⟩
    · cases hplace
    · obtain ⟨name, hn, rfl⟩ := List.mem_map.1 hfile
      exact ⟨name, hn, fileOfClass_eq (hnames name hn)⟩
    · cases hstart
  · rintro ⟨name, hn, rfl⟩
    rw [← fileOfClass_eq (hnames name hn)]
    refine ⟨fun hr => ?_, .inr (.inl ⟨?_, List.mem_map_of_mem hn⟩)⟩
    · obtain ⟨start, hstart, -⟩ := hr
      cases hstart
    · rw [stemOf_fileOfClass (hnames name hn)]
      exact List.mem_map_of_mem hn

/-- Classes of the top, of a package and of the package below it: no other class of these packages
is accepted, nor what has the file of a class as its directory. -/
theorem acceptsPath_classes_nested :
    let names := ["Main", "com.example.Foo", "com.example.api.v1.Foo$Bar"]
    let policy := everything.addAll (names.map .acceptClass)
    (names ≠ [] ∧ ∀ name ∈ names, IsClassName name) ∧
      policy.acceptsPath "Main.class" = true ∧
      policy.acceptsPath "com/example/api/v1/Foo$Bar.class" = true ∧
      ¬policy.acceptsPath "com/example/Foo$Bar.class" = true ∧
      ¬policy.acceptsPath "/Main.class" = true ∧
      ¬policy.acceptsPath "com/example/Foo.class/x" = true := by
  intro names policy
  have hnames : ∀ name ∈ names, IsClassName name := by decide
  have hiff := acceptsPath_classes_iff (List.cons_ne_nil _ _) hnames
  refine ⟨⟨List.cons_ne_nil _ _, hnames⟩, ?_, ?_, ?_, ?_, ?_⟩ <;> rw [hiff] <;> decide

end SearchPath.Policy
