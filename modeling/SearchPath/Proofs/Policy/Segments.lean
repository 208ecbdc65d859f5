import SearchPath.Proofs.Policy.Rules
import SearchPath.Proofs.Text.Pieces

/-!
# Rejected directories

A policy keeps a rejected place as the text before everything below it and compares texts. What it
says is about segments:

1. `Place.segments` reads a place as segments, and `HasSegments` a directory.
2. A text made of whole segments starts another one exactly if the segments do
   (`trail_prefix_iff`), so a place covers a directory exactly if its segments do
   (`HasSegments.startsWith_iff`).
3. Main result (`rejection_after`): after any rules the rejected directories are those that a
   rejected place covers, and nothing in them is accepted.
-/

namespace SearchPath.Policy

open SearchPath.Text

variable {directory : String} {place : Place} {names rest : List (List Char)} {s t : List Char}

/-! ## Segments -/

/-- The segments one below the other, each with a slash behind it. -/
def trail (names : List (List Char)) : List Char :=
  names.flatMap (· ++ ['/'])

@[simp] theorem trail_nil : trail [] = [] := rfl

@[simp] theorem trail_cons (s : List Char) (names : List (List Char)) :
    trail (s :: names) = s ++ '/' :: trail names := by
  simp [trail]

@[simp] theorem trail_append (names rest : List (List Char)) :
    trail (names ++ rest) = trail names ++ trail rest :=
  List.flatMap_append

theorem trail_eq_join (h : names ≠ []) : trail names = join '/' names ++ ['/'] := by
  induction names with
  | nil => exact absurd rfl h
  | cons s names ih =>
    cases names with
    | nil => simp [join]
    | cons t names =>
      have hne : t :: names ≠ [] := List.cons_ne_nil t names
      rw [trail_cons, ih hne, join_cons_ne_nil '/' s hne]
      simp

theorem trail_pieces (s : List Char) : trail (pieces '/' s) = s ++ ['/'] := by
  rw [trail_eq_join (pieces_ne_nil '/' s), join_pieces]

/-- Only a single empty segment is written as the top. -/
theorem trail_eq_slash (h : trail names = ['/']) : names = [[]] := by
  cases names with
  | nil => cases h
  | cons s rest =>
    rw [trail_cons] at h
    have hlen := congrArg List.length h
    simp only [List.length_append, List.length_cons, List.length_nil] at hlen
    obtain rfl : s = [] := List.length_eq_zero_iff.1 (by omega)
    cases rest with
    | nil => rfl
    | cons t rest => simp at hlen

/-- A segment ends at the first slash. -/
theorem segment_prefix (hs : '/' ∉ s) (ht : '/' ∉ t) {u v : List Char}
    (h : s ++ '/' :: u <+: t ++ '/' :: v) : s = t ∧ u <+: v := by
  induction s generalizing t with
  | nil =>
    cases t with
    | nil => exact ⟨rfl, (List.cons_prefix_cons.1 h).2⟩
    | cons d t =>
      have hd : '/' = d := (List.cons_prefix_cons.1 h).1
      exact absurd (hd ▸ List.mem_cons_self) ht
  | cons c s ih =>
    simp only [List.mem_cons, not_or] at hs
    cases t with
    | nil => exact absurd (List.cons_prefix_cons.1 h).1.symm hs.1
    | cons d t =>
      simp only [List.mem_cons, not_or] at ht
      obtain ⟨rfl, hrest⟩ := List.cons_prefix_cons.1 h
      obtain ⟨rfl, hv⟩ := ih hs.2 ht.2 hrest
      exact ⟨rfl, hv⟩

/-- **Texts and segments.** A trail starts another one exactly if its segments do. -/
theorem trail_prefix_iff (hs : ∀ s ∈ names, '/' ∉ s) (hr : ∀ s ∈ rest, '/' ∉ s) :
    trail names <+: trail rest ↔ names <+: rest := by
  constructor
  · intro h
    induction names generalizing rest with
    | nil => exact List.nil_prefix
    | cons s names ih =>
      cases rest with
      | nil => simp at h
      | cons t rest =>
        rw [trail_cons, trail_cons] at h
        obtain ⟨rfl, hrest⟩ := segment_prefix (hs s (by simp)) (hr t (by simp)) h
        rw [List.cons_prefix_cons]
        exact ⟨rfl, ih (fun u hu => hs u (by simp [hu])) (fun u hu => hr u (by simp [hu])) hrest⟩
  · rintro ⟨more, rfl⟩
    rw [trail_append]
    exact List.prefix_append _ _

/-! ## Places -/

/-- What a place is written as, the dots of a package read as slashes. -/
def Place.spelling : Place → List Char
  | .path directory => directory.toList
  | .package name => name.toList.map fun c => if c = '.' then '/' else c

/-- The segments of a place: what stands between the slashes of its spelling, without blanks and
then without slashes at both ends. A place of which nothing is left has none. -/
def Place.segments (place : Place) : List (List Char) :=
  let trimmed := trimBoth (· == '/') (trim place.spelling)
  if trimmed = [] then [] else pieces '/' trimmed

theorem Place.no_slash (h : s ∈ place.segments) : '/' ∉ s := by
  unfold Place.segments at h
  dsimp only at h
  split_ifs at h
  · cases h
  · exact not_mem_of_mem_pieces h

theorem toList_prefixOfPath (path : String) :
    (prefixOfPath path).toList = trail (Place.path path).segments := by
  unfold prefixOfPath Place.segments Place.spelling
  dsimp only
  split_ifs with h
  · rfl
  · rw [trail_pieces, String.toList_ofList]

theorem Place.toList_start (place : Place) : place.start.toList = trail place.segments := by
  cases place with
  | path directory => exact toList_prefixOfPath directory
  | package name =>
    have hspelling : (Place.path (String.ofList
        (name.toList.map fun c => if c = '.' then '/' else c))).spelling =
        (Place.package name).spelling := String.toList_ofList
    show (prefixOfPackage name).toList = _
    rw [prefixOfPackage, toList_prefixOfPath, Place.segments, hspelling, ← Place.segments]

/-! ## Directories -/

/-- The directory is written with these segments: each of them with a slash behind it, and the top,
which has none, also as a single slash. -/
inductive HasSegments : String → List (List Char) → Prop
  | top : HasSegments "/" []
  | below {segments : List (List Char)} (hslash : ∀ s ∈ segments, '/' ∉ s)
      (hne : segments ≠ [[]]) : HasSegments (String.ofList (trail segments)) segments

theorem HasSegments.no_slash (h : HasSegments directory names) : ∀ s ∈ names, '/' ∉ s := by
  cases h with
  | top => simp
  | below hslash => exact hslash

/-- The directory of a resource has segments. -/
theorem exists_segments (path : String) :
    ∃ names, HasSegments (parentDirectory path) names := by
  unfold parentDirectory
  split
  next before _ _ =>
    -- a resource whose only slash is its first character lies in the top
    by_cases h : pieces '/' before = [[]]
    · have hbefore : before = [] := by
        rw [← join_pieces '/' before, h]
        rfl
      rw [hbefore]
      exact ⟨[], .top⟩
    · rw [← trail_pieces]
      exact ⟨pieces '/' before, .below (fun _ => not_mem_of_mem_pieces) h⟩
  next => exact ⟨[], .top⟩

/-- The text that prefixes are compared with is that of the segments. -/
theorem HasSegments.toList_eq (h : HasSegments directory names) :
    (stem directory).toList = trail names := by
  cases h with
  | top => rfl
  | below hslash hne =>
    have htop : String.ofList (trail names) ≠ "/" := by
      intro he
      have hslash := congrArg String.toList he
      rw [String.toList_ofList] at hslash
      exact hne (trail_eq_slash hslash)
    rw [stem, if_neg htop, String.toList_ofList]

/-- **Covering.** What is compared is whole segments. -/
theorem HasSegments.startsWith_iff (h : HasSegments directory names) (place : Place) :
    startsWith place.start (stem directory) = true ↔ place.segments <+: names := by
  unfold startsWith
  rw [List.isPrefixOf_iff_prefix, h.toList_eq, place.toList_start]
  exact trail_prefix_iff (fun _ => Place.no_slash) h.no_slash

/-! ## Rejection -/

/-- A rule rejects a place that covers the directory with these segments. -/
def Rejects (rules : List Rule) (names : List (List Char)) : Prop :=
  ∃ place, Rule.reject place ∈ rules ∧ place.segments <+: names

theorem Rejects.append {rules : List Rule} (h : Rejects rules names)
    (more : List (List Char)) : Rejects rules (names ++ more) := by
  obtain ⟨place, hm, hp⟩ := h
  exact ⟨place, hm, hp.trans (List.prefix_append names more)⟩

theorem HasSegments.rejected_iff (h : HasSegments directory names) (rules : List Rule) :
    (everything.addAll rules).matchDirectory directory = .rejected ↔ Rejects rules names := by
  rw [matchDirectory_eq_rejected_iff, List.any_eq_true]
  constructor
  · rintro ⟨start, hm, hs⟩
    obtain ⟨place, hrule, rfl⟩ := mem_rejectedPrefixes.1 hm
    exact ⟨place, hrule, (h.startsWith_iff place).1 hs⟩
  · rintro ⟨place, hrule, hp⟩
    exact ⟨place.start, mem_rejectedPrefixes.2 ⟨place, hrule, rfl⟩, (h.startsWith_iff place).2 hp⟩

theorem acceptsPath_of_rejected {policy : Policy} {path : String}
    (h : policy.matchDirectory (parentDirectory path) = .rejected) :
    policy.acceptsPath path = false := by
  unfold acceptsPath statusOf
  rw [h]
  rfl

/-- A rejected prefix matters only to the directories that start with it. -/
theorem matchDirectory_rejected_congr {accepted before after packages files : List String}
    {globs : GlobRules} {start : String} (h : startsWith start (stem directory) = false) :
    (Policy.mk accepted (before ++ start :: after) packages files globs).matchDirectory directory =
      (Policy.mk accepted (before ++ after) packages files globs).matchDirectory directory := by
  have hany : (before ++ start :: after).any (startsWith · (stem directory)) =
      (before ++ after).any (startsWith · (stem directory)) := by
    rw [List.any_append, List.any_cons, h, Bool.false_or, List.any_append]
  show (if (before ++ start :: after).any (startsWith · (stem directory)) = true then _ else _) = _
  rw [hany]
  rfl

/-- The rules reject whole directories, by their segments, and nothing brings a resource back. -/
structure RejectsBySegments (rules : List Rule) : Prop where
  /-- A directory is rejected exactly if the segments of a rejected place start its own. -/
  rejected_iff {directory : String} {segments : List (List Char)}
    (h : HasSegments directory segments) :
    (everything.addAll rules).matchDirectory directory = .rejected ↔ Rejects rules segments
  /-- With a directory everything below it is rejected. -/
  hereditary {directory below : String} {segments more : List (List Char)}
    (h : HasSegments directory segments) (hbelow : HasSegments below (segments ++ more))
    (hr : (everything.addAll rules).matchDirectory directory = .rejected) :
    (everything.addAll rules).matchDirectory below = .rejected
  /-- The directory of every resource has segments. -/
  located (path : String) : ∃ segments, HasSegments (parentDirectory path) segments
  /-- No resource is accepted that lies in or below a rejected place. -/
  refused {path : String} {segments : List (List Char)}
    (h : HasSegments (parentDirectory path) segments) (hr : Rejects rules segments) :
    (everything.addAll rules).acceptsPath path = false
  /-- A place with other segments than those at the start of a directory makes no difference to
  it, whether it is rejected or not. -/
  unaffected {directory : String} {segments : List (List Char)} {place : Place}
    {before after : List Rule} (h : HasSegments directory segments)
    (hr : rules = before ++ Rule.reject place :: after) (hp : ¬place.segments <+: segments) :
    (everything.addAll rules).matchDirectory directory =
      (everything.addAll (before ++ after)).matchDirectory directory

/-- **Rejection by segments.** A rejected place covers itself and what is below it, no directory
that merely starts with the same letters, and no accepted path, package or class prevails over
it. -/
theorem rejection_after (rules : List Rule) : RejectsBySegments rules := by
  constructor
  case rejected_iff => exact fun h => h.rejected_iff rules
  case hereditary =>
    intro directory below segments more h hbelow hr
    rw [h.rejected_iff] at hr
    rw [hbelow.rejected_iff]
    exact hr.append more
  case located => exact exists_segments
  case refused => exact fun h hr => acceptsPath_of_rejected ((h.rejected_iff rules).2 hr)
  case unaffected =>
    rintro directory segments place before after h rfl hp
    have hs : startsWith place.start (stem directory) = false := by
      rw [Bool.eq_false_iff]
      intro hs
      exact hp ((h.startsWith_iff place).1 hs)
    rw [addAll_eq, addAll_eq]
    simp only [List.filterMap_append, List.filterMap_cons, Rule.accepted?, Rule.rejected?,
      Rule.class?]
    exact matchDirectory_rejected_congr hs

example : (everything.addAll [.accept (.path "com"), .reject (.path "com/ex")]).matchDirectory
    "com/example/" = .below := by decide

end SearchPath.Policy
