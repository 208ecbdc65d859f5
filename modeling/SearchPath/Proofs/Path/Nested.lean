import Mathlib.Data.List.Infix
import SearchPath.Path.Canonical

/-!
# Archives inside archives

A path is cut at every mark `!/`.

1. No part holds a mark (`not_nests_of_mem`), and the parts with marks between them are the path
   (`nestedJoin_nestedParts`).
2. Parts that hold no mark come back from the path they are joined to (`nestedParts_nestedJoin`):
   a part may end in `!`, which makes no mark with the mark behind it (`nestedParts_append`).
-/

namespace SearchPath.Path

/-- The path holds a mark of an archive inside an archive. -/
def Nests (path : List Char) : Prop :=
  ['!', '/'] <:+: path

instance (path : List Char) : Decidable (Nests path) :=
  inferInstanceAs (Decidable (['!', '/'] <:+: path))

/-- The path with a mark between its parts. -/
def nestedJoin : List (List Char) → List Char
  | [] => []
  | outer :: nested => outer ++ nested.flatMap fun part => '!' :: '/' :: part

theorem nestedJoin_cons_ne_nil (part : List Char) {parts : List (List Char)} (h : parts ≠ []) :
    nestedJoin (part :: parts) = part ++ '!' :: '/' :: nestedJoin parts := by
  cases parts with
  | nil => exact absurd rfl h
  | cons q parts =>
    rw [nestedJoin, nestedJoin, List.flatMap_cons]
    rfl

theorem not_nests_nil : ¬ Nests [] := by decide

theorem nests_cons_iff {c : Char} {s : List Char} :
    Nests (c :: s) ↔ (c = '!' ∧ s.head? = some '/') ∨ Nests s := by
  unfold Nests
  rw [List.infix_cons_iff, List.cons_prefix_cons]
  refine or_congr_left (and_congr eq_comm ?_)
  cases s with
  | nil => simp
  | cons d s => simp [eq_comm]

/-! ## Cutting at the marks -/

theorem nestedParts_eq_cons (s : List Char) :
    ∃ outer nested, nestedParts s = outer :: nested := by
  fun_induction nestedParts s with
  | case1 => exact ⟨[], [], rfl⟩
  | case2 rest _ => exact ⟨[], nestedParts rest, rfl⟩
  | case3 c rest _ ih =>
    obtain ⟨outer, nested, he⟩ := ih
    exact ⟨c :: outer, nested, by rw [he]; rfl⟩

theorem nestedParts_ne_nil (s : List Char) : nestedParts s ≠ [] := by
  obtain ⟨outer, nested, he⟩ := nestedParts_eq_cons s
  rw [he]
  exact List.cons_ne_nil outer nested

/-- A character that starts no mark goes to the first part. -/
theorem nestedParts_cons {c : Char} {s : List Char} (h : ¬(c = '!' ∧ s.head? = some '/')) :
    nestedParts (c :: s) = (nestedParts s).modifyHead (c :: ·) := by
  rw [nestedParts.eq_def]
  split
  next he => cases he
  next he => cases he; exact absurd ⟨rfl, rfl⟩ h
  next he => cases he; rfl

/-- The parts with marks between them are the path. -/
theorem nestedJoin_nestedParts (s : List Char) : nestedJoin (nestedParts s) = s := by
  fun_induction nestedParts s with
  | case1 => rfl
  | case2 rest ih =>
    rw [nestedJoin_cons_ne_nil [] (nestedParts_ne_nil rest), ih]
    rfl
  | case3 c rest _ ih =>
    obtain ⟨outer, nested, he⟩ := nestedParts_eq_cons rest
    rw [he] at ih ⊢
    exact congrArg (c :: ·) ih

theorem nestedParts_eq_concat (s : List Char) :
    ∃ before last, nestedParts s = before ++ [last] ∧ nestedJoin (before ++ [last]) = s := by
  have hsplit := List.dropLast_concat_getLast (nestedParts_ne_nil s)
  exact ⟨_, _, hsplit.symm, by rw [hsplit, nestedJoin_nestedParts]⟩

/-- A mark cuts: the parts before it and the parts behind it. -/
theorem nestedParts_append (s t : List Char) :
    nestedParts (s ++ '!' :: '/' :: t) = nestedParts s ++ nestedParts t := by
  fun_induction nestedParts s with
  | case1 => rfl
  | case2 rest ih =>
    show [] :: nestedParts (rest ++ '!' :: '/' :: t) = _
    rw [ih]
    rfl
  | case3 c rest hno ih =>
    have hstart : ¬(c = '!' ∧ (rest ++ '!' :: '/' :: t).head? = some '/') := by
      rintro ⟨rfl, hhead⟩
      cases rest with
      | nil => cases hhead
      | cons d rest => cases hhead; exact hno rest rfl rfl
    obtain ⟨outer, nested, he⟩ := nestedParts_eq_cons rest
    rw [List.cons_append, nestedParts_cons hstart, ih, he]
    rfl

/-- A path without a mark is one part. -/
theorem nestedParts_of_not_nests {s : List Char} (h : ¬ Nests s) : nestedParts s = [s] := by
  induction s with
  | nil => rfl
  | cons c s ih =>
    rw [nests_cons_iff, not_or] at h
    rw [nestedParts_cons h.1, ih h.2]
    rfl

/-- No part holds a mark. -/
theorem not_nests_of_mem {s part : List Char} (h : part ∈ nestedParts s) : ¬ Nests part := by
  fun_induction nestedParts s generalizing part with
  | case1 => exact List.mem_singleton.1 h ▸ not_nests_nil
  | case2 rest ih =>
    rcases List.mem_cons.1 h with rfl | h
    · exact not_nests_nil
    · exact ih h
  | case3 c rest hno ih =>
    obtain ⟨outer, nested, he⟩ := nestedParts_eq_cons rest
    rw [he] at h ih
    rcases List.mem_cons.1 h with rfl | h
    · rw [nests_cons_iff]
      rintro (⟨rfl, hhead⟩ | hn)
      · have hrest := nestedJoin_nestedParts rest
        rw [he] at hrest
        cases outer with
        | nil => cases hhead
        | cons d outer => cases hhead; exact hno _ rfl hrest.symm
      · exact ih List.mem_cons_self hn
    · exact ih (List.mem_cons_of_mem outer h)

theorem mem_of_mem_nestedParts {s part : List Char} {c : Char} (hp : part ∈ nestedParts s)
    (hc : c ∈ part) : c ∈ s := by
  fun_induction nestedParts s generalizing part with
  | case1 => exact absurd hc (List.mem_singleton.1 hp ▸ List.not_mem_nil)
  | case2 rest ih =>
    rcases List.mem_cons.1 hp with rfl | hp
    · exact absurd hc List.not_mem_nil
    · exact List.mem_cons_of_mem '!' (List.mem_cons_of_mem '/' (ih hp hc))
  | case3 d rest _ ih =>
    obtain ⟨outer, nested, he⟩ := nestedParts_eq_cons rest
    rw [he] at hp ih
    rcases List.mem_cons.1 hp with rfl | hp
    · rcases List.mem_cons.1 hc with rfl | hc
      · exact List.mem_cons_self
      · exact List.mem_cons_of_mem d (ih List.mem_cons_self hc)
    · exact List.mem_cons_of_mem d (ih (List.mem_cons_of_mem outer hp) hc)

/-- **Joining and cutting.** Parts without a mark are the parts of the joined path. -/
theorem nestedParts_nestedJoin {parts : List (List Char)} (hne : parts ≠ [])
    (h : ∀ part ∈ parts, ¬ Nests part) : nestedParts (nestedJoin parts) = parts := by
  induction parts with
  | nil => exact absurd rfl hne
  | cons part parts ih =>
    have hpart := nestedParts_of_not_nests (h part List.mem_cons_self)
    cases parts with
    | nil =>
      rw [nestedJoin, List.flatMap_nil, List.append_nil]
      exact hpart
    | cons q parts =>
      have hrest := ih (List.cons_ne_nil q parts) fun r hr => h r (List.mem_cons_of_mem part hr)
      rw [nestedJoin_cons_ne_nil part (List.cons_ne_nil q parts), nestedParts_append, hpart, hrest]
      rfl

theorem not_nests_append {s t : List Char} (hs : ¬ Nests s) (ht : '/' ∉ t) : ¬ Nests (s ++ t) := by
  induction s with
  | nil => exact fun h => ht (h.subset (List.mem_cons_of_mem '!' List.mem_cons_self))
  | cons c s ih =>
    rw [nests_cons_iff, not_or] at hs
    rw [List.cons_append, nests_cons_iff]
    rintro (⟨hc, hhead⟩ | hn)
    · cases s with
      | nil => exact ht (List.mem_of_head? hhead)
      | cons d s => exact hs.1 ⟨hc, hhead⟩
    · exact ih hs.2 hn

theorem nestedJoin_concat {parts : List (List Char)} (h : parts ≠ []) (last : List Char) :
    nestedJoin (parts ++ [last]) = nestedJoin parts ++ '!' :: '/' :: last := by
  cases parts with
  | nil => exact absurd rfl h
  | cons outer nested => simp [nestedJoin]

theorem nestedJoin_append_last (before : List (List Char)) (last t : List Char) :
    nestedJoin (before ++ [last ++ t]) = nestedJoin (before ++ [last]) ++ t := by
  cases before with
  | nil => simp [nestedJoin]
  | cons outer before => simp [nestedJoin]

/-- What makes no mark and stands at the end belongs to the last part. -/
theorem nestedParts_append_last {s t last : List Char} {before : List (List Char)}
    (h : nestedParts s = before ++ [last]) (ht : ¬ Nests (last ++ t)) :
    nestedParts (s ++ t) = before ++ [last ++ t] := by
  have hparts : ∀ part ∈ before ++ [last ++ t], ¬ Nests part := by
    intro part hp
    rcases List.mem_append.1 hp with hp | hp
    · exact not_nests_of_mem (h ▸ List.mem_append_left [last] hp)
    · rwa [List.mem_singleton.1 hp]
  have hs : s ++ t = nestedJoin (before ++ [last ++ t]) := by
    rw [nestedJoin_append_last, ← h, nestedJoin_nestedParts]
  rw [hs]
  exact nestedParts_nestedJoin (by simp) hparts

/-! ## The canonical form of the parts -/

theorem canonicalPlain_eq {base path outer : List Char} {nested : List (List Char)}
    (h : nestedParts (unify path) = outer :: nested) :
    canonicalPlain base path = anchorAt base outer ++ nested.flatMap nestedText := by
  unfold canonicalPlain
  rw [h]

/-- A path without a mark is anchored as a whole. -/
theorem canonicalPlain_of_not_nests (base : List Char) {path : List Char}
    (h : ¬ Nests (unify path)) : canonicalPlain base path = anchorAt base (unify path) := by
  rw [canonicalPlain_eq (nestedParts_of_not_nests h), List.flatMap_nil, List.append_nil]

/-- A part behind a mark comes to nothing or to a mark and what it names. -/
theorem nestedText_cases (part : List Char) :
    nestedText part = [] ∨
      nestedText part = '!' :: '/' :: (normalForm part).dropWhile (· = '/') := by
  unfold nestedText
  dsimp only
  split_ifs
  · exact .inl rfl
  · exact .inr rfl

end SearchPath.Path
