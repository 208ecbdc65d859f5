import Mathlib.Data.List.Pairwise
import Mathlib.Tactic.SplitIfs
import SearchPath.Path.Normal
import SearchPath.Proofs.Text.Pieces

/-!
# Tidy segments

The segments of a path are pushed on a stack one by one. The stack is always tidy: it holds proper
segments, and `..` at its bottom only, never above an anchor.

1. Pushing keeps a stack tidy (`Tidy.push`, `Tidy.pushAll`).
2. Tidy segments are pushed as they stand (`foldl_push_of_tidy`), also when they are read from the
   text between slashes (`foldl_push_join`).
3. Pushing brings in no other segments (`mem_foldl_push`) and takes no more room
   (`weight_foldl_push_le`).
-/

namespace SearchPath.Path

open SearchPath.Text

/-! ## Tidy segments -/

/-- A segment that stands in a normal path. -/
structure IsSegment (s : List Char) : Prop where
  ne_nil : s ≠ []
  ne_here : s ≠ here
  no_slash : '/' ∉ s

/-- Segments as they stand in a normal path: `..` stands only at the start, and not behind an
anchor. -/
structure Tidy (anchored : Bool) (segments : List (List Char)) : Prop where
  isSegment : ∀ s ∈ segments, IsSegment s
  above_first : segments.Pairwise fun before after => after = above → before = above
  no_above : anchored = true → above ∉ segments

variable {anchored : Bool} {stack segments : List (List Char)} {s : List Char}

theorem isSegment_above : IsSegment above :=
  ⟨by decide, by decide, by decide⟩

theorem tidy_nil (anchored : Bool) : Tidy anchored [] :=
  ⟨fun _ h => absurd h List.not_mem_nil, List.Pairwise.nil, fun _ => List.not_mem_nil⟩

theorem Tidy.sublist {more : List (List Char)} (h : Tidy anchored more)
    (hs : segments.Sublist more) : Tidy anchored segments where
  isSegment s hm := h.isSegment s (hs.subset hm)
  above_first := h.above_first.sublist hs
  no_above ha hm := h.no_above ha (hs.subset hm)

theorem Tidy.unanchored (h : Tidy anchored segments) : Tidy false segments :=
  ⟨h.isSegment, h.above_first, fun hc => absurd hc Bool.false_ne_true⟩

/-- A further segment that is not `..` keeps the segments tidy. -/
theorem Tidy.append_segment (h : Tidy anchored segments) (hs : IsSegment s) (ha : s ≠ above) :
    Tidy anchored (segments ++ [s]) where
  isSegment t hm := by
    rcases List.mem_append.1 hm with hm | hm
    · exact h.isSegment t hm
    · rw [List.mem_singleton.1 hm]
      exact hs
  above_first := by
    refine List.pairwise_append.2 ⟨h.above_first, List.pairwise_singleton _ s, ?_⟩
    intro before _ after hm he
    rw [List.mem_singleton.1 hm] at he
    exact absurd he ha
  no_above hc hm := by
    rcases List.mem_append.1 hm with hm | hm
    · exact h.no_above hc hm
    · exact ha (List.mem_singleton.1 hm).symm

/-- A further `..` keeps segments tidy that are nothing but `..`, where there is no anchor. -/
theorem Tidy.append_above (h : Tidy false segments) (hall : ∀ s ∈ segments, s = above) :
    Tidy false (segments ++ [above]) where
  isSegment t hm := by
    rcases List.mem_append.1 hm with hm | hm
    · exact h.isSegment t hm
    · rw [List.mem_singleton.1 hm]
      exact isSegment_above
  above_first :=
    List.pairwise_append.2 ⟨h.above_first, List.pairwise_singleton _ above,
      fun before hb _ _ _ => hall before hb⟩
  no_above hc := absurd hc Bool.false_ne_true

/-- Below a `..` at the top of a tidy stack everything is `..`. -/
theorem Tidy.all_above {last : List Char} {rest : List (List Char)}
    (h : Tidy anchored (last :: rest).reverse) (hl : last = above) :
    ∀ s ∈ (last :: rest).reverse, s = above := by
  intro s hm
  rcases List.mem_cons.1 (List.mem_reverse.1 hm) with rfl | hm
  · exact hl
  · have hp := List.pairwise_reverse.1 h.above_first
    exact (List.pairwise_cons.1 hp).1 s hm hl

/-! ### One segment -/

theorem push_of_skipped (anchored : Bool) (stack : List (List Char)) (h : s = [] ∨ s = here) :
    push anchored stack s = stack :=
  if_pos h

theorem push_of_segment (anchored : Bool) (stack : List (List Char)) (h : ¬(s = [] ∨ s = here))
    (ha : s ≠ above) : push anchored stack s = s :: stack := by
  unfold push
  rw [if_neg h, if_neg ha]

theorem push_above_nil (anchored : Bool) :
    push anchored [] above = if anchored then [] else [above] := by
  cases anchored <;> rfl

theorem push_above_cons (anchored : Bool) (last : List Char) (rest : List (List Char)) :
    push anchored (last :: rest) above =
      if last ≠ above then rest else if anchored then last :: rest else above :: last :: rest := by
  unfold push
  rw [if_neg (by decide), if_pos rfl]

/-- **Pushing.** One more segment leaves the stack tidy. -/
theorem Tidy.push (h : Tidy anchored stack.reverse) (hs : '/' ∉ s) :
    Tidy anchored (push anchored stack s).reverse := by
  by_cases hskip : s = [] ∨ s = here
  · rwa [push_of_skipped anchored stack hskip]
  by_cases habove : s = above
  · subst habove
    cases stack with
    | nil =>
      rw [push_above_nil]
      cases anchored with
      | true => exact h
      | false => exact h.append_above fun t ht => absurd ht List.not_mem_nil
    | cons last rest =>
      rw [push_above_cons]
      by_cases hlast : last = above
      · rw [if_neg (not_not.2 hlast)]
        cases anchored with
        | true => exact h
        | false =>
          rw [if_neg Bool.false_ne_true, List.reverse_cons]
          exact h.append_above (h.all_above hlast)
      · rw [if_pos hlast]
        refine h.sublist ?_
        rw [List.reverse_cons]
        exact List.sublist_append_left rest.reverse [last]
  · rw [push_of_segment anchored stack hskip habove, List.reverse_cons]
    exact h.append_segment ⟨fun he => hskip (.inl he), fun he => hskip (.inr he), hs⟩ habove

theorem Tidy.pushAll (h : Tidy anchored stack.reverse) (hs : ∀ s ∈ segments, '/' ∉ s) :
    Tidy anchored (segments.foldl (Path.push anchored) stack).reverse := by
  induction segments generalizing stack with
  | nil => exact h
  | cons s rest ih =>
    exact ih (h.push (hs s List.mem_cons_self)) fun t ht => hs t (List.mem_cons_of_mem s ht)

/-- A segment is pushed as it stands where that leaves the stack tidy. -/
theorem push_of_tidy (h : Tidy anchored (s :: stack).reverse) :
    push anchored stack s = s :: stack := by
  have hseg : IsSegment s := h.isSegment s (List.mem_reverse.2 List.mem_cons_self)
  by_cases habove : s = above
  · have ha : anchored = false := by
      cases anchored with
      | false => rfl
      | true => exact absurd (List.mem_reverse.2 (habove ▸ List.mem_cons_self)) (h.no_above rfl)
    subst ha habove
    cases stack with
    | nil => rfl
    | cons last rest =>
      have hlast : last = above :=
        h.all_above rfl last (List.mem_reverse.2 (List.mem_cons_of_mem above List.mem_cons_self))
      rw [push_above_cons, if_neg (not_not.2 hlast), if_neg Bool.false_ne_true]
  · exact push_of_segment anchored stack (not_or.2 ⟨hseg.ne_nil, hseg.ne_here⟩) habove

/-- **Tidy segments are pushed as they stand.** -/
theorem foldl_push_of_tidy (h : Tidy anchored (stack.reverse ++ segments)) :
    segments.foldl (push anchored) stack = segments.reverse ++ stack := by
  induction segments generalizing stack with
  | nil => rfl
  | cons s rest ih =>
    have hnext : Tidy anchored ((s :: stack).reverse ++ rest) := by
      rwa [List.reverse_cons, List.append_assoc]
    have hpush := push_of_tidy (hnext.sublist (List.sublist_append_left _ rest))
    rw [List.foldl_cons, hpush, ih hnext, List.reverse_cons, List.append_assoc]
    rfl

/-- Tidy segments are read as they stand between slashes. -/
theorem foldl_push_join (h : Tidy anchored segments) :
    (pieces '/' (join '/' segments)).foldl (push anchored) [] = segments.reverse := by
  by_cases hnil : segments = []
  · subst hnil
    exact push_of_skipped anchored [] (.inl rfl)
  · have hslash : ∀ s ∈ segments, '/' ∉ s := fun s hs => (h.isSegment s hs).no_slash
    have htidy : Tidy anchored (([] : List (List Char)).reverse ++ segments) := h
    rw [pieces_join hnil hslash, foldl_push_of_tidy htidy, List.append_nil]

/-! ## What a stack holds -/

theorem mem_push {t : List Char} (h : t ∈ push anchored stack s) : t ∈ stack ∨ t = s := by
  by_cases hskip : s = [] ∨ s = here
  · rw [push_of_skipped anchored stack hskip] at h
    exact .inl h
  by_cases habove : s = above
  · subst habove
    cases stack with
    | nil =>
      rw [push_above_nil] at h
      split_ifs at h
      · exact absurd h List.not_mem_nil
      · exact .inr (List.mem_singleton.1 h)
    | cons last rest =>
      rw [push_above_cons] at h
      split_ifs at h
      · exact .inl (List.mem_cons_of_mem last h)
      · exact .inl h
      · exact (List.mem_cons.1 h).symm
  · rw [push_of_segment anchored stack hskip habove] at h
    exact (List.mem_cons.1 h).symm

theorem mem_foldl_push {t : List Char} (h : t ∈ segments.foldl (push anchored) stack) :
    t ∈ stack ∨ t ∈ segments := by
  induction segments generalizing stack with
  | nil => exact .inl h
  | cons s rest ih =>
    rcases ih h with ht | ht
    · rcases mem_push ht with ht | rfl
      · exact .inl ht
      · exact .inr List.mem_cons_self
    · exact .inr (List.mem_cons_of_mem s ht)

theorem weight_push_le (anchored : Bool) (stack : List (List Char)) (s : List Char) :
    weight (push anchored stack s) ≤ weight stack + (s.length + 1) := by
  by_cases hskip : s = [] ∨ s = here
  · rw [push_of_skipped anchored stack hskip]
    omega
  by_cases habove : s = above
  · subst habove
    cases stack with
    | nil =>
      rw [push_above_nil]
      split_ifs <;> simp
    | cons last rest =>
      rw [push_above_cons]
      split_ifs <;> simp only [weight_cons] <;> omega
  · rw [push_of_segment anchored stack hskip habove, weight_cons]
    omega

theorem weight_foldl_push_le (anchored : Bool) (stack segments : List (List Char)) :
    weight (segments.foldl (push anchored) stack) ≤ weight stack + weight segments := by
  induction segments generalizing stack with
  | nil => exact Nat.le_refl _
  | cons s rest ih =>
    have hstep := weight_push_le anchored stack s
    have hrest := ih (push anchored stack s)
    rw [List.foldl_cons, weight_cons]
    omega

end SearchPath.Path
