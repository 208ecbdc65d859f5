import SearchPath.Proofs.Path.Nested
import SearchPath.Proofs.Path.Normal

/-!
# Marks in normal forms

1. A path holds a mark exactly if a segment that is not the last one ends in `!`
   (`nests_join_iff`).
2. Normalizing moves no other segment to such a place, so it makes no marks
   (`not_nests_normalForm`).
-/

namespace SearchPath.Path

open SearchPath.Text

theorem nests_append_slash {s : List Char} (hs : '/' ∉ s) (t : List Char) :
    Nests (s ++ '/' :: t) ↔ s.getLast? = some '!' ∨ Nests t := by
  induction s with
  | nil =>
    rw [List.nil_append, nests_cons_iff]
    simp
  | cons c s ih =>
    have hs' : '/' ∉ s := fun hm => hs (List.mem_cons_of_mem c hm)
    rw [List.cons_append, nests_cons_iff, ih hs']
    cases s with
    | nil => simp
    | cons d s =>
      have hd : d ≠ '/' := fun he => hs' (he ▸ List.mem_cons_self)
      simp [hd]

theorem not_nests_of_no_slash {s : List Char} (hs : '/' ∉ s) : ¬Nests s :=
  not_nests_append not_nests_nil hs

/-- **Marks and segments.** A mark is a segment that ends in `!` and another segment behind it. -/
theorem nests_join_iff {segments : List (List Char)} (h : ∀ s ∈ segments, '/' ∉ s) :
    Nests (join '/' segments) ↔ ∃ s ∈ segments.dropLast, s.getLast? = some '!' := by
  induction segments with
  | nil => simp [join, not_nests_nil]
  | cons s segments ih =>
    have hs : '/' ∉ s := h s List.mem_cons_self
    cases segments with
    | nil => simp [join, not_nests_of_no_slash hs]
    | cons t segments =>
      rw [join_cons_ne_nil '/' s (List.cons_ne_nil t segments), nests_append_slash hs,
        ih fun r hr => h r (List.mem_cons_of_mem s hr), List.dropLast_cons_of_ne_nil
          (List.cons_ne_nil t segments)]
      simp

/-- Everything below the top of a stack was there before the last segment was pushed. -/
theorem mem_of_mem_tail_push {anchored : Bool} {stack : List (List Char)} {s t : List Char}
    (h : t ∈ (push anchored stack s).tail) : t ∈ stack := by
  by_cases hskip : s = [] ∨ s = here
  · rw [push_of_skipped anchored stack hskip] at h
    exact List.mem_of_mem_tail h
  by_cases habove : s = above
  · subst habove
    cases stack with
    | nil =>
      rw [push_above_nil] at h
      cases anchored <;> exact absurd h List.not_mem_nil
    | cons last rest =>
      rw [push_above_cons] at h
      split_ifs at h
      · exact List.mem_cons_of_mem last (List.mem_of_mem_tail h)
      · exact List.mem_of_mem_tail h
      · exact h
  · rwa [push_of_segment anchored stack hskip habove] at h

/-- What stands before the last segment of a normal form stands before the last one of the path. -/
theorem mem_dropLast_of_foldl_push {anchored : Bool} {segments : List (List Char)} {t : List Char}
    (h : t ∈ (segments.foldl (push anchored) []).reverse.dropLast) : t ∈ segments.dropLast := by
  rw [List.dropLast_reverse, List.mem_reverse] at h
  rcases List.eq_nil_or_concat' segments with rfl | ⟨before, last, rfl⟩
  · exact absurd h List.not_mem_nil
  · rw [List.foldl_append] at h
    rw [List.dropLast_concat]
    exact (mem_foldl_push (mem_of_mem_tail_push h)).resolve_left List.not_mem_nil

theorem Nests.of_anchor {a : Anchor} {s : List Char} (h : Nests (a.text ++ s)) : Nests s := by
  cases a with
  | slash => simpa [Anchor.text, nests_cons_iff] using h
  | drive letter => simpa [Anchor.text, nests_cons_iff] using h

/-- **No new marks.** Normalizing a path without marks makes none. -/
theorem not_nests_normalForm {path : List Char} (h : ¬Nests path) : ¬Nests (normalForm path) := by
  have hrest : ¬Nests (splitAnchor path).2 := fun hn =>
    h (hn.trans (splitAnchor_suffix path).isInfix)
  have hjoin : ¬Nests (join '/' (normalize path).segments) := by
    rw [nests_join_iff fun s hs => ((tidy_normalize path).isSegment s hs).no_slash]
    rintro ⟨s, hs, hmark⟩
    refine hrest ?_
    rw [← join_pieces '/' (splitAnchor path).2, nests_join_iff fun _ => not_mem_of_mem_pieces]
    exact ⟨s, mem_dropLast_of_foldl_push hs, hmark⟩
  unfold normalForm Normal.text
  split
  next a _ => exact fun hn => hjoin hn.of_anchor
  next =>
    split_ifs
    · decide
    · exact hjoin

end SearchPath.Path
