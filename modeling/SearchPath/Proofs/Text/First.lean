import Mathlib.Data.List.TakeDrop
import Mathlib.Data.List.TakeWhile

/-!
# The first character outside a class

A text that holds a character outside a class has a first one (`exists_first`), and is cut there
(`span_first`, `dropWhile_first`); any other text is not cut (`span_all`).
-/

namespace SearchPath.Text

variable {p : Char → Bool} {before s : List Char} {c : Char}

theorem exists_first (h : ∃ c ∈ s, p c = false) :
    ∃ before c rest, s = before ++ c :: rest ∧ (∀ d ∈ before, p d = true) ∧ p c = false := by
  induction s with
  | nil =>
    obtain ⟨c, hc, -⟩ := h
    cases hc
  | cons a s ih =>
    cases ha : p a with
    | false => exact ⟨[], a, s, rfl, fun _ hd => absurd hd List.not_mem_nil, ha⟩
    | true =>
      have hs : ∃ c ∈ s, p c = false := by
        obtain ⟨c, hc, hp⟩ := h
        rcases List.mem_cons.1 hc with rfl | hc
        · rw [ha] at hp
          cases hp
        · exact ⟨c, hc, hp⟩
      obtain ⟨before, c, rest, rfl, hbefore, hc⟩ := ih hs
      refine ⟨a :: before, c, rest, rfl, fun d hd => ?_, hc⟩
      rcases List.mem_cons.1 hd with rfl | hd
      · exact ha
      · exact hbefore d hd

theorem dropWhile_first (hb : ∀ d ∈ before, p d = true) (hc : p c = false) (rest : List Char) :
    (before ++ c :: rest).dropWhile p = c :: rest := by
  rw [List.dropWhile_append_of_pos hb, List.dropWhile_cons_of_neg (by simp [hc])]

theorem span_first (hb : ∀ d ∈ before, p d = true) (hc : p c = false) (rest : List Char) :
    (before ++ c :: rest).span p = (before, c :: rest) := by
  rw [List.span_eq_takeWhile_dropWhile, List.takeWhile_append_of_pos hb,
    List.takeWhile_cons_of_neg (by simp [hc]), dropWhile_first hb hc, List.append_nil]

theorem span_all (h : ∀ d ∈ s, p d = true) : s.span p = (s, []) := by
  rw [List.span_eq_takeWhile_dropWhile, List.takeWhile_eq_self_iff.2 h,
    List.dropWhile_eq_nil_iff.2 h]

end SearchPath.Text
