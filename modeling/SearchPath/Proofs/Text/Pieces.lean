import Mathlib.Data.List.Basic
import Mathlib.Data.List.TakeWhile
import SearchPath.Text.Blank
import SearchPath.Text.Pieces

/-!
# Pieces put together again

1. Pieces without the separator come back from the text they are joined to (`pieces_join`), which
   is as long as the pieces with a separator behind all of them but the last (`length_join`).
2. A mark is found where it stands, behind a text that does not hold its second character
   (`breakAt_append`), and so is the last separator (`breakAtLast_append`).
3. Trimming takes blanks from the ends and nothing else (`trimEnd_append_rest`), so trimming a
   second time changes nothing (`trim_trim`).
-/

namespace SearchPath.Text

/-! ## Joined pieces -/

/-- **Joining and cutting.** Pieces without the separator are the pieces of the joined text. -/
theorem pieces_join {sep : Char} {ps : List (List Char)} (hne : ps ≠ [])
    (h : ∀ p ∈ ps, sep ∉ p) : pieces sep (join sep ps) = ps := by
  induction ps with
  | nil => exact absurd rfl hne
  | cons p ps ih =>
    have hp : pieces sep p = [p] := pieces_eq_singleton (h p List.mem_cons_self)
    cases ps with
    | nil => exact hp
    | cons q ps =>
      have hrest := ih (List.cons_ne_nil q ps) fun r hr => h r (List.mem_cons_of_mem p hr)
      rw [join_cons_ne_nil sep p (List.cons_ne_nil q ps), pieces_append, hp, hrest]
      rfl

theorem join_append (sep : Char) {ps qs : List (List Char)} (hp : ps ≠ []) (hq : qs ≠ []) :
    join sep (ps ++ qs) = join sep ps ++ sep :: join sep qs := by
  induction ps with
  | nil => exact absurd rfl hp
  | cons p ps ih =>
    cases ps with
    | nil => exact join_cons_ne_nil sep p hq
    | cons r ps =>
      rw [List.cons_append, join_cons_ne_nil sep p (by simp), ih (List.cons_ne_nil r ps),
        join_cons_ne_nil sep p (List.cons_ne_nil r ps), List.append_assoc, List.cons_append]

theorem join_suffix (sep : Char) (ps : List (List Char)) {qs : List (List Char)} (hq : qs ≠ []) :
    join sep qs <:+ join sep (ps ++ qs) := by
  by_cases hp : ps = []
  · rw [hp]
    exact List.suffix_rfl
  · rw [join_append sep hp hq, List.append_cons]
    exact List.suffix_append _ _

/-- The room that pieces take with a separator behind each of them. -/
def weight : List (List Char) → Nat
  | [] => 0
  | p :: ps => p.length + 1 + weight ps

@[simp] theorem weight_nil : weight [] = 0 := rfl

@[simp] theorem weight_cons (p : List Char) (ps : List (List Char)) :
    weight (p :: ps) = p.length + 1 + weight ps := rfl

theorem weight_append (ps qs : List (List Char)) :
    weight (ps ++ qs) = weight ps + weight qs := by
  induction ps with
  | nil => exact (Nat.zero_add _).symm
  | cons p ps ih =>
    rw [List.cons_append, weight_cons, weight_cons, ih]
    omega

@[simp] theorem weight_reverse (ps : List (List Char)) : weight ps.reverse = weight ps := by
  induction ps with
  | nil => rfl
  | cons p ps ih =>
    rw [List.reverse_cons, weight_append, ih, weight_cons, weight_cons, weight_nil]
    omega

/-- Joined pieces take the room of the pieces, but for a separator behind the last one. -/
theorem length_join (sep : Char) {ps : List (List Char)} (hne : ps ≠ []) :
    (join sep ps).length + 1 = weight ps := by
  induction ps with
  | nil => exact absurd rfl hne
  | cons p ps ih =>
    cases ps with
    | nil => rfl
    | cons q ps =>
      have := ih (List.cons_ne_nil q ps)
      rw [join_cons_ne_nil sep p (List.cons_ne_nil q ps), weight_cons, ← this,
        List.length_append, List.length_cons]
      omega

theorem weight_pieces (sep : Char) (s : List Char) : weight (pieces sep s) = s.length + 1 := by
  have h := length_join sep (pieces_ne_nil sep s)
  rw [join_pieces] at h
  exact h.symm

theorem length_join_le_weight (sep : Char) (ps : List (List Char)) :
    (join sep ps).length ≤ weight ps - 1 := by
  by_cases hnil : ps = []
  · rw [hnil]
    exact Nat.zero_le _
  · have h := length_join sep hnil
    omega

theorem mem_of_mem_pieces {sep c : Char} {s p : List Char} (hp : p ∈ pieces sep s) (hc : c ∈ p) :
    c ∈ s := by
  induction s generalizing p with
  | nil =>
    rw [pieces_nil, List.mem_singleton] at hp
    exact absurd hc (hp ▸ List.not_mem_nil)
  | cons d s ih =>
    obtain ⟨q, qs, hq⟩ := pieces_eq_cons sep s
    rw [hq] at ih
    unfold pieces at hp
    rw [hq] at hp
    split at hp
    · rcases List.mem_cons.1 hp with rfl | hp
      · exact absurd hc List.not_mem_nil
      · exact List.mem_cons_of_mem d (ih hp hc)
    · rcases List.mem_cons.1 hp with rfl | hp
      · rcases List.mem_cons.1 hc with rfl | hc
        · exact List.mem_cons_self
        · exact List.mem_cons_of_mem d (ih List.mem_cons_self hc)
      · exact List.mem_cons_of_mem d (ih (List.mem_cons_of_mem q hp) hc)

theorem mem_join {sep c : Char} {ps : List (List Char)} (h : c ∈ join sep ps) :
    c = sep ∨ ∃ p ∈ ps, c ∈ p := by
  induction ps with
  | nil => exact absurd h List.not_mem_nil
  | cons p ps ih =>
    cases ps with
    | nil => exact .inr ⟨p, List.mem_cons_self, h⟩
    | cons q ps =>
      rw [join_cons_ne_nil sep p (List.cons_ne_nil q ps)] at h
      rcases List.mem_append.1 h with h | h
      · exact .inr ⟨p, List.mem_cons_self, h⟩
      · rcases List.mem_cons.1 h with h | h
        · exact .inl h
        · rcases ih h with h | ⟨r, hr, hc⟩
          · exact .inl h
          · exact .inr ⟨r, List.mem_cons_of_mem p hr, hc⟩

theorem mem_join_of_mem {sep c : Char} {p : List Char} {ps : List (List Char)} (hp : p ∈ ps)
    (hc : c ∈ p) : c ∈ join sep ps := by
  obtain ⟨before, after, rfl⟩ := List.append_of_mem hp
  refine (join_suffix sep before (List.cons_ne_nil p after)).subset ?_
  cases after with
  | nil => exact hc
  | cons q after =>
    rw [join_cons_ne_nil sep p (List.cons_ne_nil q after)]
    exact List.mem_append_left _ hc

/-- Joined pieces start as one of the pieces does. -/
theorem join_map_join (sep : Char) {pss : List (List (List Char))} (h : ∀ ps ∈ pss, ps ≠ []) :
    join sep (pss.map (join sep)) = join sep pss.flatten := by
  induction pss with
  | nil => rfl
  | cons ps pss ih =>
    have ih := ih fun qs hq => h qs (List.mem_cons_of_mem ps hq)
    by_cases hnil : pss = []
    · rw [hnil, List.flatten_cons, List.flatten_nil, List.append_nil]
      rfl
    · have hflat : pss.flatten ≠ [] := by
        obtain ⟨qs, hq⟩ := List.exists_mem_of_ne_nil pss hnil
        rw [Ne, List.flatten_eq_nil_iff]
        exact fun hall => h qs (List.mem_cons_of_mem ps hq) (hall qs hq)
      rw [List.map_cons, join_cons_ne_nil sep _ (mt List.map_eq_nil_iff.1 hnil), ih,
        List.flatten_cons, join_append sep (h ps List.mem_cons_self) hflat]

theorem exists_head?_of_join {sep c : Char} {ps : List (List Char)} (hne : ∀ p ∈ ps, p ≠ [])
    (h : (join sep ps).head? = some c) : ∃ p ∈ ps, p.head? = some c := by
  cases ps with
  | nil => cases h
  | cons p ps =>
    refine ⟨p, List.mem_cons_self, ?_⟩
    obtain ⟨d, p, rfl⟩ := List.exists_cons_of_ne_nil (hne p List.mem_cons_self)
    cases ps <;> exact h

/-- Joined pieces end as one of the pieces does. -/
theorem exists_getLast?_of_join {sep c : Char} {ps : List (List Char)} (hne : ∀ p ∈ ps, p ≠ [])
    (h : (join sep ps).getLast? = some c) : ∃ p ∈ ps, p.getLast? = some c := by
  rcases List.eq_nil_or_concat' ps with rfl | ⟨before, last, rfl⟩
  · cases h
  · have hm : last ∈ before ++ [last] := List.mem_append_right before List.mem_cons_self
    obtain ⟨rest, he⟩ := join_suffix sep before (List.cons_ne_nil last [])
    rw [← he, join, List.getLast?_append_of_ne_nil rest (hne last hm)] at h
    exact ⟨last, hm, h⟩

/-- Another separator joins the same pieces. -/
theorem map_replace_eq_join (sep other : Char) (s : List Char) :
    (s.map fun c => if c = sep then other else c) = join other (pieces sep s) := by
  induction s with
  | nil => rfl
  | cons c s ih =>
    obtain ⟨p, ps, hp⟩ := pieces_eq_cons sep s
    rw [hp] at ih
    rw [List.map_cons, ih, pieces, hp]
    by_cases hc : c = sep
    · rw [if_pos hc, if_pos hc, join_cons_ne_nil other [] (List.cons_ne_nil p ps)]
      rfl
    · rw [if_neg hc, if_neg hc]
      cases ps <;> rfl

/-- A text without the separator goes to the first piece of what follows. -/
theorem pieces_append_of_not_mem {sep : Char} {s : List Char} (h : sep ∉ s) (t : List Char) :
    pieces sep (s ++ t) = (pieces sep t).modifyHead (s ++ ·) := by
  obtain ⟨p, ps, hp⟩ := pieces_eq_cons sep t
  rw [hp]
  induction s with
  | nil => exact hp
  | cons c s ih =>
    simp only [List.mem_cons, not_or] at h
    rw [List.cons_append, pieces, if_neg (Ne.symm h.1), ih h.2]
    rfl

/-- What stands behind the last separator of a text and what follows it are cut on their own. -/
theorem exists_pieces_append (sep : Char) (s t : List Char) :
    ∃ before last, sep ∉ last ∧ pieces sep (s ++ t) = before ++ pieces sep (last ++ t) := by
  induction s with
  | nil => exact ⟨[], [], List.not_mem_nil, rfl⟩
  | cons c s ih =>
    obtain ⟨before, last, hlast, hcut⟩ := ih
    by_cases hc : c = sep
    · refine ⟨[] :: before, last, hlast, ?_⟩
      rw [List.cons_append, pieces, if_pos hc, hcut, List.cons_append]
    · cases before with
      | nil =>
        refine ⟨[], c :: last, by simp [Ne.symm hc, hlast], ?_⟩
        rw [List.cons_append, pieces, if_neg hc, hcut, List.nil_append, List.nil_append,
          List.cons_append, pieces, if_neg hc]
      | cons p before =>
        refine ⟨(c :: p) :: before, last, hlast, ?_⟩
        rw [List.cons_append, pieces, if_neg hc, hcut]
        rfl

/-! ## Marks -/

/-- A mark is found where it stands, if its second character is neither its first one nor in the
text before. -/
theorem breakAt_append {c d : Char} {before : List Char} (hdc : d ≠ c) (hd : d ∉ before)
    (mark after : List Char) :
    breakAt (c :: d :: mark) (before ++ c :: d :: (mark ++ after)) = some (before, after) := by
  induction before with
  | nil =>
    have hpre : (c :: d :: mark).isPrefixOf (c :: d :: (mark ++ after)) :=
      List.isPrefixOf_iff_prefix.2 ⟨after, rfl⟩
    rw [List.nil_append, breakAt, if_pos hpre]
    simp
  | cons e before ih =>
    have hno : ¬(c :: d :: mark).isPrefixOf (e :: before ++ c :: d :: (mark ++ after)) := by
      intro h
      have hpre := List.isPrefixOf_iff_prefix.1 h
      rw [List.cons_append, List.cons_prefix_cons] at hpre
      cases before with
      | nil => exact hdc (List.cons_prefix_cons.1 hpre.2).1
      | cons f before =>
        refine hd (List.mem_cons_of_mem e ?_)
        rw [(List.cons_prefix_cons.1 hpre.2).1]
        exact List.mem_cons_self
    rw [List.cons_append] at hno ⊢
    rw [breakAt, if_neg hno, ih fun hm => hd (List.mem_cons_of_mem e hm)]
    rfl

/-- A single character is found where it stands first. -/
theorem breakAt_singleton_eq_some_iff {c : Char} {s before after : List Char} :
    breakAt [c] s = some (before, after) ↔ s = before ++ c :: after ∧ c ∉ before := by
  induction s generalizing before with
  | nil => simp [breakAt]
  | cons d s ih =>
    have hpre : [c].isPrefixOf (d :: s) = true ↔ c = d := by
      rw [List.isPrefixOf_iff_prefix, List.cons_prefix_cons]
      exact and_iff_left List.nil_prefix
    unfold breakAt
    by_cases hd : c = d
    · subst hd
      rw [if_pos (hpre.2 rfl)]
      cases before with
      | nil => simp
      | cons e before =>
        refine iff_of_false (by simp) fun ⟨he, hn⟩ => hn ?_
        rw [(List.cons.inj he).1]
        exact List.mem_cons_self
    · rw [if_neg (mt hpre.1 hd)]
      cases before with
      | nil =>
        refine iff_of_false (by simp) fun ⟨he, _⟩ => hd (List.cons.inj he).1.symm
      | cons e before =>
        have hcons : (breakAt [c] s).map (fun r => (d :: r.1, r.2)) = some (e :: before, after) ↔
            d = e ∧ breakAt [c] s = some (before, after) := by
          cases breakAt [c] s <;> simp [Prod.ext_iff, and_assoc]
        rw [hcons, ih, List.cons_append, List.cons.injEq, List.mem_cons, not_or]
        constructor
        · rintro ⟨rfl, hs, hn⟩
          exact ⟨⟨rfl, hs⟩, hd, hn⟩
        · rintro ⟨⟨rfl, hs⟩, -, hn⟩
          exact ⟨rfl, hs, hn⟩

/-- A text that lacks a character of the mark is not broken. -/
theorem breakAt_eq_none {mark s : List Char} {c : Char} (hc : c ∈ mark) (hs : c ∉ s) :
    breakAt mark s = none := by
  cases h : breakAt mark s with
  | none => rfl
  | some r =>
    obtain ⟨before, after⟩ := r
    refine absurd ?_ hs
    rw [eq_of_breakAt h]
    exact List.mem_append_left _ (List.mem_append_right _ hc)

/-! ### The last separator -/

theorem breakAtLast_eq_none {sep : Char} {s : List Char} (h : sep ∉ s) :
    breakAtLast sep s = none := by
  cases hb : breakAtLast sep s with
  | none => rfl
  | some r =>
    obtain ⟨before, after⟩ := r
    refine absurd ?_ h
    rw [eq_of_breakAtLast hb]
    exact List.mem_append_right before List.mem_cons_self

theorem breakAtLast_append {sep : Char} {after : List Char} (h : sep ∉ after)
    (before : List Char) : breakAtLast sep (before ++ sep :: after) = some (before, after) := by
  induction before with
  | nil => rw [List.nil_append, breakAtLast, breakAtLast_eq_none h, if_pos rfl]
  | cons c before ih => rw [List.cons_append, breakAtLast, ih]

/-! ## Trimming -/

theorem trimEnd_cons_of_neg {p : Char → Bool} {c : Char} (h : p c = false) (s : List Char) :
    trimEnd p (c :: s) = c :: trimEnd p s := by
  have hd : [c].dropWhile p = [c] :=
    List.dropWhile_cons_of_neg (by rw [h]; exact Bool.false_ne_true)
  rw [trimEnd, trimEnd, List.reverse_cons, List.dropWhile_append, hd]
  split
  next he => rw [List.isEmpty_iff.1 he]; rfl
  next => simp

theorem trimEnd_append {p : Char → Bool} {s : List Char} (h : ∀ c ∈ s, p c = false)
    (t : List Char) : trimEnd p (s ++ t) = s ++ trimEnd p t := by
  induction s with
  | nil => rfl
  | cons c s ih =>
    rw [List.cons_append, trimEnd_cons_of_neg (h c List.mem_cons_self),
      ih fun d hd => h d (List.mem_cons_of_mem c hd), List.cons_append]

/-- What is trimmed off the end lies in the set. -/
theorem trimEnd_append_rest (p : Char → Bool) (s : List Char) :
    ∃ rest, s = trimEnd p s ++ rest ∧ ∀ c ∈ rest, p c = true := by
  refine ⟨(s.reverse.takeWhile p).reverse, ?_, fun c hc => ?_⟩
  · rw [trimEnd, ← List.reverse_append, List.takeWhile_append_dropWhile, List.reverse_reverse]
  · exact List.mem_takeWhile_imp (List.mem_reverse.1 hc)

/-- A text that starts with no blank is trimmed at its end only. -/
theorem trim_cons_of_neg {c : Char} (h : isBlank c = false) (s : List Char) :
    trim (c :: s) = c :: trimEnd isBlank s := by
  rw [trim, trimBoth, List.dropWhile_cons_of_neg (by rw [h]; exact Bool.false_ne_true),
    trimEnd_cons_of_neg h]

theorem trim_isInfix (s : List Char) : trim s <:+: s :=
  (trimEnd_isPrefix isBlank _).isInfix.trans (List.dropWhile_suffix isBlank).isInfix

@[simp] theorem trim_trim (s : List Char) : trim (trim s) = trim s :=
  trim_eq_self (fun _ => head?_trim) (fun _ => getLast?_trim)

end SearchPath.Text
