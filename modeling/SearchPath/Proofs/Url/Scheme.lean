import Mathlib.Data.Bool.AllAny
import Mathlib.Data.List.TakeDrop
import Mathlib.Tactic.SplitIfs
import SearchPath.Proofs.Text.Letter
import SearchPath.Proofs.Text.Pieces
import SearchPath.Url.Parser

/-!
# The scheme of a URL

1. A text that is read as a URL has the scheme that stands in front of its first colon, without
   controls and line breaks (`scheme_of_parse`, `exists_of_readScheme`).
2. A text that starts with a slash is no URL (`parse_slash`), and the letter of a drive is read as a
   scheme of one letter (`readScheme_drive`). What starts with `jar:` has a scheme
   (`readScheme_archive`).
-/

namespace SearchPath.Url

open SearchPath.Text

theorem scheme_of_parseFile {s : List Char} {url : Url} (h : parseFile s = .ok url) :
    url.scheme = "file".toList := by
  unfold parseFile at h
  cases hr : readFileHost s with
  | error e => rw [hr] at h; cases h
  | ok host => rw [hr] at h; cases h; rfl

theorem scheme_of_parseHosted {kind : Kind} {scheme s : List Char} {url : Url}
    (h : parseHosted kind scheme s = .ok url) : url.scheme = scheme := by
  unfold parseHosted at h
  cases hr : readAuthority kind scheme s with
  | error e => rw [hr] at h; cases h
  | ok authority => rw [hr] at h; cases h; rfl

theorem ofScheme_eq_file {scheme : List Char} (h : Kind.ofScheme scheme = .file) :
    scheme = "file".toList := by
  unfold Kind.ofScheme at h
  split_ifs at h with hf
  exact hf

/-- **The scheme.** What is read as a URL has the scheme that stands in front. -/
theorem scheme_of_parse {s scheme rest : List Char} {url : Url}
    (hs : readScheme (visible (strip s)) = some (scheme, rest)) (h : parse s = .ok url) :
    url.scheme = scheme := by
  unfold parse at h
  dsimp only at h
  rw [hs] at h
  dsimp only at h
  cases hk : Kind.ofScheme scheme with
  | file =>
    rw [hk] at h
    rw [ofScheme_eq_file hk]
    exact scheme_of_parseFile h
  | web =>
    rw [hk] at h
    exact scheme_of_parseHosted h
  | other =>
    rw [hk] at h
    dsimp only at h
    split at h
    · exact scheme_of_parseHosted h
    · cases h
      rfl

theorem parse_of_readScheme_eq_none {s : List Char} (h : readScheme (visible (strip s)) = none) :
    parse s = .error .relativeWithoutBase := by
  unfold parse
  dsimp only
  rw [h]

/-- A scheme is read from the characters in front of the first colon. -/
theorem exists_of_readScheme {s scheme rest : List Char}
    (h : readScheme s = some (scheme, rest)) :
    ∃ name, s = name ++ ':' :: rest ∧ scheme = name.map Char.toLower := by
  cases s with
  | nil => cases h
  | cons c s =>
    unfold readScheme at h
    dsimp only at h
    split at h
    case isFalse => cases h
    split at h
    case h_2 => cases h
    next name rest' hspan =>
      cases h
      rw [List.span_eq_takeWhile_dropWhile] at hspan
      obtain ⟨hname, hrest⟩ := Prod.mk.inj hspan
      refine ⟨c :: name, ?_, rfl⟩
      rw [← hname, ← hrest, List.cons_append, List.takeWhile_append_dropWhile]

/-! ## Texts that start with a path -/

theorem strip_cons {c : Char} (h : 0x20 < c.toNat) (s : List Char) :
    strip (c :: s) = c :: trimEnd (·.toNat ≤ 0x20) s := by
  have hc : (decide (c.toNat ≤ 0x20)) = false := decide_eq_false (by omega)
  rw [strip, trimBoth, List.dropWhile_cons_of_neg (by rw [hc]; exact Bool.false_ne_true),
    trimEnd_cons_of_neg hc]

theorem visible_cons {c : Char} (h : isBreak c = false) (s : List Char) :
    visible (c :: s) = c :: visible s :=
  List.filter_cons_of_pos (by rw [h]; rfl)

/-- A text that starts with a slash is no URL. -/
theorem parse_slash (s : List Char) : parse ('/' :: s) = .error .relativeWithoutBase := by
  apply parse_of_readScheme_eq_none
  rw [strip_cons (by decide), visible_cons (by decide)]
  rfl

theorem isBreak_of_isAlpha {c : Char} (h : c.isAlpha = true) : isBreak c = false := by
  simp only [isBreak, Bool.or_eq_false_iff, beq_eq_false_iff_ne]
  refine ⟨⟨?_, ?_⟩, ?_⟩ <;> rintro rfl <;> cases h

/-- The letter of a drive is read as a scheme. -/
theorem readScheme_drive {c : Char} (h : c.isAlpha = true) (s : List Char) :
    ∃ rest, readScheme (visible (strip (c :: ':' :: s))) = some ([c.toLower], rest) := by
  have hc := isAlpha_iff.1 h
  rw [strip_cons (by omega), trimEnd_cons_of_neg (by decide),
    visible_cons (isBreak_of_isAlpha h), visible_cons (by decide)]
  refine ⟨visible (trimEnd (·.toNat ≤ 0x20) s), ?_⟩
  unfold readScheme
  dsimp only
  rw [if_pos h]
  rfl

/-- What starts with `jar:`, in whatever case, has a scheme. -/
theorem readScheme_archive {j a r : Char} (h : [j, a, r].map Char.toLower = ['j', 'a', 'r'])
    (s : List Char) : readScheme (visible (strip (j :: a :: r :: ':' :: s))) ≠ none := by
  have hletter : ∀ c ∈ [j, a, r], c.isAlpha = true := by
    intro c hc
    have hm : c.toLower ∈ ['j', 'a', 'r'] := h ▸ List.mem_map_of_mem hc
    exact isAlpha_of_toLower_mem (by decide) hm
  have hj := hletter j (by simp)
  have ha := hletter a (by simp)
  have hr := hletter r (by simp)
  have hvisible {c : Char} (hc : c.isAlpha = true) : decide (c.toNat ≤ 0x20) = false := by
    have := isAlpha_iff.1 hc
    exact decide_eq_false (by omega)
  have hscheme {c : Char} (hc : c.isAlpha = true) : inScheme c = true := by
    simp [inScheme, Char.isAlphanum, hc]
  rw [strip_cons (of_decide_eq_false (hvisible hj) |> Nat.lt_of_not_le),
    trimEnd_cons_of_neg (hvisible ha), trimEnd_cons_of_neg (hvisible hr),
    trimEnd_cons_of_neg (by decide), visible_cons (isBreak_of_isAlpha hj),
    visible_cons (isBreak_of_isAlpha ha), visible_cons (isBreak_of_isAlpha hr),
    visible_cons (by decide)]
  generalize visible (trimEnd _ s) = rest
  have hspan : (a :: r :: ':' :: rest).span inScheme = ([a, r], ':' :: rest) := by
    rw [List.span_eq_takeWhile_dropWhile]
    simp [hscheme ha, hscheme hr, show inScheme ':' = false by decide]
  unfold readScheme
  dsimp only
  rw [if_pos hj, hspan]
  exact Option.some_ne_none _

end SearchPath.Url
