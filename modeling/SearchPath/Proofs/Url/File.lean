import SearchPath.Module
import SearchPath.Proofs.Text.Boundary

/-!
# The URLs of files

A component of a file path is written in a URL with `/` and `%` escaped, among others.

1. What is written can be read again (`percentDecode_percentEncode`), so different components are
   written differently (`percentEncode_injective`).
2. What is written holds no slash, so it shows where a component ends (`slashed_injective`).
3. Main statement: the URL of an absolute path comes from its components
   (`fileUrl?_of_absolute`), and other components give another URL (`ofNames_injective`).
-/

namespace SearchPath.Url

open SearchPath.Text

/-! ## One component -/

/-- The escape set holds everything outside ASCII and the percent sign itself. -/
def Reversible (escapes : Char → Bool) : Prop :=
  ∀ c, escapes c = false → c.toNat < 0x80 ∧ c ≠ '%'

theorem reversible_inComponent : Reversible inComponent := by
  intro c h
  simp only [inComponent, inPath, inFragment, isControl, Bool.or_eq_false_iff,
    decide_eq_false_iff_not, List.contains_cons, List.contains_nil, beq_eq_false_iff_ne] at h
  exact ⟨by omega, h.2.2.1⟩

theorem percentDecode_cons_of_ne {b : UInt8} (h : b ≠ 0x25) (rest : List UInt8) :
    percentDecode (b :: rest) = b :: percentDecode rest := by
  rw [percentDecode]
  rintro _ _ _ rfl
  exact absurd rfl h

theorem encode_singleton_of_ascii {c : Char} (h : c.toNat < 0x80) (hc : c ≠ '%') :
    ∃ b, encode [c] = [b] ∧ b ≠ 0x25 := by
  refine ⟨c.val.toUInt8, ?_, fun he => hc ?_⟩
  · rw [encode_cons, String.utf8EncodeChar_eq_singleton (utf8Size_of_ascii h)]
    rfl
  · have hval : c.toNat % 256 = 0x25 := congrArg UInt8.toNat he
    apply Char.ext
    apply UInt32.toNat_inj.1
    show c.toNat = 0x25
    omega

/-- What is written for a text is read as its octets. -/
theorem percentDecode_percentEncode {escapes : Char → Bool} (h : Reversible escapes)
    (s : List Char) : percentDecode (encode (percentEncode escapes s)) = encode s := by
  induction s with
  | nil => rfl
  | cons c s ih =>
    have hcons : percentEncode escapes (c :: s) =
        (if escapes c then (String.utf8EncodeChar c).flatMap escapeOctet else [c]) ++
          percentEncode escapes s := List.flatMap_cons
    rw [hcons, encode_append, encode_cons]
    cases hc : escapes c with
    | true =>
      rw [if_pos rfl, percentDecode_escapeOctets, ih]
    | false =>
      obtain ⟨hascii, hpercent⟩ := h c hc
      obtain ⟨b, hb, hne⟩ := encode_singleton_of_ascii hascii hpercent
      rw [if_neg Bool.false_ne_true, hb, List.singleton_append, percentDecode_cons_of_ne hne, ih]
      have hchar : String.utf8EncodeChar c = [b] := by
        rw [← hb, encode_cons, encode_nil, List.append_nil]
      rw [hchar]
      rfl

theorem percentEncode_injective {escapes : Char → Bool} (h : Reversible escapes) :
    Function.Injective (percentEncode escapes) := by
  intro s t hst
  apply encode_injective
  rw [← percentDecode_percentEncode h s, ← percentDecode_percentEncode h t, hst]

/-! ## All components -/

theorem slash_not_mem_escapeOctet (b : UInt8) : '/' ∉ escapeOctet b := by
  have hdigit : ∀ m < 16, '/' ≠ hexDigit m := by decide
  have hb := b.toNat_lt
  simp only [escapeOctet, List.mem_cons, List.not_mem_nil, or_false, not_or]
  exact ⟨by decide, hdigit _ (by omega), hdigit _ (by omega)⟩

/-- A slash that is written stands for itself. -/
theorem slash_of_mem_percentEncode {escapes : Char → Bool} {s : List Char}
    (h : '/' ∈ percentEncode escapes s) : '/' ∈ s ∧ escapes '/' = false := by
  obtain ⟨c, hc, hm⟩ := List.mem_flatMap.1 h
  split_ifs at hm with he
  · obtain ⟨b, -, hb⟩ := List.mem_flatMap.1 hm
    exact absurd hb (slash_not_mem_escapeOctet b)
  · rw [← List.mem_singleton.1 hm] at hc he
    exact ⟨hc, Bool.not_eq_true _ ▸ he⟩

theorem slash_not_mem_percentEncode (s : List Char) : '/' ∉ percentEncode inComponent s := by
  intro hm
  cases (slash_of_mem_percentEncode hm).2

/-- Where no name holds a slash, the names are the pieces between the slashes. -/
theorem pieces_slashed {names : List (List Char)} (h : ∀ name ∈ names, '/' ∉ name)
    {first : List Char} (hf : '/' ∉ first) :
    pieces '/' (first ++ slashed names) = first :: names := by
  induction names generalizing first with
  | nil =>
    show pieces '/' (first ++ []) = [first]
    rw [List.append_nil, pieces_eq_singleton hf]
  | cons name rest ih =>
    show pieces '/' (first ++ '/' :: (name ++ slashed rest)) = _
    rw [pieces_append, pieces_eq_singleton hf,
      ih (fun other ho => h other (List.mem_cons_of_mem name ho)) (h name List.mem_cons_self)]
    rfl

theorem slashed_injective {names others : List (List Char)} (h : ∀ name ∈ names, '/' ∉ name)
    (ho : ∀ name ∈ others, '/' ∉ name) (he : slashed names = slashed others) :
    names = others := by
  have hnames : pieces '/' ([] ++ slashed names) = [] :: names :=
    pieces_slashed h List.not_mem_nil
  have hothers : pieces '/' ([] ++ slashed others) = [] :: others :=
    pieces_slashed ho List.not_mem_nil
  rw [he, hothers] at hnames
  exact (List.cons.inj hnames).2.symm

/-- The URL of the file at the end of these names. -/
def ofNames (names : List (List Char)) : List Char :=
  "file://".toList ++
    slashed (if names = [] then [[]] else names.map (percentEncode inComponent))

theorem fileUrl?_of_absolute (rest : List Char) :
    fileUrl? ('/' :: rest) = some (ofNames (components rest)) := by
  unfold fileUrl? ofNames
  simp only [List.map_eq_nil_iff]

theorem ne_nil_of_mem_components {rest name : List Char} (h : name ∈ components rest) :
    name ≠ [] := by
  have hname := (List.mem_filter.1 h).2
  simp only [decide_eq_true_eq] at hname
  exact hname.1

/-- **Files by URL.** Different names give different URLs. -/
theorem ofNames_injective {names others : List (List Char)} (h : ∀ name ∈ names, name ≠ [])
    (ho : ∀ name ∈ others, name ≠ []) (he : ofNames names = ofNames others) : names = others := by
  have hfree : ∀ names : List (List Char),
      ∀ name ∈ if names = [] then [[]] else names.map (percentEncode inComponent), '/' ∉ name := by
    intro names name hm
    split_ifs at hm
    · rw [List.mem_singleton.1 hm]
      exact List.not_mem_nil
    · obtain ⟨plain, -, rfl⟩ := List.mem_map.1 hm
      exact slash_not_mem_percentEncode plain
  have hsame := slashed_injective (hfree names) (hfree others) (List.append_cancel_left he)
  have hroot : ∀ {names : List (List Char)}, (∀ name ∈ names, name ≠ []) →
      names.map (percentEncode inComponent) ≠ [[]] := by
    intro names hn hm
    obtain ⟨name, rfl, hname⟩ := List.map_eq_singleton_iff.1 hm
    exact hn name List.mem_cons_self (percentEncode_injective reversible_inComponent hname)
  split_ifs at hsame with hn hn' hn'
  · rw [hn, hn']
  · exact absurd hsame.symm (hroot ho)
  · exact absurd hsame (hroot h)
  · exact (percentEncode_injective reversible_inComponent).list_map hsame

end SearchPath.Url
