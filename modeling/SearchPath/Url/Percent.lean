import SearchPath.Text.Digits
import SearchPath.Text.Utf8

/-!
# Percent-encoding

A part of a URL that cannot hold a character writes each octet of its UTF-8 as `%` and two
hexadecimal digits. Which characters a part cannot hold is its *escape set*; control characters
and everything outside ASCII belong to every set. Main statements:

1. text without characters of the set is written as it stands (`percentEncode_eq_self`);
2. an escaped octet is read back as that octet (`percentDecode_escapeOctets`).
-/

namespace SearchPath.Url

open SearchPath.Text

/-! ## Escape sets -/

/-- Control characters and everything outside ASCII. -/
def isControl (c : Char) : Bool :=
  c.toNat < 0x20 || 0x7F ≤ c.toNat

def inFragment (c : Char) : Bool :=
  isControl c || [' ', '"', '<', '>', '\x60'].contains c

def inPath (c : Char) : Bool :=
  inFragment c || ['#', '?', '\x7b', '\x7d'].contains c

def inUserinfo (c : Char) : Bool :=
  inPath c || ['/', ':', ';', '=', '@', '[', '\\', ']', '^', '|'].contains c

/-- What the query cannot hold; the schemes of the web also escape the apostrophe. -/
def inQuery (special : Bool) (c : Char) : Bool :=
  isControl c || [' ', '"', '#', '<', '>'].contains c || (special && c == '\'')

def inComponent (c : Char) : Bool :=
  inPath c || ['/', '%', '\\'].contains c

/-! ## Octets -/

def hexValue (b : UInt8) : Option Nat :=
  digitValue 16 (Char.ofUInt8 b)

def escapeOctet (b : UInt8) : List Char :=
  ['%', hexDigit (b.toNat / 16), hexDigit (b.toNat % 16)]

/-- The text with the characters of the escape set written octet by octet. -/
def percentEncode (escapes : Char → Bool) (s : List Char) : List Char :=
  s.flatMap fun c =>
    if escapes c then (String.utf8EncodeChar c).flatMap escapeOctet else [c]

def percentDecode : List UInt8 → List UInt8
  | [] => []
  | 0x25 :: h :: l :: rest =>
    match hexValue h, hexValue l with
    | some x, some y => UInt8.ofNat (16 * x + y) :: percentDecode rest
    | _, _ => 0x25 :: percentDecode (h :: l :: rest)
  | b :: rest => b :: percentDecode rest

@[simp] theorem percentEncode_nil (p : Char → Bool) : percentEncode p [] = [] := rfl

@[simp] theorem percentEncode_append (p : Char → Bool) (s t : List Char) :
    percentEncode p (s ++ t) = percentEncode p s ++ percentEncode p t := by
  simp [percentEncode]

theorem percentEncode_eq_self {p : Char → Bool} {s : List Char} (h : ∀ c ∈ s, p c = false) :
    percentEncode p s = s := by
  induction s with
  | nil => rfl
  | cons c s ih =>
    have hc := h c (by simp)
    have hs := ih fun d hd => h d (by simp [hd])
    unfold percentEncode at hs ⊢
    simp [hc, hs]

theorem encode_hexDigit {m : Nat} (h : m < 16) :
    ∃ o, encode [hexDigit m] = [o] ∧ hexValue o = some m := by
  have hall : ∀ m < 16, encode [hexDigit m] = [(encode [hexDigit m]).headD 0] ∧
      hexValue ((encode [hexDigit m]).headD 0) = some m := by decide
  exact ⟨_, hall m h⟩

theorem percentDecode_escapeOctet (b : UInt8) (rest : List UInt8) :
    percentDecode (encode (escapeOctet b) ++ rest) = b :: percentDecode rest := by
  have hb := b.toNat_lt
  obtain ⟨h, hh, hx⟩ := encode_hexDigit (m := b.toNat / 16) (by omega)
  obtain ⟨l, hl, hy⟩ := encode_hexDigit (m := b.toNat % 16) (by omega)
  have hp : encode ['%'] = [0x25] := by decide
  have he : encode (escapeOctet b) = [0x25, h, l] := by
    show encode (['%'] ++ ([hexDigit (b.toNat / 16)] ++ [hexDigit (b.toNat % 16)])) = _
    rw [encode_append, encode_append, hp, hh, hl]
    rfl
  have hn : 16 * (b.toNat / 16) + b.toNat % 16 = b.toNat := by omega
  rw [he]
  simp only [List.cons_append, List.nil_append, percentDecode, hx, hy, hn, UInt8.ofNat_toNat]

theorem percentDecode_escapeOctets (bytes rest : List UInt8) :
    percentDecode (encode (bytes.flatMap escapeOctet) ++ rest) = bytes ++ percentDecode rest := by
  induction bytes with
  | nil => rfl
  | cons b bytes ih =>
    rw [List.flatMap_cons, encode_append, List.append_assoc, percentDecode_escapeOctet, ih]
    rfl

end SearchPath.Url
