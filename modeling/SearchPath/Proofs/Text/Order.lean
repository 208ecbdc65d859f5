import Mathlib.Data.String.Basic
import Mathlib.Tactic.SplitIfs
import SearchPath.Text.Utf8

/-!
# The order of octets

Texts are compared character by character, their UTF-8 octet by octet. UTF-8 keeps the order:
where two characters differ, their octets differ first in the same direction
(`encodeChar_append_lt`). So comparing texts and comparing their octets is the same
(`encode_lt_encode_iff`), and texts with the same octets are equal (`encode_injective`).
-/

namespace SearchPath.Text

theorem toNat_val_lt (c : Char) : c.val.toNat < 0x110000 := by
  rcases c.valid with h | h
  · omega
  · exact h.2

/-- The octets of a smaller character come first, whatever follows. -/
theorem encodeChar_append_lt {c d : Char} (h : c < d) (s t : List UInt8) :
    String.utf8EncodeChar c ++ s < String.utf8EncodeChar d ++ t := by
  have hv : c.val.toNat < d.val.toNat := h
  have hd := toNat_val_lt d
  unfold String.utf8EncodeChar
  generalize c.val.toNat = m at hv
  generalize d.val.toNat = n at hv hd
  -- the octets hold the digits to the base 64, so the quotients are taken one digit at a time
  have htwo : ∀ k, k / 4096 = k / 64 / 64 := fun k => (Nat.div_div_eq_div_mul k 64 64).symm
  have hthree : ∀ k, k / 262144 = k / 64 / 64 / 64 := fun k => by
    rw [Nat.div_div_eq_div_mul, Nat.div_div_eq_div_mul]
  dsimp only
  split_ifs <;>
    simp only [List.cons_append, List.cons_lt_cons_iff, UInt8.lt_iff_toNat_lt,
      ← UInt8.toNat_inj, UInt8.toNat_ofNat', htwo, hthree] <;>
    omega

theorem encode_lt_encode {s t : List Char} (h : s < t) : encode s < encode t := by
  induction h with
  | @nil d t =>
    obtain ⟨b, rest, he⟩ := List.exists_cons_of_ne_nil (String.utf8EncodeChar_ne_nil (c := d))
    rw [encode_nil, encode_cons, he]
    exact List.nil_lt_cons b _
  | @rel c s d t hcd => exact encodeChar_append_lt hcd _ _
  | @cons c s t _ ih =>
    rw [encode_cons, encode_cons]
    exact List.append_left_lt ih

/-- **Order.** Texts are ordered as their octets are. -/
theorem encode_lt_encode_iff {s t : List Char} : encode s < encode t ↔ s < t := by
  constructor
  · intro h
    rcases lt_trichotomy s t with hlt | rfl | hgt
    · exact hlt
    · exact absurd h (List.lt_irrefl _)
    · exact absurd h (List.lt_asymm (encode_lt_encode hgt))
  · exact encode_lt_encode

theorem encode_injective : Function.Injective encode := by
  intro s t h
  rcases lt_trichotomy s t with hlt | heq | hgt
  · exact absurd (h ▸ encode_lt_encode hlt) (List.lt_irrefl _)
  · exact heq
  · exact absurd (h ▸ encode_lt_encode hgt) (List.lt_irrefl _)

/-- The octets of a text in UTF-8. -/
def octets (text : String) : List UInt8 :=
  encode text.toList

theorem octets_le_octets_iff {a b : String} : octets a ≤ octets b ↔ a ≤ b := by
  rw [← List.not_lt, octets, octets, encode_lt_encode_iff, ← String.lt_iff_toList_lt, not_lt]

end SearchPath.Text
