import SearchPath.Proofs.Text.Order

/-!
# Reading what is written

The octets of a character take the reader from between characters to between characters, and it has
read that character (`decodeFrom_encodeChar`). So a text is read from its octets
(`decodeLossy_encode`).
-/

namespace SearchPath.Text

/-! ## One octet -/

theorem decodeFrom_ofNat (st : Option Partial) {b : Nat} (h : b < 256) (rest : List UInt8) :
    decodeFrom st (UInt8.ofNat b :: rest) = (step st b).1 ++ decodeFrom (step st b).2 rest := by
  have hb : (UInt8.ofNat b).toNat = b := by
    rw [UInt8.toNat_ofNat', Nat.mod_eq_of_lt h]
  cases st <;> rw [decodeFrom, hb]

/-- An octet that stands for a character. -/
theorem decodeFrom_one {b : Nat} (h : b < 0x80) (rest : List UInt8) :
    decodeFrom none (UInt8.ofNat b :: rest) = Char.ofNat b :: decodeFrom none rest := by
  have hstart : start b = ([Char.ofNat b], none) := if_pos h
  rw [decodeFrom_ofNat none (by omega)]
  show (start b).1 ++ decodeFrom (start b).2 rest = _
  rw [hstart]
  rfl

/-- An octet that starts a character. -/
theorem decodeFrom_start {b : Nat} {p : Partial} (h : b < 256) (hs : start b = ([], some p))
    (rest : List UInt8) :
    decodeFrom none (UInt8.ofNat b :: rest) = decodeFrom (some p) rest := by
  rw [decodeFrom_ofNat none h]
  show (start b).1 ++ decodeFrom (start b).2 rest = _
  rw [hs]
  rfl

/-- An octet of a character that is not its last one. -/
theorem decodeFrom_inner {owed low high bits b : Nat} (h : low ≤ b ∧ b ≤ high) (hb : b < 256)
    (rest : List UInt8) :
    decodeFrom (some ⟨owed + 2, low, high, bits⟩) (UInt8.ofNat b :: rest) =
      decodeFrom (some ⟨owed + 1, 0x80, 0xBF, bits * 64 + (b - 0x80)⟩) rest := by
  have hstep : step (some ⟨owed + 2, low, high, bits⟩) b =
      ([], some ⟨owed + 1, 0x80, 0xBF, bits * 64 + (b - 0x80)⟩) := by
    simp [step, h]
  rw [decodeFrom_ofNat _ hb, hstep]
  rfl

/-- The last octet of a character. -/
theorem decodeFrom_last {low high bits b : Nat} (h : low ≤ b ∧ b ≤ high) (hb : b < 256)
    (rest : List UInt8) :
    decodeFrom (some ⟨1, low, high, bits⟩) (UInt8.ofNat b :: rest) =
      Char.ofNat (bits * 64 + (b - 0x80)) :: decodeFrom none rest := by
  have hstep : step (some ⟨1, low, high, bits⟩) b =
      ([Char.ofNat (bits * 64 + (b - 0x80))], none) := by
    simp [step, h]
  rw [decodeFrom_ofNat _ hb, hstep]
  rfl

theorem start_two {b : Nat} (h : 0xC2 ≤ b ∧ b < 0xE0) :
    start b = ([], some ⟨1, 0x80, 0xBF, b - 0xC0⟩) := by
  unfold start
  rw [if_neg (by omega), if_neg (by omega), if_pos h.2]

theorem start_three {b : Nat} (h : 0xE0 ≤ b ∧ b < 0xF0) :
    start b = ([], some
      ⟨2, if b = 0xE0 then 0xA0 else 0x80, if b = 0xED then 0x9F else 0xBF, b - 0xE0⟩) := by
  unfold start
  rw [if_neg (by omega), if_neg (by omega), if_neg (by omega), if_pos h.2]

theorem start_four {b : Nat} (h : 0xF0 ≤ b ∧ b < 0xF5) :
    start b = ([], some
      ⟨3, if b = 0xF0 then 0x90 else 0x80, if b = 0xF4 then 0x8F else 0xBF, b - 0xF0⟩) := by
  unfold start
  rw [if_neg (by omega), if_neg (by omega), if_neg (by omega), if_neg (by omega), if_pos h.2]

/-! ## One character -/

/-- **One character.** Its octets are read as that character. -/
theorem decodeFrom_encodeChar (c : Char) (rest : List UInt8) :
    decodeFrom none (String.utf8EncodeChar c ++ rest) = c :: decodeFrom none rest := by
  have hc : Char.ofNat c.val.toNat = c := Char.ofNat_toNat c
  have hvalid : c.val.toNat < 55296 ∨ 57343 < c.val.toNat ∧ c.val.toNat < 1114112 := c.valid
  unfold String.utf8EncodeChar
  generalize c.val.toNat = v at hc hvalid
  dsimp only
  split_ifs with hone htwo hthree
  · rw [List.singleton_append, decodeFrom_one (by omega), hc]
  · have hfirst : 0xC2 ≤ v / 64 % 32 + 192 ∧ v / 64 % 32 + 192 < 0xE0 := by omega
    have hstart := start_two hfirst
    have hv : (v / 64 % 32 + 192 - 0xC0) * 64 + (v % 64 + 128 - 0x80) = v := by omega
    rw [List.cons_append, List.singleton_append, decodeFrom_start (by omega) hstart,
      decodeFrom_last (by omega) (by omega), hv, hc]
  · have hfirst : 0xE0 ≤ v / 4096 % 16 + 224 ∧ v / 4096 % 16 + 224 < 0xF0 := by omega
    have hstart := start_three hfirst
    have hv : ((v / 4096 % 16 + 224 - 0xE0) * 64 + (v / 64 % 64 + 128 - 0x80)) * 64 +
        (v % 64 + 128 - 0x80) = v := by omega
    rw [List.cons_append, List.cons_append, List.singleton_append,
      decodeFrom_start (by omega) hstart, decodeFrom_inner (by split_ifs <;> omega) (by omega),
      decodeFrom_last (by omega) (by omega), hv, hc]
  · have hfirst : 0xF0 ≤ v / 262144 % 8 + 240 ∧ v / 262144 % 8 + 240 < 0xF5 := by omega
    have hstart := start_four hfirst
    have hv : (((v / 262144 % 8 + 240 - 0xF0) * 64 + (v / 4096 % 64 + 128 - 0x80)) * 64 +
        (v / 64 % 64 + 128 - 0x80)) * 64 + (v % 64 + 128 - 0x80) = v := by omega
    rw [List.cons_append, List.cons_append, List.cons_append, List.singleton_append,
      decodeFrom_start (by omega) hstart, decodeFrom_inner (by split_ifs <;> omega) (by omega),
      decodeFrom_inner (by omega) (by omega), decodeFrom_last (by omega) (by omega), hv, hc]

/-- **Reading what is written.** A text is read from its octets. -/
theorem decodeLossy_encode (s : List Char) : decodeLossy (encode s) = s := by
  unfold decodeLossy
  induction s with
  | nil => rfl
  | cons c s ih => rw [encode_cons, decodeFrom_encodeChar, ih]

end SearchPath.Text
