/-!
# Inflating

Deflated data is a sequence of blocks, each of them stored as it is or written in two Huffman
codes, one for literals and lengths and one for distances. `inflate` reads block after block:

1. `takeBits` reads a number from the bits, lowest bit first;
2. `Code.decode` reads one symbol of a canonical code, whose codes of one length are consecutive
   numbers (`Code.ofLengths`; `Code.ofLengths?` refuses lengths that make no code);
3. `decodeTokens` copies literals, and earlier output again, until the end of the block.

Main statements: a number takes exactly its width (`length_of_takeBits`) and a symbol at least one
bit (`length_of_decode`), so the reading ends.
-/

namespace SearchPath.Inflate

inductive Ending where
  | finished
  /-- The data ends before its last block does. -/
  | exhausted
  | corrupt
  deriving DecidableEq, Repr

def bitsOf (bytes : List UInt8) : List Bool :=
  bytes.flatMap fun b => (List.range 8).map fun i => b.toNat.testBit i

/-! ## Numbers -/

def takeBits : Nat → List Bool → Except Ending (Nat × List Bool)
  | 0, bits => .ok (0, bits)
  | _ + 1, [] => .error .exhausted
  | n + 1, b :: bits =>
    match takeBits n bits with
    | .error e => .error e
    | .ok (v, rest) => .ok (b.toNat + 2 * v, rest)

theorem length_of_takeBits {n v : Nat} {bits rest : List Bool}
    (h : takeBits n bits = .ok (v, rest)) : rest.length + n = bits.length := by
  induction n generalizing bits v with
  | zero => simp_all [takeBits]
  | succ n ih =>
    cases bits with
    | nil => simp [takeBits] at h
    | cons b bits =>
      rw [takeBits] at h
      split at h
      · simp at h
      next w r hr =>
        simp only [Except.ok.injEq, Prod.mk.injEq] at h
        have := ih (hr.trans (by rw [h.2]))
        simp only [List.length_cons]
        omega

/-! ## Codes -/

/-- A canonical code: how many symbols there are of each length from one bit on, and the symbols
in the order of their codes. -/
structure Code where
  counts : List Nat
  symbols : Array Nat
  deriving Repr

def maxLength : Nat := 15

def symbolsOfLength (lengths : List Nat) (n : Nat) : List Nat :=
  (lengths.zipIdx.filter (·.1 = n)).map (·.2)

/-- The share of all codes of the maximal length that codes of these lengths take. -/
def weight (lengths : List Nat) : Nat :=
  lengths.foldl (fun taken n => if n = 0 then taken else taken + 1 <<< (maxLength - n)) 0

/-- The canonical code with a length for each symbol, zero for a symbol without a code. -/
def Code.ofLengths (lengths : List Nat) : Code :=
  let sizes := (List.range maxLength).map (· + 1)
  ⟨sizes.map fun n => (symbolsOfLength lengths n).length,
    (sizes.flatMap (symbolsOfLength lengths)).toArray⟩

def Code.ofFullLengths? (lengths : List Nat) : Option Code :=
  if weight lengths = 1 <<< maxLength then some (Code.ofLengths lengths) else none

/-- The code, if it fills the space of codes exactly, is empty, or has a single code, of one
bit. -/
def Code.ofLengths? (lengths : List Nat) : Option Code :=
  let used := lengths.filter (· ≠ 0)
  if weight lengths = 1 <<< maxLength ∨ used = [] ∨ used = [1] then some (Code.ofLengths lengths)
  else none

/-- Reads on at a length: `code` are the bits so far, `first` is the first code of the length so
far, and `index` the place of its symbol. -/
def decodeFrom (symbols : Array Nat) :
    List Nat → Nat → Nat → Nat → List Bool → Except Ending (Nat × List Bool)
  | [], _, _, _, _ => .error .corrupt
  | _ :: _, _, _, _, [] => .error .exhausted
  | count :: counts, code, first, index, b :: bits =>
    let code := 2 * code + b.toNat
    let first := 2 * first
    if code < first + count then
      match symbols[index + (code - first)]? with
      | some symbol => .ok (symbol, bits)
      | none => .error .corrupt
    else decodeFrom symbols counts code (first + count) (index + count) bits

def Code.decode (c : Code) (bits : List Bool) : Except Ending (Nat × List Bool) :=
  decodeFrom c.symbols c.counts 0 0 0 bits

theorem length_of_decodeFrom {symbols : Array Nat} {counts : List Nat}
    {code first index symbol : Nat} {bits rest : List Bool}
    (h : decodeFrom symbols counts code first index bits = .ok (symbol, rest)) :
    rest.length < bits.length := by
  induction counts generalizing code first index bits with
  | nil => simp [decodeFrom] at h
  | cons count counts ih =>
    cases bits with
    | nil => simp [decodeFrom] at h
    | cons b bits =>
      simp only [decodeFrom] at h
      split at h
      · split at h
        · simp_all
        · simp at h
      · have := ih h
        simp only [List.length_cons]
        omega

theorem length_of_decode {c : Code} {symbol : Nat} {bits rest : List Bool}
    (h : c.decode bits = .ok (symbol, rest)) : rest.length < bits.length :=
  length_of_decodeFrom h

/-! ## Tables -/

/-- A number that a symbol stands for: the least one, and how many more bits tell which. -/
structure Range where
  base : Nat
  extra : Nat
  deriving DecidableEq, Repr

/-- The lengths of copies, for the symbols from 257 on. -/
def lengthRanges : List Range :=
  [⟨3, 0⟩, ⟨4, 0⟩, ⟨5, 0⟩, ⟨6, 0⟩, ⟨7, 0⟩, ⟨8, 0⟩, ⟨9, 0⟩, ⟨10, 0⟩, ⟨11, 1⟩, ⟨13, 1⟩, ⟨15, 1⟩,
    ⟨17, 1⟩, ⟨19, 2⟩, ⟨23, 2⟩, ⟨27, 2⟩, ⟨31, 2⟩, ⟨35, 3⟩, ⟨43, 3⟩, ⟨51, 3⟩, ⟨59, 3⟩, ⟨67, 4⟩,
    ⟨83, 4⟩, ⟨99, 4⟩, ⟨115, 4⟩, ⟨131, 5⟩, ⟨163, 5⟩, ⟨195, 5⟩, ⟨227, 5⟩, ⟨258, 0⟩]

def distanceRanges : List Range :=
  [⟨1, 0⟩, ⟨2, 0⟩, ⟨3, 0⟩, ⟨4, 0⟩, ⟨5, 1⟩, ⟨7, 1⟩, ⟨9, 2⟩, ⟨13, 2⟩, ⟨17, 3⟩, ⟨25, 3⟩, ⟨33, 4⟩,
    ⟨49, 4⟩, ⟨65, 5⟩, ⟨97, 5⟩, ⟨129, 6⟩, ⟨193, 6⟩, ⟨257, 7⟩, ⟨385, 7⟩, ⟨513, 8⟩, ⟨769, 8⟩,
    ⟨1025, 9⟩, ⟨1537, 9⟩, ⟨2049, 10⟩, ⟨3073, 10⟩, ⟨4097, 11⟩, ⟨6145, 11⟩, ⟨8193, 12⟩,
    ⟨12289, 12⟩, ⟨16385, 13⟩, ⟨24577, 13⟩]

def endOfBlock : Nat := 256

def fixedLiterals : List Nat :=
  List.replicate 144 8 ++ List.replicate 112 9 ++ List.replicate 24 7 ++ List.replicate 8 8

def fixedDistances : List Nat :=
  List.replicate 32 5

/-- The order in which the lengths of the code of lengths are written. -/
def lengthOrder : List Nat :=
  [16, 17, 18, 0, 8, 7, 9, 6, 10, 5, 11, 4, 12, 3, 13, 2, 14, 1, 15]

/-! ## Blocks -/

def takeRange (ranges : List Range) (symbol : Nat) (bits : List Bool) :
    Except Ending (Nat × List Bool) :=
  match ranges[symbol]? with
  | none => .error .corrupt
  | some range =>
    match takeBits range.extra bits with
    | .error e => .error e
    | .ok (v, rest) => .ok (range.base + v, rest)

theorem length_of_takeRange {ranges : List Range} {symbol v : Nat} {bits rest : List Bool}
    (h : takeRange ranges symbol bits = .ok (v, rest)) : rest.length ≤ bits.length := by
  unfold takeRange at h
  split at h
  · simp at h
  · split at h
    · simp at h
    next w r hr =>
      have := length_of_takeBits hr
      simp only [Except.ok.injEq, Prod.mk.injEq] at h
      rw [← h.2]
      omega

/-- The length and the distance of a copy whose length has this symbol. -/
def takeCopy (distances : Code) (symbol : Nat) (bits : List Bool) :
    Except Ending (Nat × Nat × List Bool) :=
  match takeRange lengthRanges (symbol - (endOfBlock + 1)) bits with
  | .error e => .error e
  | .ok (length, bits) =>
    match distances.decode bits with
    | .error e => .error e
    | .ok (symbol, bits) =>
      match takeRange distanceRanges symbol bits with
      | .error e => .error e
      | .ok (distance, bits) => .ok (length, distance, bits)

theorem length_of_takeCopy {distances : Code} {symbol length distance : Nat}
    {bits rest : List Bool} (h : takeCopy distances symbol bits = .ok (length, distance, rest)) :
    rest.length ≤ bits.length := by
  unfold takeCopy at h
  split at h
  · simp at h
  next h₁ =>
    split at h
    · simp at h
    next h₂ =>
      split at h
      · simp at h
      next h₃ =>
        have := length_of_takeRange h₁
        have := length_of_decode h₂
        have := length_of_takeRange h₃
        simp only [Except.ok.injEq, Prod.mk.injEq] at h
        rw [← h.2.2]
        omega

inductive Token where
  | literal (b : UInt8)
  /-- Earlier output again: how much of it, and from how far back. -/
  | copy (length distance : Nat)
  | endOfBlock
  deriving DecidableEq, Repr

def takeToken (literals distances : Code) (bits : List Bool) :
    Except Ending (Token × List Bool) :=
  match literals.decode bits with
  | .error e => .error e
  | .ok (symbol, bits) =>
    if symbol < endOfBlock then .ok (.literal (UInt8.ofNat symbol), bits)
    else if symbol = endOfBlock then .ok (.endOfBlock, bits)
    else
      match takeCopy distances symbol bits with
      | .error e => .error e
      | .ok (length, distance, bits) => .ok (.copy length distance, bits)

theorem length_of_takeToken {literals distances : Code} {token : Token} {bits rest : List Bool}
    (h : takeToken literals distances bits = .ok (token, rest)) : rest.length < bits.length := by
  unfold takeToken at h
  split at h
  · simp at h
  next hd =>
    have hlt := length_of_decode hd
    split at h
    · simp_all
    · split at h
      · simp_all
      · split at h
        · simp at h
        next hc =>
          have := length_of_takeCopy hc
          simp only [Except.ok.injEq, Prod.mk.injEq] at h
          rw [← h.2]
          omega

def copyBack (distance : Nat) : Nat → Array UInt8 → Array UInt8
  | 0, out => out
  | n + 1, out => copyBack distance n (out.push (out.getD (out.size - distance) 0))

def decodeTokens (literals distances : Code) (bits : List Bool) (out : Array UInt8) :
    Array UInt8 × Except Ending (List Bool) :=
  match _h : takeToken literals distances bits with
  | .error e => (out, .error e)
  | .ok (.literal b, rest) => decodeTokens literals distances rest (out.push b)
  | .ok (.endOfBlock, rest) => (out, .ok rest)
  | .ok (.copy length distance, rest) =>
    if distance ≤ out.size then
      decodeTokens literals distances rest (copyBack distance length out)
    else (out, .error .corrupt)
termination_by bits.length
decreasing_by all_goals exact length_of_takeToken _h

def takeOctets : Nat → List Bool → Array UInt8 → Array UInt8 × Except Ending (List Bool)
  | 0, bits, out => (out, .ok bits)
  | n + 1, bits, out =>
    match takeBits 8 bits with
    | .error e => (out, .error e)
    | .ok (v, rest) => takeOctets n rest (out.push (UInt8.ofNat v))

/-- A stored block: at the next octet its size, the complement of the size, and the octets. -/
def takeStored (bits : List Bool) (out : Array UInt8) : Array UInt8 × Except Ending (List Bool) :=
  match takeBits 16 (bits.drop (bits.length % 8)) with
  | .error e => (out, .error e)
  | .ok (size, bits) =>
    match takeBits 16 bits with
    | .error e => (out, .error e)
    | .ok (complement, bits) =>
      if size + complement = 0xFFFF then takeOctets size bits out else (out, .error .corrupt)

/-- The next lengths of codes, written in a code of their own: one length, the last one several
times, or several zeros. -/
def takeRun (code : Code) (last : Option Nat) (bits : List Bool) :
    Except Ending (List Nat × List Bool) :=
  match code.decode bits with
  | .error e => .error e
  | .ok (symbol, bits) =>
    if symbol < 16 then .ok ([symbol], bits)
    else
      let range : Range := if symbol = 16 then ⟨3, 2⟩ else if symbol = 17 then ⟨3, 3⟩ else ⟨11, 7⟩
      match takeBits range.extra bits, if symbol = 16 then last else some 0 with
      | .error e, _ => .error e
      | .ok _, none => .error .corrupt
      | .ok (more, bits), some length => .ok (List.replicate (range.base + more) length, bits)

theorem length_of_takeRun {code : Code} {last : Option Nat} {run : List Nat}
    {bits rest : List Bool} (h : takeRun code last bits = .ok (run, rest)) :
    rest.length < bits.length := by
  unfold takeRun at h
  split at h
  · simp at h
  next hd =>
    have hlt := length_of_decode hd
    split at h
    · simp_all
    · simp only at h
      split at h
      · simp at h
      · simp at h
      next hb _ =>
        have := length_of_takeBits hb
        simp only [Except.ok.injEq, Prod.mk.injEq] at h
        rw [← h.2]
        omega

/-- This many lengths of codes: `done` are those read, last first. -/
def takeLengths (code : Code) (count : Nat) (bits : List Bool) (done : List Nat) :
    Except Ending (List Nat × List Bool) :=
  if count = done.length then .ok (done.reverse, bits)
  else if count < done.length then .error .corrupt
  else
    match _h : takeRun code done.head? bits with
    | .error e => .error e
    | .ok (run, rest) => takeLengths code count rest (run.reverse ++ done)
termination_by bits.length
decreasing_by exact length_of_takeRun _h

def takeOrder : List Nat → List Bool → Except Ending (List (Nat × Nat) × List Bool)
  | [], bits => .ok ([], bits)
  | symbol :: order, bits => do
    let (length, bits) ← takeBits 3 bits
    let (found, bits) ← takeOrder order bits
    return ((symbol, length) :: found, bits)

/-- How many symbols for literals and lengths have a meaning. -/
def literalCount : Nat := endOfBlock + 1 + lengthRanges.length

/-- The two codes at the beginning of a block that brings its own. Every symbol with a length of
its own must have a meaning, and the end of the block must have a code. -/
def takeCodes (bits : List Bool) : Except Ending (Code × Code × List Bool) := do
  let (literals, bits) ← takeBits 5 bits
  let (distances, bits) ← takeBits 5 bits
  let (orders, bits) ← takeBits 4 bits
  let (literals, distances) := (literals + endOfBlock + 1, distances + 1)
  if literalCount < literals ∨ distanceRanges.length < distances then throw .corrupt
  let (found, bits) ← takeOrder (lengthOrder.take (orders + 4)) bits
  let lengths := (List.range lengthOrder.length).map fun symbol => (found.lookup symbol).getD 0
  let some code := Code.ofFullLengths? lengths | throw .corrupt
  let (all, bits) ← takeLengths code (literals + distances) bits []
  if all.getD endOfBlock 0 = 0 then throw .corrupt
  let some first := Code.ofLengths? (all.take literals) | throw .corrupt
  let some second := Code.ofLengths? (all.drop literals) | throw .corrupt
  return (first, second, bits)

def takeBlock (kind : Nat) (bits : List Bool) (out : Array UInt8) :
    Array UInt8 × Except Ending (List Bool) :=
  match kind with
  | 0 => takeStored bits out
  | 1 => decodeTokens (Code.ofLengths fixedLiterals) (Code.ofLengths fixedDistances) bits out
  | 2 =>
    match takeCodes bits with
    | .error e => (out, .error e)
    | .ok (literals, distances, bits) => decodeTokens literals distances bits out
  | _ => (out, .error .corrupt)

def takeBlocks (bits : List Bool) (out : Array UInt8) : Array UInt8 × Ending :=
  match _hf : takeBits 1 bits with
  | .error e => (out, e)
  | .ok (final, inner) =>
    match _hk : takeBits 2 inner with
    | .error e => (out, e)
    | .ok (kind, rest) =>
      match takeBlock kind rest out with
      | (out, .error e) => (out, e)
      | (out, .ok after) =>
        if final = 1 then (out, .finished)
        else if _ha : after.length < bits.length then takeBlocks after out
        -- no block leaves as many bits as it found, so this is not reached
        else (out, .corrupt)
termination_by bits.length

def inflate (bytes : List UInt8) : List UInt8 × Ending :=
  let (out, ending) := takeBlocks (bitsOf bytes) #[]
  (out.toList, ending)

end SearchPath.Inflate
