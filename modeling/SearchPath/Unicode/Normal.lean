import SearchPath.Unicode.CombiningClass
import SearchPath.Unicode.Decomposition

/-!
# Composed text

Texts that are the same to a reader may differ in their code points. `composed` writes a text in
one way, known as Normalization Form C:

1. every character is taken apart;
2. marks behind a character are brought in the order of their classes (`reorder`);
3. characters are joined with the marks behind them that nothing keeps apart (`compose`).
-/

namespace SearchPath.Unicode

/-! ## Order -/

/-- A code point before ordered text: a mark moves behind those of a lower class. -/
def insertOrdered (n : Nat) : List Nat → List Nat
  | [] => [n]
  | m :: rest =>
    if 0 < combiningClass m ∧ combiningClass m < combiningClass n then m :: insertOrdered n rest
    else n :: m :: rest

def reorder : List Nat → List Nat
  | [] => []
  | n :: rest => insertOrdered n (reorder rest)

/-! ## Joining -/

/-- Text that is being composed. -/
structure Composing where
  /-- What is finished, last first. -/
  done : List Nat
  /-- The last character of class zero, and the marks behind it, last first. -/
  base : Option Nat
  marks : List Nat

namespace Composing

def text (st : Composing) : List Nat :=
  st.marks ++ st.base.toList ++ st.done

/-- Whether a mark behind the base keeps a code point of this class apart from it. -/
def blocks (st : Composing) (kind : Nat) : Bool :=
  match st.marks with
  | [] => false
  | mark :: _ => kind ≤ combiningClass mark

def append (st : Composing) (n : Nat) : Composing :=
  if combiningClass n = 0 then ⟨st.text, some n, []⟩
  else
    match st.base with
    | none => ⟨n :: st.done, none, []⟩
    | some _ => { st with marks := n :: st.marks }

def add (st : Composing) (n : Nat) : Composing :=
  match st.base.bind (composePair? · n) with
  | some whole =>
    if st.blocks (combiningClass n) then st.append n else { st with base := some whole }
  | none => st.append n

end Composing

def compose (points : List Nat) : List Nat :=
  (points.foldl Composing.add ⟨[], none, []⟩).text.reverse

/-! ## Text -/

def composedPoints (points : List Nat) : List Nat :=
  compose (reorder (points.flatMap decompose))

def composed (s : List Char) : List Char :=
  (composedPoints (s.map Char.toNat)).map Char.ofNat

end SearchPath.Unicode
