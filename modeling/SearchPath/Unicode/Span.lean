import SearchPath.Text.Digits
import SearchPath.Text.Pieces

/-!
# Ranges of code points

A property of characters gives a value to ranges of code points. A `Span` is one range with its
value; the spans of a property are disjoint and rise, so `find?` finds the one that holds a code
point by halving.

The tables of the properties are texts. Their items stand between spaces. An item is one code
point, or the first and the last one of a range with a hyphen between them, all of them in
hexadecimal digits; a value stands behind a colon, in a spelling that each property chooses.
-/

namespace SearchPath.Unicode

open SearchPath.Text

structure Span (α : Type) where
  first : Nat
  last : Nat
  value : α
  deriving DecidableEq, Repr

/-- The ranges of a property, which are disjoint and rise. -/
abbrev Spans (α : Type) : Type := Array (Span α)

def readPoint (s : List Char) : Nat :=
  (readDigits 16 s).getD 0

def readPoints (s : List Char) : List Nat :=
  if s = [] then [] else (pieces ',' s).map readPoint

namespace Spans

variable {α : Type}

/-! ## Reading -/

def ofItem (read : List Char → α) (item : List Char) : Span α :=
  let (points, value) := item.span (· ≠ ':')
  let (first, last) := points.span (· ≠ '-')
  ⟨readPoint first, readPoint (if last = [] then first else last.drop 1), read (value.drop 1)⟩

def ofLines (read : List Char → α) (lines : List String) : Spans α :=
  (lines.flatMap fun line => (pieces ' ' line.toList).map (ofItem read)).toArray

/-! ## Looking up -/

/-- The span that holds a code point, among those from place `lo` up to place `hi`. -/
def findBetween (spans : Spans α) (n lo hi : Nat) : Option (Span α) :=
  if lo < hi then
    match spans[(lo + hi) / 2]? with
    | none => none
    | some span =>
      if n < span.first then findBetween spans n lo ((lo + hi) / 2)
      else if span.last < n then findBetween spans n ((lo + hi) / 2 + 1) hi
      else some span
  else none
termination_by hi - lo

def find? (spans : Spans α) (n : Nat) : Option (Span α) :=
  spans.findBetween n 0 spans.size

def valueAt? (spans : Spans α) (n : Nat) : Option α :=
  (spans.find? n).map (·.value)

def contains (spans : Spans α) (n : Nat) : Bool :=
  (spans.find? n).isSome

end Spans

end SearchPath.Unicode
