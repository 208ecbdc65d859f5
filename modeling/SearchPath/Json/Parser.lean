import SearchPath.Json.Basic
import SearchPath.Text.Pieces

/-!
# Reading JSON

`parse` reads a whole text as one value between blanks. Every reader takes the text still ahead
and gives back what it leaves. Values nest to any depth; a nested value is shorter than the text
around it, so the length of the text bounds the nesting.
-/

namespace SearchPath.Json

open SearchPath.Text

def isSpace (c : Char) : Bool :=
  c == ' ' || c == '\n' || c == '\t' || c == '\r'

def skip (s : List Char) : List Char :=
  s.dropWhile isSpace

/-- The value of four hexadecimal digits. -/
def readUnit (a b c d : Char) : Option Nat :=
  readDigits 16 [a, b, c, d]

/-- What a letter behind a backslash stands for. -/
def escapes : List (Char × Nat) :=
  [('"', 0x22), ('\\', 0x5C), ('/', 0x2F), ('b', 0x08), ('f', 0x0C), ('n', 0x0A), ('r', 0x0D),
   ('t', 0x09)]

/-- The rest of a text behind its first quote. -/
def readText : List Char → Option (List Nat × List Char)
  | [] => none
  | '"' :: rest => some ([], rest)
  | '\\' :: 'u' :: a :: b :: c :: d :: rest => do
    let unit ← readUnit a b c d
    let (points, left) ← readText rest
    return (unit :: points, left)
  | '\\' :: c :: rest => do
    let point ← escapes.lookup c
    let (points, left) ← readText rest
    return (point :: points, left)
  | c :: rest =>
    if c.toNat < 0x20 ∨ c = '\\' then none
    else do
      let (points, left) ← readText rest
      return (c.toNat :: points, left)

def readRun (s : List Char) : Option (List Char × List Char) :=
  match s.span Char.isDigit with
  | ([], _) => none
  | run => some run

/-- The digits before the point: no zero stands before another digit. -/
def readWhole (s : List Char) : Option (List Char × List Char) :=
  match readRun s with
  | some ('0' :: _ :: _, _) => none
  | run => run

/-- The digits behind the point, with the point, if there is one. -/
def readFraction (s : List Char) : Option (List Char × List Char) :=
  match s with
  | '.' :: rest => (readRun rest).map fun (digits, left) => ('.' :: digits, left)
  | s => some ([], s)

def readExponent (s : List Char) : Option (List Char × List Char) :=
  match s with
  | e :: rest =>
    if e = 'e' ∨ e = 'E' then
      match rest with
      | sign :: digits =>
        if sign = '+' ∨ sign = '-' then
          (readRun digits).map fun (digits, left) => (e :: sign :: digits, left)
        else (readRun rest).map fun (digits, left) => (e :: digits, left)
      | [] => none
    else some ([], s)
  | [] => some ([], [])

def readNumber (s : List Char) : Option (List Char × List Char) := do
  let (sign, s) := match s with
    | '-' :: rest => (['-'], rest)
    | s => ([], s)
  let (whole, s) ← readWhole s
  let (fraction, s) ← readFraction s
  let (exponent, s) ← readExponent s
  return (sign ++ whole ++ fraction ++ exponent, s)

/-- A value that is no array, object or text. -/
def readScalar (s : List Char) : Option (Value × List Char) :=
  match stripStart "null".toList s, stripStart "true".toList s, stripStart "false".toList s with
  | some rest, _, _ => some (.null, rest)
  | _, some rest, _ => some (.boolean true, rest)
  | _, _, some rest => some (.boolean false, rest)
  | _, _, _ => (readNumber s).map fun (literal, rest) => (.number literal, rest)

mutual

def readValue : Nat → List Char → Option (Value × List Char)
  | 0, _ => none
  | depth + 1, s =>
    match skip s with
    | '"' :: rest => (readText rest).map fun (points, left) => (.text points, left)
    | '[' :: rest =>
      match skip rest with
      | ']' :: left => some (.array [], left)
      | rest => (readItems depth rest).map fun (items, left) => (.array items, left)
    | '\x7b' :: rest =>
      match skip rest with
      | '\x7d' :: left => some (.object [], left)
      | rest => (readMembers depth rest).map fun (members, left) => (.object members, left)
    | s => readScalar s

/-- The items of an array up to its end; there is at least one. -/
def readItems : Nat → List Char → Option (List Value × List Char)
  | 0, _ => none
  | depth + 1, s => do
    let (item, s) ← readValue depth s
    match skip s with
    | ',' :: rest =>
      let (items, left) ← readItems depth rest
      return (item :: items, left)
    | ']' :: left => return ([item], left)
    | _ => none

def readMembers : Nat → List Char → Option (List (List Nat × Value) × List Char)
  | 0, _ => none
  | depth + 1, s =>
    match skip s with
    | '"' :: rest => do
      let (key, s) ← readText rest
      match skip s with
      | ':' :: rest =>
        let (value, s) ← readValue depth rest
        match skip s with
        | ',' :: rest =>
          let (members, left) ← readMembers depth rest
          return ((key, value) :: members, left)
        | '\x7d' :: left => return ([(key, value)], left)
        | _ => none
      | _ => none
    | _ => none

end

def parse (s : List Char) : Option Value := do
  let (value, rest) ← readValue (2 * s.length + 2) s
  if skip rest = [] then some value else none

end SearchPath.Json
