import SearchPath.Text.Pieces

/-!
# Normal paths

A path is an anchor, where it has one, and segments between slashes. Its normal form has no empty
segment and no `.`; each `..` takes the segment before it away, is dropped at an anchor, and is
kept only at the start of a path without one. A backslash counts as a slash: `unify` leaves none
(`not_mem_unify`), and changes nothing where there is none (`unify_eq_self`).
-/

namespace SearchPath

open SearchPath.Text

namespace Path

inductive Anchor where
  | slash
  /-- A drive, by its letter in upper case. -/
  | drive (letter : Char)
  deriving DecidableEq, Repr

def Anchor.text : Anchor → List Char
  | .slash => ['/']
  | .drive letter => [letter, ':', '/']

/-- The anchor of a path, and the path after it. A drive is a letter and a colon at the end of
the path or before a slash. -/
def splitAnchor : List Char → Option Anchor × List Char
  | '/' :: rest => (some .slash, rest)
  | [c, ':'] => if c.isAlpha then (some (.drive c.toUpper), []) else (none, [c, ':'])
  | c :: ':' :: '/' :: rest =>
    if c.isAlpha then (some (.drive c.toUpper), rest) else (none, c :: ':' :: '/' :: rest)
  | path => (none, path)

def here : List Char := ['.']

def above : List Char := ['.', '.']

/-- One more segment on the segments so far, last first. -/
def push (anchored : Bool) (stack : List (List Char)) (segment : List Char) : List (List Char) :=
  if segment = [] ∨ segment = here then stack
  else if segment = above then
    match stack with
    | [] => if anchored then [] else [above]
    | last :: rest => if last ≠ above then rest else if anchored then stack else above :: stack
  else segment :: stack

structure Normal where
  anchor : Option Anchor
  segments : List (List Char)
  deriving DecidableEq, Repr

def normalize (path : List Char) : Normal :=
  let (anchor, rest) := splitAnchor path
  ⟨anchor, ((pieces '/' rest).foldl (push anchor.isSome) []).reverse⟩

/-- The path as it is written; one without anchor and segments is `.`. -/
def Normal.text (n : Normal) : List Char :=
  match n.anchor with
  | some anchor => anchor.text ++ join '/' n.segments
  | none => if n.segments = [] then here else join '/' n.segments

def normalForm (path : List Char) : List Char :=
  (normalize path).text

/-- The path with every backslash as a slash. -/
def unify (path : List Char) : List Char :=
  path.map fun c => if c = '\\' then '/' else c

theorem not_mem_unify (path : List Char) : '\\' ∉ unify path := by
  simp only [unify, List.mem_map, not_exists, not_and]
  intro c _
  split <;> simp_all

theorem unify_eq_self {path : List Char} (h : '\\' ∉ path) : unify path = path := by
  induction path with
  | nil => rfl
  | cons c path ih =>
    simp only [List.mem_cons, not_or] at h
    have := ih h.2
    unfold unify at this ⊢
    rw [List.map_cons, this, if_neg (Ne.symm h.1)]

end Path

end SearchPath
