import SearchPath.Text.Pieces

/-!
# Rules on resource paths

A rule is a pattern in which a star stands for any text on one line and every other character
for itself; it must match the whole path. Rules that reject come before rules that accept.

A pattern without a star is compared with the path as it is (`PathRule.plain`). Any other is first
written as an expression, its literal pieces quoted and `.*` between them, and the expression is
read again (`PathRule.parse`). No expression is too large to be read.

Expressions are matched from their end: for every suffix of the path one verdict says whether
the rest of the expression matches it (`verdicts`), so that a match takes one step for each pair of
a part and a character.
-/

namespace SearchPath

namespace Policy

open SearchPath.Text

/-! ## Expressions -/

/-- What an expression is made of: any text on one line, and single characters. -/
inductive Part where
  | line
  | char (c : Char)
  deriving DecidableEq, Repr

/-- The characters that mean something in an expression, unless a backslash stands before them. -/
def metaCharacters : List Char :=
  ['\\', '.', '+', '*', '?', '(', ')', '|', '[', ']', '\x7b', '\x7d', '^', '$', '#', '&', '-', '~']

def quote (s : List Char) : List Char :=
  s.flatMap fun c => if metaCharacters.contains c then ['\\', c] else [c]

/-- The expression that says what a pattern says, from the start of a path to its end. -/
def expressionOf (pattern : List Char) : List Char :=
  '^' :: List.intercalate ['.', '*'] ((pieces '*' pattern).map quote) ++ ['$']

/-- The parts of an expression up to the mark of the end. Of what an expression can be, only the
forms that patterns lead to are read. -/
def readParts : List Char → Option (List Part)
  | [] => none
  | ['$'] => some []
  | '.' :: '*' :: rest => (readParts rest).map (.line :: ·)
  | '\\' :: c :: rest =>
    if metaCharacters.contains c then (readParts rest).map (.char c :: ·) else none
  | c :: rest => if metaCharacters.contains c then none else (readParts rest).map (.char c :: ·)

def readExpression : List Char → Option (List Part)
  | '^' :: rest => readParts rest
  | _ => none

/-! ## Verdicts -/

/-- The verdicts behind a line: on each suffix, or on a later one of the same line. -/
def lineVerdicts : List Char → List Bool → List Bool
  | d :: path, here :: later =>
    let rest := lineVerdicts path later
    (here || (d != '\n' && rest.headD false)) :: rest
  | _, verdicts => verdicts

def charVerdicts (c : Char) : List Char → List Bool → List Bool
  | d :: path, _ :: later => (c == d && later.headD false) :: charVerdicts c path later
  | _, verdicts => verdicts.map fun _ => false

/-- Whether the parts match each suffix of the path, the longest suffix first. -/
def verdicts (path : List Char) : List Part → List Bool
  | [] => path.map (fun _ => false) ++ [true]
  | .line :: parts => lineVerdicts path (verdicts path parts)
  | .char c :: parts => charVerdicts c path (verdicts path parts)

/-! ## Patterns -/

inductive PathRule where
  | plain (path : String)
  | expression (parts : List Part)
  deriving DecidableEq, Repr

namespace PathRule

def parse (pattern : String) : Option PathRule :=
  if pattern.toList.contains '*' then
    (readExpression (expressionOf pattern.toList)).map .expression
  else some (.plain pattern)

def fits : PathRule → String → Bool
  | .plain whole, path => whole == path
  | .expression parts, path => (verdicts path.toList parts).headD false

end PathRule

def globMatches (pattern path : String) : Bool :=
  (PathRule.parse pattern).any (·.fits path)

end Policy

/-! ## Rules -/

/-- Patterns of resource paths that are asked for, and of those that spoil a container. -/
structure GlobRules where
  accept : List String
  reject : List String
  deriving DecidableEq, Repr

namespace GlobRules

def none : GlobRules :=
  ⟨[], []⟩

def isEmpty (rules : GlobRules) : Bool :=
  rules.accept.isEmpty && rules.reject.isEmpty

def rejects (rules : GlobRules) (path : String) : Bool :=
  rules.reject.any fun pattern => Policy.globMatches pattern path

def requests (rules : GlobRules) (path : String) : Bool :=
  rules.accept.any (fun pattern => Policy.globMatches pattern path) && !rules.rejects path

end GlobRules

end SearchPath
