import SearchPath.Text.Blank
import SearchPath.Text.Pieces

/-!
# Delimited lists of paths

A list of paths is cut at a delimiter, but not inside double quotes, which are dropped, and not
between brackets. With the delimiter `:` it is not cut behind a scheme either (`file:/a`,
`jar:file:/a`) nor between a host and its port (`http://host:80/a`). Each piece is trimmed, and
empty pieces do not count.
-/

namespace SearchPath.Path

open SearchPath.Text

def listDelimiter : Char := ':'

/-- The schemes that keep the colon behind them. -/
def keptSchemes : List String :=
  ["file", "jar", "jrt", "http", "https", "zip", "wsjar", "vfs", "vfszip", "bundle",
    "bundleresource"]

def isKeptScheme (s : List Char) : Bool :=
  keptSchemes.any fun scheme => eqCaseless scheme.toList s

/-- Whether the text is one or more protected schemes with colons between them. -/
def isSchemes (s : List Char) : Bool :=
  let s := trim s
  s ≠ [] && (pieces ':' s).all isKeptScheme

/-- Whether the text ends inside the authority of a URL with protected schemes. -/
def isInAuthority (s : List Char) : Bool :=
  match breakAt [':', '/', '/'] (trim s) with
  | none => false
  | some (schemes, authority) => isSchemes schemes && !authority.contains '/'

/-- Where the reading of a list stands: the piece read so far, whether a quote is open, and how
many brackets are. -/
structure Cursor where
  current : List Char
  quoted : Bool
  depth : Nat
  deriving DecidableEq, Repr

def Cursor.depthAfter (st : Cursor) (c : Char) : Nat :=
  if st.quoted then st.depth
  else if c = '[' then st.depth + 1
  else if c = ']' then st.depth - 1
  else st.depth

def Cursor.cuts (delimiter : Char) (st : Cursor) (c : Char) : Bool :=
  c = delimiter && !st.quoted && st.depthAfter c == 0
    && !(delimiter = ':' && (isSchemes st.current || isInAuthority st.current))

/-- The pieces of a list, neither trimmed nor dropped. -/
def cutList (delimiter : Char) : Cursor → List Char → List (List Char)
  | st, [] => [st.current]
  | st, c :: rest =>
    if c = '"' then cutList delimiter { st with quoted := !st.quoted } rest
    else if st.cuts delimiter c then
      st.current :: cutList delimiter ⟨[], st.quoted, st.depthAfter c⟩ rest
    else cutList delimiter ⟨st.current ++ [c], st.quoted, st.depthAfter c⟩ rest

def splitChars (delimiter : Char) (list : List Char) : List (List Char) :=
  ((cutList delimiter ⟨[], false, 0⟩ list).map trim).filter (· ≠ [])

def splitList (delimiter : Char) (list : String) : List String :=
  (splitChars delimiter list.toList).map String.ofList

end SearchPath.Path
