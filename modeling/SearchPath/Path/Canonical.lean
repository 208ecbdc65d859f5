import SearchPath.Path.Normal
import SearchPath.Text.Blank
import SearchPath.Url.FilePath

/-!
# The canonical form of a root

A root of the search path is spelled as a plain path, as the URL of a file, as an archive inside
an archive (`outer!/inner`), or as the URL of something that is no file. `canonical` brings it to
the form under which it is stored and compared:

1. blanks at the ends and any number of `jar:` in front do not count;
2. the URL of a file on this machine becomes the path it spells, and the part behind `file:` is a
   plain path unless it starts with a slash;
3. a plain path is anchored at the base directory and brought to normal form, and so is each
   nested part behind `!/`;
4. any other URL stands as it is.
-/

namespace SearchPath.Path

open SearchPath.Text

/-- The path anchored at the base directory, in normal form. -/
def anchorAt (base path : List Char) : List Char :=
  if (splitAnchor path).1.isSome then normalForm path
  else
    let base := unify base
    if base = [] then normalForm path
    else if path = [] then normalForm base
    else normalForm (base ++ '/' :: path)

/-- The parts of a path between the marks `!/` of archives inside archives. -/
def nestedParts : List Char → List (List Char)
  | [] => [[]]
  | '!' :: '/' :: rest => [] :: nestedParts rest
  | c :: rest => (nestedParts rest).modifyHead (c :: ·)

/-- A part behind `!/`, with the mark, unless it names the archive itself. -/
def nestedText (part : List Char) : List Char :=
  let part := normalForm part
  if part = [] ∨ part = here then [] else '!' :: '/' :: part.dropWhile (· = '/')

def canonicalPlain (base path : List Char) : List Char :=
  match nestedParts (unify path) with
  | [] => anchorAt base []
  | outer :: nested => anchorAt base outer ++ nested.flatMap nestedText

def dropArchiveScheme : List Char → List Char
  | j :: a :: r :: ':' :: rest =>
    if [j, a, r].map Char.toLower = ['j', 'a', 'r'] then dropArchiveScheme rest
    else j :: a :: r :: ':' :: rest
  | s => s

/-- The URL that the text spells. A scheme of one letter is a drive. -/
def readUrl (s : List Char) : Option Url :=
  match Url.parse s with
  | .ok url => if 1 < url.scheme.length then some url else none
  | .error _ => none

def fileSchemeSize : Nat := 5

/-- The canonical form of a root spelled as the URL of a file; `raw` is its whole spelling. -/
def canonicalOfFileUrl (base raw spelled : List Char) (url : Url) : List Char :=
  match dropOctets fileSchemeSize spelled with
  | none => raw
  | some path =>
    if path.head? = some '/' then
      match url.filePath? with
      | some octets => canonicalPlain base (decodeLossy octets)
      | none => raw
    -- behind `file:` a relative path stands as it is spelled, with its escapes
    else canonicalPlain base path

def canonicalChars (base raw : List Char) : List Char :=
  let raw := trim raw
  let spelled := dropArchiveScheme raw
  match readUrl spelled with
  | none => canonicalPlain base spelled
  | some url =>
    if url.scheme = "file".toList then canonicalOfFileUrl base raw spelled url else raw

def canonical (base raw : String) : String :=
  String.ofList (canonicalChars base.toList raw.toList)

/-- The path of an entry inside a container, in characters: without an anchor's slash. -/
def entryChars (path : List Char) : List Char :=
  let rest := (normalForm (unify path)).dropWhile (· = '/')
  if rest = here then [] else rest

def entryPath (path : String) : String :=
  String.ofList (entryChars path.toList)

end SearchPath.Path
