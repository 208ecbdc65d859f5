import SearchPath.Text.Blank
import SearchPath.Url.Basic

/-!
# Reading URLs

`Url.parse` reads an absolute URL the way browsers do.

1. Controls and spaces at both ends are dropped (`strip`), and line breaks everywhere (`visible`);
   in the path of a file a line break behind a drive letter still ends the segment.
2. The scheme decides the rest: `file`, the other *special* schemes of the web, or any other.
3. Special schemes take `\` for `/`, check their host as a domain name and always have a path.
4. The path is read segment by segment (`readSegments`): `.` adds nothing and `..` takes the last
   segment away, but never a drive letter.
-/

namespace SearchPath.Url

open SearchPath.Text

/-! ## Characters and schemes -/

/-- Whether the character breaks a line or stands for several spaces; such characters do not
count. -/
def isBreak (c : Char) : Bool :=
  c == '\t' || c == '\n' || c == '\r'

def visible (s : List Char) : List Char :=
  s.filter fun c => !isBreak c

def strip (s : List Char) : List Char :=
  trimBoth (·.toNat ≤ 0x20) s

def inScheme (c : Char) : Bool :=
  c.isAlphanum || c == '+' || c == '-' || c == '.'

/-- The scheme in lower case, and the text after its colon. -/
def readScheme (s : List Char) : Option (List Char × List Char) :=
  match s with
  | [] => none
  | c :: rest =>
    if c.isAlpha then
      match rest.span inScheme with
      | (name, ':' :: rest) => some ((c :: name).map Char.toLower, rest)
      | _ => none
    else none

inductive Kind where
  | file
  | web
  | other
  deriving DecidableEq, Repr

def webPorts : List (String × Nat) :=
  [("http", 80), ("https", 443), ("ws", 80), ("wss", 443), ("ftp", 21)]

def Kind.ofScheme (scheme : List Char) : Kind :=
  if scheme = "file".toList then .file
  else if webPorts.any (·.1.toList = scheme) then .web
  else .other

/-- Whether the kind takes `\` for `/`. -/
def Kind.special : Kind → Bool
  | .other => false
  | _ => true

def Kind.endsAuthority (kind : Kind) (c : Char) : Bool :=
  c == '/' || c == '?' || c == '#' || (kind.special && c == '\\')

/-! ## Paths -/

def isDriveLetter : List Char → Bool
  | [c, d] => c.isAlpha && (d == ':' || d == '|')
  | _ => false

/-- A segment that `..` does not take away. -/
def isDrive : List Char → Bool
  | c :: d :: rest =>
    c.isAlpha && (d == ':' || d == '|') && (rest.isEmpty || rest.head? == some '\\')
  | _ => false

def isSingleDot (s : List Char) : Bool :=
  [".", "%2e"].contains (String.ofList (s.map Char.toLower))

def isDoubleDot (s : List Char) : Bool :=
  ["..", "%2e.", ".%2e", "%2e%2e"].contains (String.ofList (s.map Char.toLower))

/-- The segments read so far, last first, and whether one of them was a drive letter that leaves
no room for a host. -/
structure Reading where
  done : List (List Char)
  drive : Bool
  deriving DecidableEq, Repr

def shorten : List (List Char) → List (List Char)
  | [] => []
  | last :: before => if isDrive last then last :: before else before

/-- The letter of a drive and the rest of a segment, where a line is broken between the two. -/
def splitAtBreak (raw : List Char) : Option (Char × List Char) :=
  match raw.dropWhile isBreak with
  | [] => none
  | c :: raw =>
    match raw.dropWhile isBreak with
    | ':' :: b :: raw => if c.isAlpha ∧ isBreak b ∧ visible raw ≠ [] then some (c, raw) else none
    | _ => none

/-- A segment that stands for itself. The first segment of a file may be the letter of a drive,
which is then written with a colon; a line broken behind the colon ends the segment. -/
def Reading.put (kind : Kind) (st : Reading) (raw : List Char) : Reading :=
  let name := percentEncode inPath (visible raw)
  if kind = .file ∧ st.done = [] then
    match splitAtBreak raw with
    | some (c, rest) => { st with done := [percentEncode inPath (visible rest), [c, ':']] }
    | none =>
      if isDriveLetter name then ⟨[name.take 1 ++ [':']], true⟩ else { st with done := [name] }
  else { st with done := name :: st.done }

def Reading.add (kind : Kind) (st : Reading) (raw : List Char) : Reading :=
  let name := percentEncode inPath (visible raw)
  if isDoubleDot name then { st with done := shorten st.done }
  else if isSingleDot name then st
  else st.put kind raw

def Reading.finish (kind : Kind) (st : Reading) (raw : List Char) : Reading :=
  let name := percentEncode inPath (visible raw)
  if isDoubleDot name then { st with done := [] :: shorten st.done }
  else if isSingleDot name then { st with done := [] :: st.done }
  else st.put kind raw

def readSegments (kind : Kind) : Reading → List (List Char) → Reading
  | st, [] => st
  | st, [last] => st.finish kind last
  | st, raw :: rest => readSegments kind (st.add kind raw) rest

def readPath (kind : Kind) (s : List Char) : List (List Char) × Bool :=
  let s := if kind.special then s.map fun c => if c = '\\' then '/' else c else s
  let st := readSegments kind ⟨[], false⟩ (pieces '/' s)
  (st.done.reverse, st.drive)

def dropSlash? (kind : Kind) (s : List Char) : Option (List Char) :=
  match s.dropWhile isBreak with
  | [] => none
  | c :: s => if c = '/' ∨ (kind.special ∧ c = '\\') then some s else none

def filePath (names : List (List Char)) : List (List Char) :=
  match names.dropWhile (· = []) with
  | [] => [[]]
  | names => names

/-- The part of the text before the query and the fragment, and these two as they are written. -/
def splitTail (special : Bool) (s : List Char) :
    List Char × Option (List Char) × Option (List Char) :=
  let (path, tail) := s.span fun c => c ≠ '?' ∧ c ≠ '#'
  match visible tail with
  | '?' :: tail =>
    let (query, fragment) := tail.span (· ≠ '#')
    (path, some (percentEncode (inQuery special) query),
      fragment.tail?.map (percentEncode inFragment))
  | '#' :: fragment => (path, none, some (percentEncode inFragment fragment))
  | _ => (path, none, none)

/-! ## Authorities -/

def writeUserinfo (s : List Char) : List Char :=
  let (user, password) := s.span (· ≠ ':')
  let password := percentEncode inUserinfo (password.drop 1)
  percentEncode inUserinfo user ++ if password = [] then [] else ':' :: password

/-- The host and what follows its colon; a colon between brackets belongs to the host. -/
def splitPort (s : List Char) (inside : Bool) : List Char × Option (List Char) :=
  match s with
  | [] => ([], none)
  | c :: rest =>
    if c = ':' ∧ inside = false then ([], some rest)
    else
      let inside := if c = '[' then true else if c = ']' then false else inside
      let (host, port) := splitPort rest inside
      (c :: host, port)

/-- The port, `none` for an empty one or the usual one, and the text after it. -/
def readPort (usual : Option Nat) (s : List Char) :
    Except ParseError (Option Nat × List Char) :=
  let (digits, rest) := s.span Char.isDigit
  match readDigits 10 digits with
  | none => .error .port
  | some port =>
    if 65535 < port then .error .port
    else if rest ≠ [] ∧ rest.head? ≠ some '\\' then .error .port
    else .ok (if digits = [] ∨ some port = usual then none else some port, rest)

def readAuthority (kind : Kind) (scheme s : List Char) :
    Except ParseError (Authority × List Char) := do
  let (whole, rest) := s.span fun c => !kind.endsAuthority c
  let (userinfo, machine) := match breakAtLast '@' whole with
    | some (userinfo, machine) => (some userinfo, machine)
    | none => (none, whole)
  if userinfo = some [] ∧ machine = [] ∧ rest ≠ [] then throw .emptyHost
  let userinfo := writeUserinfo (userinfo.getD [])
  let (name, port) := splitPort machine false
  if kind.special ∧ name = [] then throw .emptyHost
  let host ← if kind.special then Host.parse name else Host.parseOpaque name
  if name = [] ∧ (port.isSome ∨ userinfo ≠ []) then throw .emptyHost
  let usual := (webPorts.find? (·.1.toList = scheme)).map (·.2)
  let (port, left) ← match port with
    | none => pure (none, [])
    | some port => readPort usual port
  return (⟨userinfo, if name = [] then none else some host, port⟩, left ++ rest)

/-! ## The whole -/

/-- What stands behind the scheme of a file: the host, where there is one, and the path behind
the slash at its start. No host, and this machine by name, leave the slash behind them to the
path; a drive letter is no host. -/
def readFileHost (s : List Char) : Except ParseError (Option Host × List Char) := do
  match dropSlash? .file s with
  | none => return (none, s)
  | some path =>
    match dropSlash? .file path with
    | none => return (none, path)
    | some s =>
      let (name, path) := s.span fun c => !Kind.file.endsAuthority c
      let name := visible name
      if isDriveLetter name then return (none, s)
      if name = [] then return (none, path)
      let host ← Host.parse name
      if host = .domain "localhost".toList then return (none, path)
      return (some host, (dropSlash? .file path).getD path)

/-- The rest of a URL of a file, in which line breaks may still stand. -/
def parseFile (s : List Char) : Except ParseError Url := do
  let (host, s) ← readFileHost s
  let (path, query, fragment) := splitTail true s
  let (names, drive) := readPath .file path
  return {
    scheme := "file".toList
    authority := some ⟨[], if drive then none else host, none⟩
    path := .segments (filePath names)
    query, fragment }

def parseHosted (kind : Kind) (scheme s : List Char) : Except ParseError Url := do
  let (authority, s) ← readAuthority kind scheme s
  let (path, query, fragment) := splitTail kind.special s
  let names :=
    if kind.special = false ∧ path = [] then []
    else (readPath kind ((dropSlash? kind path).getD path)).1
  return { scheme, authority := some authority, path := .segments names, query, fragment }

def parseUnhosted (scheme s : List Char) : Url :=
  let (path, query, fragment) := splitTail false s
  let path := match path with
    | '/' :: path => .segments (readPath .other path).1
    | path => .verbatim (percentEncode isControl path)
  { scheme, authority := none, path, query, fragment }

def parse (s : List Char) : Except ParseError Url :=
  let s := strip s
  match readScheme (visible s) with
  | none => .error .relativeWithoutBase
  | some (scheme, rest) =>
    match Kind.ofScheme scheme with
    -- line breaks stay in the path of a file, where they part a drive letter from what follows
    | .file => parseFile ((s.dropWhile (· ≠ ':')).drop 1)
    | .web => parseHosted .web scheme (rest.dropWhile fun c => c == '/' || c == '\\')
    | .other =>
      match rest with
      | '/' :: '/' :: rest => parseHosted .other scheme rest
      | rest => .ok (parseUnhosted scheme rest)

end SearchPath.Url
