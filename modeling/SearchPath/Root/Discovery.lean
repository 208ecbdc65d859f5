import SearchPath.FileTree
import SearchPath.Path.List
import SearchPath.Path.Canonical
import SearchPath.Root.Filter
import SearchPath.Root.LoaderValue
import SearchPath.Table

/-!
# Discovery

Loaders report the roots of a search path. A discovery keeps them in the order in which they were
found; the first loader to report a root owns it. Every report finds roots and offers them one
after the other:

1. `discover` are the roots that one spelling stands for: itself, or every entry of the directory
   before a final `/*`;
2. `offer` keeps a root unless its path is there already, or reserved for the system and the root
   is an ordinary one;
3. lists, loader values and other discoveries are taken piece by piece.
-/

namespace SearchPath

namespace Root

/-- Whether a root belongs to the application or to the system. -/
inductive Origin where
  | ordinary
  | system
  deriving DecidableEq, Repr

/-- Canonical paths that only the system may put into a discovery. -/
structure Reserved where
  paths : List String
  deriving DecidableEq, Repr

namespace Reserved

def insert (reserved : Reserved) (path : String) : Reserved :=
  if path ∈ reserved.paths then reserved else ⟨reserved.paths ++ [path]⟩

def ofList (paths : List String) : Reserved :=
  paths.foldl insert ⟨[]⟩

def contains (reserved : Reserved) (path : String) : Bool :=
  reserved.paths.contains path

def size (reserved : Reserved) : Nat :=
  reserved.paths.length

end Reserved

end Root

/-- A root of the search path: its canonical path, the loaders that reported it first, and its
origin. -/
structure Root where
  path : String
  handles : List String
  origin : Root.Origin
  deriving DecidableEq, Repr

structure Discovery where
  baseDirectory : String
  delimiter : Char
  reserved : Root.Reserved
  filters : List Root.Filter
  table : Table String Root

namespace Discovery

open SearchPath.Text Root

/-! ## Spellings -/

inductive Spelling where
  /-- One root. -/
  | plain (path : String)
  /-- Every entry of a directory. -/
  | entriesOf (directory : String)
  /-- A star after part of a name, which stands for nothing. -/
  | malformed
  deriving DecidableEq, Repr

/-- The kind of a spelling without blanks at its ends. -/
def Spelling.ofChars (raw : List Char) : Spelling :=
  match raw.reverse with
  | ['*'] => .entriesOf ""
  | ['*', '/'] => .entriesOf "/"
  | '*' :: '/' :: directory => .entriesOf (String.ofList directory.reverse)
  | '*' :: _ => .malformed
  | _ => .plain (String.ofList raw)

/-! ## Asking -/

def empty (baseDirectory : String) (delimiter : Char) (reserved : Reserved)
    (filters : List Filter) : Discovery :=
  ⟨baseDirectory, delimiter, reserved, filters, Table.empty⟩

def roots (known : Discovery) : List Root :=
  known.table.values

def paths (known : Discovery) : List String :=
  known.table.names

def get? (known : Discovery) (path : String) : Option Root :=
  known.table.get? path

def contains (known : Discovery) (path : String) : Bool :=
  (known.get? path).isSome

def canonical (known : Discovery) (raw : String) : String :=
  Path.canonical known.baseDirectory raw

def debug (known : Discovery) : String :=
  Text.record "RootOrder"
    [("base_dir", Text.quoted known.baseDirectory), ("filters", toString known.filters.length),
     ("roots", Text.bracketedList (known.paths.map Text.quoted))]

/-! ## Offering -/

/-- What is known after a root is offered, and whether it was kept. -/
def offer (known : Discovery) (root : Root) : Discovery × Bool :=
  if root.origin = .ordinary ∧ known.reserved.contains root.path = true then (known, false)
  else if known.contains root.path then (known, false)
  else ({ known with table := known.table.put root.path root }, true)

def offerAll (known : Discovery) : List Root → Discovery × Bool
  | [] => (known, false)
  | root :: rest =>
    let first := known.offer root
    let later := offerAll first.1 rest
    (later.1, first.2 || later.2)

/-- What is known after the roots of another discovery are taken over, with their handles and
origins. -/
def absorb (known other : Discovery) : Discovery × Bool :=
  known.offerAll other.roots

/-! ## Discovering -/

/-- The spellings among which a spelling is filtered: as given, and in canonical form. -/
def spellings (known : Discovery) (raw : String) : Option (String × String) :=
  match Spelling.ofChars (trim raw.toList) with
  | .plain path => if path = "" then none else some (path, known.canonical path)
  | .entriesOf directory => some (directory, known.canonical directory)
  | .malformed => none

def asked (known : Discovery) (raw : String) : List Filter.Question :=
  match known.spellings raw with
  | none => []
  | some (given, canonical) => Filter.askedBoth known.filters given canonical

def passes (known : Discovery) (raw : String) : Bool :=
  match known.spellings raw with
  | none => false
  | some (given, canonical) => Filter.passesBoth known.filters given canonical

/-- The roots that a spelling stands for, or `none` if it stands for nothing: an empty or
malformed spelling, one that a filter refuses, or the entries of what is no directory. -/
def discover (tree : FileTree) (known : Discovery) (raw : String) (handles : List String) :
    Option (List Root) :=
  if known.passes raw then
    match Spelling.ofChars (trim raw.toList) with
    | .plain path => some [⟨known.canonical path, handles, .ordinary⟩]
    | .entriesOf directory =>
      let place := known.canonical directory
      -- `place` is canonical, and still what stands in it is resolved against the base directory
      (tree.entries? place).map fun names =>
        names.map fun name => ⟨known.canonical (FileTree.join place name), handles, .ordinary⟩
    | .malformed => none
  else none

/-! ## Reporting -/

/-- What is known after a spelling is reported, and whether that found anything: a plain spelling
must give a new root, and a directory of entries only be there. -/
def report (tree : FileTree) (known : Discovery) (raw : String) (handles : List String) :
    Discovery × Bool :=
  match known.discover tree raw handles with
  | none => (known, false)
  | some found =>
    let (after, kept) := known.offerAll found
    match Spelling.ofChars (trim raw.toList) with
    | .entriesOf _ => (after, true)
    | _ => (after, kept)

/-- What is known after a canonical path is reported for the system, and whether it is new. -/
def reportSystem (known : Discovery) (path : String) (handles : List String) :
    Discovery × Bool :=
  known.offer ⟨path, handles, .system⟩

def pathsIn (known : Discovery) (list : String) : List String :=
  Path.splitList known.delimiter list

/-- What is known after a list of paths is reported, and whether the list names any path. -/
def reportList (tree : FileTree) (known : Discovery) (list : String) (handles : List String) :
    Discovery × Bool :=
  let named := known.pathsIn list
  (named.foldl (fun known path => (known.report tree path handles).1) known, named ≠ [])

mutual

/-- What is known after a loader value is reported, and whether any of its lists names a path. -/
def reportValue (tree : FileTree) (known : Discovery) (handles : List String) :
    LoaderValue → Discovery × Bool
  | .path list => known.reportList tree list handles
  | .sequence items => reportValues tree known handles items
  | .foreign text => known.reportList tree text handles

def reportValues (tree : FileTree) (known : Discovery) (handles : List String) :
    List LoaderValue → Discovery × Bool
  | [] => (known, false)
  | item :: rest =>
    let first := reportValue tree known handles item
    let later := reportValues tree first.1 handles rest
    (later.1, first.2 || later.2)

end

def askedList (known : Discovery) (list : String) : List Filter.Question :=
  (known.pathsIn list).flatMap known.asked

def askedValue (known : Discovery) (value : LoaderValue) : List Filter.Question :=
  value.leaves.flatMap known.askedList

end Discovery

/-! ## Root lists -/

/-- Roots in order, each under its canonical path, to which nothing is added any more. -/
structure RootList where
  table : Table String Root
  deriving Repr

def Discovery.rootList (known : Discovery) : RootList :=
  ⟨known.table⟩

namespace RootList

def roots (list : RootList) : List Root :=
  list.table.values

def paths (list : RootList) : List String :=
  list.table.names

def get? (list : RootList) (path : String) : Option Root :=
  list.table.get? path

/-- The place of a canonical path in the list, counted from zero. -/
def position? (list : RootList) (path : String) : Option Nat :=
  list.paths.idxOf? path

end RootList

end SearchPath
