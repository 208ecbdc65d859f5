import SearchPath.Text.Pieces

/-!
# File trees

A file tree holds files, directories and symbolic links under absolute paths, and the working
directory against which relative paths are read. A path is walked name by name (`walk`): `.` and
empty names stay, `..` goes up, a link is replaced by its target, and every name but the last
must lead to a directory. At most forty links are followed on one walk.
-/

namespace SearchPath

open SearchPath.Text

inductive Node where
  | file (content : List UInt8)
  | directory
  | link (target : List Char)
  deriving DecidableEq, Repr

structure FileTree where
  workingDirectory : List (List Char)
  nodes : List (List (List Char) × Node)
  deriving Repr

namespace FileTree

/-! ## Building -/

/-- The names on a path that goes straight down. -/
def namesOf (path : List Char) : List (List Char) :=
  (pieces '/' path).filter (· ≠ [])

def empty (workingDirectory : String) : FileTree :=
  let names := namesOf workingDirectory.toList
  ⟨names, (List.range names.length).map fun n => (names.take (n + 1), .directory)⟩

/-- What stands under exactly these names, links not followed. -/
def nodeAt (tree : FileTree) (names : List (List Char)) : Option Node :=
  if names = [] then some .directory
  else (tree.nodes.find? (·.1 = names)).map (·.2)

/-- The tree with a node put under the names, unless something stands there. -/
def put (tree : FileTree) (names : List (List Char)) (node : Node) : FileTree :=
  if (tree.nodeAt names).isSome then tree
  else { tree with nodes := tree.nodes ++ [(names, node)] }

/-- The tree with a node under a path below the working directory, and the directories on the
way. -/
def add (tree : FileTree) (path : String) (node : Node) : FileTree :=
  let names := tree.workingDirectory ++ namesOf path.toList
  let start := tree.workingDirectory.length
  let above := (List.range (names.length - start - 1)).map fun n => names.take (start + n + 1)
  (above.foldl (fun tree names => tree.put names .directory) tree).put names node

/-! ## Walking -/

def linkLimit : Nat := 40

/-- Where a walk goes on from a link: the place and the names still ahead. -/
def follow (place : List (List Char)) (target : List Char) (ahead : List (List Char)) :
    List (List Char) × List (List Char) :=
  match target with
  | '/' :: rest => ([], pieces '/' rest ++ ahead)
  | target => (place, pieces '/' target ++ ahead)

/-- The place where the walk ends: the names of a node that is no link. -/
def walk (tree : FileTree) : Nat → List (List Char) → List (List Char) →
    Option (List (List Char))
  | _, place, [] => some place
  | links, place, name :: ahead =>
    if tree.nodeAt place ≠ some .directory then none
    else if name = [] ∨ name = ['.'] then walk tree links place ahead
    else if name = ['.', '.'] then walk tree links place.dropLast ahead
    else
      match tree.nodeAt (place ++ [name]) with
      | none => none
      | some (.link []) => none
      | some (.link target) =>
        match links with
        | 0 => none
        | links + 1 =>
          let next := follow place target ahead
          walk tree links next.1 next.2
      | some _ => walk tree links (place ++ [name]) ahead
termination_by links _ ahead => (links, ahead.length)

def locate (tree : FileTree) (path : String) : Option (List (List Char)) :=
  match path.toList with
  | [] => none
  | '/' :: rest => walk tree linkLimit [] (pieces '/' rest)
  | names => walk tree linkLimit tree.workingDirectory (pieces '/' names)

def lookup (tree : FileTree) (path : String) : Option Node :=
  (tree.locate path).bind tree.nodeAt

/-! ## Reading -/

def pathExists (tree : FileTree) (path : String) : Bool :=
  (tree.lookup path).isSome

def isDirectory (tree : FileTree) (path : String) : Bool :=
  tree.lookup path == some .directory

def content? (tree : FileTree) (path : String) : Option (List UInt8) :=
  match tree.lookup path with
  | some (.file content) => some content
  | _ => none

def isFile (tree : FileTree) (path : String) : Bool :=
  (tree.content? path).isSome

/-- The names in a directory that is itself at this place, in the order of the tree. -/
def namesIn (tree : FileTree) (place : List (List Char)) : List (List Char) :=
  tree.nodes.filterMap fun (names, _) =>
    if names ≠ [] ∧ names.dropLast = place then names.getLast? else none

def entries? (tree : FileTree) (path : String) : Option (List String) :=
  match tree.locate path with
  | none => none
  | some place =>
    if tree.nodeAt place = some .directory then some ((tree.namesIn place).map String.ofList)
    else none

def join (directory name : String) : String :=
  if directory.isEmpty || directory.endsWith "/" then directory ++ name
  else directory ++ "/" ++ name

end FileTree

end SearchPath
