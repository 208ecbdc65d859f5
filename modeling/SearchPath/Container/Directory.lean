import SearchPath.Container.Readable
import SearchPath.FileTree
import SearchPath.Path.Canonical

/-!
# Directories as containers

The resources of a directory are the files in it, at any depth. Links are followed, except one to
a directory that the walk is in already. A resource path is brought into normal form before it is
looked up, and one that would leave the directory names no resource.
-/

namespace SearchPath

open SearchPath.Text

structure DirectoryContainer where
  tree : FileTree
  root : String
  deriving Repr

namespace DirectoryContainer

/-! ## Listing -/

/-- The slashes of a resource path, whatever stands for them in a name. -/
def slashed (name : List Char) : List Char :=
  name.map fun c => if c = '\\' then '/' else c

def isLink (tree : FileTree) (place : List (List Char)) (name : List Char) : Bool :=
  match tree.nodeAt (place ++ [name]) with
  | some (.link _) => true
  | _ => false

/-- The files below a directory: `above` are the places of the directories that the walk is in,
the innermost first, and `depth` bounds how deep it goes. -/
def filesBelow (tree : FileTree) : Nat → List (List (List Char)) → String → List Char →
    List String
  | 0, _, _, _ => []
  | depth + 1, above, path, relative =>
    let place := above.headD []
    (tree.namesIn place).flatMap fun name =>
      let inner := FileTree.join path (String.ofList name)
      let shown := relative ++ slashed name
      match tree.locate inner with
      | none => []
      | some found =>
        match tree.nodeAt found with
        | some (.file _) => [String.ofList shown]
        | some .directory =>
          if isLink tree place name && above.contains found then []
          else filesBelow tree depth (found :: above) inner (shown ++ ['/'])
        | _ => []

/-- A bound on the depth of a walk: between two links it only goes down, and no link leads twice
to the same directory. -/
def depthBound (tree : FileTree) : Nat :=
  (tree.nodes.length + 2) * (tree.nodes.length + 2)

def paths (directory : DirectoryContainer) : List String :=
  match directory.tree.locate directory.root with
  | none => []
  | some place =>
    filesBelow directory.tree (depthBound directory.tree) [place] directory.root []

/-! ## Opening -/

/-- The file of a resource path, which lies below the directory. -/
def fileOf (directory : DirectoryContainer) (path : String) : Except ContainerFault String :=
  let relative := Path.entryChars path.toList
  if relative = [] ∨ relative = ['.', '.'] ∨ (stripStart ['.', '.', '/'] relative).isSome then
    .error (.missingResource path)
  else .ok (FileTree.join directory.root (String.ofList relative))

def stream (directory : DirectoryContainer) (path : String) :
    Except ContainerFault ByteStream :=
  match directory.fileOf path with
  | .error e => .error e
  | .ok file =>
    match directory.tree.content? file with
    | some content => .ok (.ofOctets content)
    | none => .error (.missingResource path)

end DirectoryContainer

instance : Readable DirectoryContainer where
  paths directory := .ok directory.paths
  stream := DirectoryContainer.stream
  octets directory := octetsByStream directory.stream

end SearchPath
