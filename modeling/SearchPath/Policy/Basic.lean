import SearchPath.Policy.Glob
import SearchPath.Text.Blank
import SearchPath.Text.Pieces

/-!
# The scan policy

A policy says which resources of a container are accepted. It is built from accepted and rejected
paths, packages and classes, each kept as the prefix of the directories below it (`com/example/`,
or the empty prefix for all). The directory of a resource decides first (`matchDirectory`):

1. a rejected prefix wins;
2. without any accepted path, package or class everything is accepted;
3. an accepted directory itself, then the package of an accepted class, then any directory below
   an accepted one;
4. in the package of an accepted class only the accepted classes are.
-/

namespace SearchPath

open SearchPath.Text

inductive DirectoryMatch where
  | rejected
  /-- Below an accepted directory. -/
  | below
  /-- An accepted directory itself. -/
  | accepted
  /-- The package of an accepted class. -/
  | classPackage
  | unmatched
  deriving DecidableEq, Repr

namespace Policy

/-! ## Paths and prefixes -/

/-- The directory of a resource, up to its last slash; `/` for a resource at the top. -/
def parentDirectory (path : String) : String :=
  match breakAtLast '/' path.toList with
  | some (before, _) => String.ofList (before ++ ['/'])
  | none => "/"

def prefixOfPath (path : String) : String :=
  let trimmed := trimBoth (· == '/') (trim path.toList)
  if trimmed = [] then "" else String.ofList (trimmed ++ ['/'])

def prefixOfPackage (package : String) : String :=
  prefixOfPath (String.ofList (package.toList.map fun c => if c = '.' then '/' else c))

def splitClassName (name : String) : String × String :=
  match breakAtLast '.' name.toList with
  | some (package, simple) => (String.ofList package, String.ofList simple)
  | none => ("", name)

def startsWith (start text : String) : Bool :=
  start.toList.isPrefixOf text.toList

/-! ## Rules -/

/-- A directory, given by its path or by its package. -/
inductive Place where
  | path (directory : String)
  | package (name : String)
  deriving DecidableEq, Repr

def Place.start : Place → String
  | .path directory => prefixOfPath directory
  | .package name => prefixOfPackage name

inductive Rule where
  | accept (place : Place)
  | reject (place : Place)
  | acceptClass (name : String)
  deriving DecidableEq, Repr

end Policy

/-- Accepted and rejected prefixes, accepted classes with their packages, and rules on whole
paths. -/
structure Policy where
  acceptedPrefixes : List String
  rejectedPrefixes : List String
  classPackages : List String
  classFiles : List String
  globs : GlobRules
  deriving DecidableEq, Repr

namespace Policy

/-! ## Building -/

def everything : Policy :=
  ⟨[], [], [], [], GlobRules.none⟩

/-- The policy with these rules on whole paths in place of any others. -/
def withGlobs (policy : Policy) (globs : GlobRules) : Policy :=
  { policy with globs := globs }

def add (policy : Policy) : Rule → Policy
  | .accept place =>
    { policy with acceptedPrefixes := policy.acceptedPrefixes ++ [place.start] }
  | .reject place =>
    { policy with rejectedPrefixes := policy.rejectedPrefixes ++ [place.start] }
  | .acceptClass name =>
    let (package, simple) := splitClassName name
    let directory := prefixOfPackage package
    { policy with
      classPackages := policy.classPackages ++ [directory]
      classFiles := policy.classFiles ++ [directory ++ simple ++ ".class"] }

def addAll (policy : Policy) (rules : List Rule) : Policy :=
  rules.foldl add policy

/-! ## Asking -/

/-- What the policy says of a directory, which ends in a slash. -/
def matchDirectory (policy : Policy) (directory : String) : DirectoryMatch :=
  let directory := if directory = "/" then "" else directory
  if policy.rejectedPrefixes.any (startsWith · directory) then .rejected
  else if policy.acceptedPrefixes.isEmpty && policy.classPackages.isEmpty then
    if directory = "" then .accepted else .below
  else if policy.acceptedPrefixes.contains directory then .accepted
  else if policy.classPackages.contains directory then .classPackage
  else if policy.acceptedPrefixes.any (startsWith · directory) then .below
  else .unmatched

def acceptsClassFile (policy : Policy) (path : String) : Bool :=
  policy.classFiles.contains path

/-- Whether a path is accepted whose directory has this status. -/
def accepts (policy : Policy) (status : DirectoryMatch) (path : String) : Bool :=
  match status with
  | .below | .accepted => true
  | .classPackage => policy.acceptsClassFile path
  | .rejected | .unmatched => false

def statusOf (policy : Policy) (path : String) : DirectoryMatch :=
  policy.matchDirectory (parentDirectory path)

def acceptsPath (policy : Policy) (path : String) : Bool :=
  policy.accepts (policy.statusOf path) path

end Policy

end SearchPath
