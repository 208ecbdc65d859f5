import SearchPath.Container.Image
import SearchPath.FileTree
import SearchPath.Module
import SearchPath.Path.Canonical
import SearchPath.Root.Discovery
import SearchPath.Text.Blank

/-!
# Java homes

A Java home is a directory with a runtime in it: a runtime image, a directory of jmods, or the
runtime jar of an older layout. `find` looks for one, first where the environment says, then
where the `java` launcher says, then where homes are usually installed on Linux. From a home follow
its version, the roots reserved for its runtime, and the modules of its platform. What the launcher
prints is given; it is not run.
-/

namespace SearchPath

structure JavaEnvironment where
  /-- The home that a variable names. -/
  javaHome : Option String
  /-- The settings that the launcher prints, if there is one. -/
  launcherSettings : Option String
  /-- The home directory of the user. -/
  userHome : String
  deriving DecidableEq, Repr

namespace JavaHome

open SearchPath.Text FileTree

/-! ## Recognising -/

def imageOf (home : String) : String :=
  join (join home "lib") "modules"

def jmodsOf (home : String) : String :=
  join home "jmods"

/-- The directories of libraries of a home, of the runtime itself and of one inside a kit. -/
def librariesOf (home : String) : List String :=
  [join home "lib", join (join home "jre") "lib"]

def runtimeJar (library : String) : String :=
  join library "rt.jar"

def isHome (tree : FileTree) (home : String) : Bool :=
  tree.pathExists (imageOf home) || tree.isDirectory (jmodsOf home)
    || (librariesOf home).any fun library => tree.pathExists (runtimeJar library)

/-! ## Finding -/

def ofVariable (tree : FileTree) (value : Option String) : Option String :=
  value.filter fun home => home ≠ "" && isHome tree home

def ofSettings (settings : String) : Option String :=
  (lines settings.toList).findSome? fun line =>
    (stripStart "java.home = ".toList (trim line)).map fun home => String.ofList (trim home)

def usualPlaces (userHome : String) : List String :=
  ["/usr/lib/jvm/", join userHome ".sdkman/candidates/java/"]

/-- The home in a child of a search root: the child, or the home in a bundle. -/
def homeOfChild (tree : FileTree) (child : String) : String :=
  let bundled := join child "Contents/Home"
  if tree.isDirectory bundled then bundled else child

/-- The search root where it is a home, or else the first of its children that is one. -/
def findIn (tree : FileTree) (root : String) : Option String :=
  if isHome tree root then some root
  else do
    let names ← tree.entries? root
    let children := (names.mergeSort fun a b => decide (a ≤ b)).map (join root)
    (children.map (homeOfChild tree)).find? (isHome tree)

def find (tree : FileTree) (environment : JavaEnvironment) : Option String :=
  ofVariable tree environment.javaHome
    <|> (environment.launcherSettings.bind ofSettings).filter (isHome tree)
    <|> (usualPlaces environment.userHome).findSome? (findIn tree)

/-! ## Reading -/

def version (tree : FileTree) (home : String) : Option String := do
  let content ← tree.content? (join home "release")
  let text ← decode? content
  (lines text).findSome? fun line =>
    (stripStart "JAVA_VERSION=".toList line).map fun value =>
      String.ofList (trimBoth (· == '"') value)

/-- The stem and the extension of a file name, at its last dot unless that is its first
character. -/
def splitExtension (name : String) : Option (String × String) :=
  match breakAtLast '.' name.toList with
  | some (stem, extension) =>
    if stem = [] then none else some (String.ofList stem, String.ofList extension)
  | none => none

def filesWith (tree : FileTree) (extension directory : String) : List (String × String) :=
  ((tree.entries? directory).getD []).filterMap fun name =>
    match splitExtension name with
    | some (stem, found) => if found = extension then some (stem, join directory name) else none
    | none => none

def runtimeJars (tree : FileTree) (library : String) : List String :=
  (runtimeJar library :: (filesWith tree "jar" (join library "ext")).map (·.2)).filter
    tree.isFile

/-- The roots reserved for the runtime of an older layout, read from the working directory. -/
def runtimeRoots (tree : FileTree) (base home : String) : Root.Reserved :=
  .ofList <| ((librariesOf home).flatMap (runtimeJars tree)).map (Path.canonical base)

def jmodModules (tree : FileTree) (directory : String) : List Module :=
  let found := (filesWith tree "jmod" directory).map fun (stem, path) =>
    (Module.named stem).inFile path
  found.mergeSort fun a b => decide (a.name ≤ b.name)

/-- The modules of the platform: those of the jmods where there is a directory of them, or else
those of the runtime image. -/
def platformModules (tree : FileTree) (home : String) : Except ContainerFault (List Module) :=
  if tree.isDirectory (jmodsOf home) then .ok (jmodModules tree (jmodsOf home))
  else
    match tree.content? (imageOf home) with
    | none => .ok []
    | some content =>
      (Image.modules content).map fun names =>
        names.map fun name => (Module.named name).partOf (imageOf home)

end JavaHome

end SearchPath
