import SearchPath.Text.Quoted
import SearchPath.Url.FilePath

/-!
# Modules

A module is a container of resources: an archive, a directory, or a part of a runtime image. It
has a name, a location as a URL where one is known, and the file or directory behind it. Its key
says when two modules are the same container: the location, or the name under `jrt:/`.
-/

namespace SearchPath

open SearchPath.Text

structure ContainerId where
  text : String
  deriving DecidableEq, Repr

def ContainerId.debug (key : ContainerId) : String :=
  "ContainerKey(" ++ quoted key.text ++ ")"

structure Module where
  name : String
  location : Option String
  file : Option String
  deriving DecidableEq, Repr

namespace Module

/-! ## Building -/

def named (name : String) : Module :=
  ⟨name, none, none⟩

def located (module : Module) (location : String) : Module :=
  { module with location := some location }

/-- The module in a file. The URL of the file becomes its location unless it has one; a relative
path has no URL. -/
def inFile (module : Module) (file : String) : Module :=
  { module with
    location := module.location <|> (Url.fileUrl? file.toList).map String.ofList
    file := some file }

/-- The module in a runtime image, which holds others too and so is no location. -/
def partOf (module : Module) (image : String) : Module :=
  { module with file := some image }

/-! ## Identity -/

def key (module : Module) : ContainerId :=
  ⟨module.location.getD ("jrt:/" ++ module.name)⟩

/-- A file path as names: whether it starts at the root, and its names without empty ones and
`.`, but for a `.` that a relative path starts with. -/
def filePath (path : String) : Bool × List (List Char) :=
  match path.toList with
  | '/' :: rest => (true, Url.components rest)
  | names => (false, (pieces '/' names).take 1 |>.filter (· = ['.']) |> (· ++ Url.components names))

/-- Whether two modules are the same in name, location and file. -/
def same (a b : Module) : Bool :=
  a.name == b.name && a.location == b.location && a.file.map filePath == b.file.map filePath

/-! ## Showing -/

def display (module : Module) : String :=
  match module.location with
  | some location => module.name ++ " (" ++ location ++ ")"
  | none => module.name

def debug (module : Module) : String :=
  Text.record "ModuleRef"
    [("name", quoted module.name), ("location", Text.optional (module.location.map quoted)),
     ("file", Text.optional (module.file.map quoted))]

end Module

end SearchPath
