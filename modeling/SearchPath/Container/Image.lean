import SearchPath.Container.Readable
import SearchPath.Image.Basic
import SearchPath.Table
import SearchPath.Text.Pieces

/-!
# Modules of a runtime image

In a runtime image the resources of all modules stand side by side, each under `/`, the name of
its module, `/`, and its path in the module. A container is one module of an image: the resources
whose names start with its name, under their paths.
-/

namespace SearchPath

open SearchPath.Text

structure ImageContainer where
  module : String
  resources : Table String (List UInt8)
  deriving Repr

namespace Image

/-- The module and the path that the name of a resource spells. -/
def splitName (name : String) : Option (String × String) :=
  match name.toList with
  | '/' :: rest =>
    match breakAt ['/'] rest with
    | some (module, path) =>
      if module = [] ∨ path = [] then none else some (String.ofList module, String.ofList path)
    | none => none
  | _ => none

/-- The modules of the resources, sorted and each once. -/
def modulesAmong (resources : List ImageResource) : List String :=
  let named := resources.filterMap fun resource => (splitName resource.name).map (·.1)
  (named.mergeSort fun a b => decide (a ≤ b)).eraseReps

def read (content : List UInt8) : Except ContainerFault (List ImageResource) :=
  match resources? content with
  | some resources => .ok resources
  | none => .error (.format (.undecodable "invalid runtime image"))

def modules (content : List UInt8) : Except ContainerFault (List String) :=
  (read content).map modulesAmong

end Image

namespace ImageContainer

def pathIn (module name : String) : Option String :=
  match Image.splitName name with
  | some (owner, path) => if owner = module then some path else none
  | none => none

def ofResources (module : String) (resources : List ImageResource) : ImageContainer :=
  ⟨module, .ofList <| resources.filterMap fun resource =>
    (pathIn module resource.name).map fun path => (path, resource.content)⟩

def owns (module name : String) : Bool :=
  (Image.splitName name).any (·.1 = module)

/-- The module in an image file of this content. No resource of another module is kept on the
way. -/
def ofContent (module : String) (content : List UInt8) : Except ContainerFault ImageContainer :=
  (Image.read content).map fun resources =>
    ofResources module (resources.filter fun resource => owns module resource.name)

def paths (image : ImageContainer) : List String :=
  image.resources.names

def octets (image : ImageContainer) (path : String) : Except ContainerFault (List UInt8) :=
  match image.resources.get? path with
  | some content => .ok content
  | none => .error (.missingResource path)

end ImageContainer

instance : Readable ImageContainer where
  paths image := .ok image.paths
  stream image := streamByOctets image.octets
  octets := ImageContainer.octets

end SearchPath
