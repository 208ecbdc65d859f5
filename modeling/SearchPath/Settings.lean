import SearchPath.Error
import SearchPath.FileTree
import SearchPath.Json.Parser
import SearchPath.Json.Printer
import SearchPath.Policy.Basic
import SearchPath.Text.Utf8

/-!
# Settings

Settings list what the scan policy accepts and rejects, and how many containers may be
open at once. As JSON they are an object in which every field may be left out and unknown members do
not count, or an array of the fields in order, of which the last ones may be left out.
-/

namespace SearchPath

/-- The lists of settings, in the order of its fields. -/
inductive SettingsList where
  | acceptPackages
  | rejectPackages
  | acceptPaths
  | rejectPaths
  | acceptClasses
  | acceptResourcePaths
  | rejectResourcePaths
  deriving DecidableEq, Repr

def SettingsList.all : List SettingsList :=
  [.acceptPackages, .rejectPackages, .acceptPaths, .rejectPaths, .acceptClasses,
    .acceptResourcePaths, .rejectResourcePaths]

structure Settings where
  acceptPackages : List String
  rejectPackages : List String
  acceptPaths : List String
  rejectPaths : List String
  acceptClasses : List String
  acceptResourcePaths : List String
  rejectResourcePaths : List String
  maxContainers : Nat
  deriving DecidableEq, Repr

namespace Settings

def standardCapacity : Nat := 1024

def standard : Settings :=
  ⟨[], [], [], [], [], [], [], standardCapacity⟩

/-! ## Fields -/

inductive Field where
  | list (which : SettingsList)
  | maxContainers
  deriving DecidableEq, Repr

def Field.all : List Field :=
  SettingsList.all.map .list ++ [.maxContainers]

def Field.key : Field → String
  | .list .acceptPackages => "accept_packages"
  | .list .rejectPackages => "reject_packages"
  | .list .acceptPaths => "accept_paths"
  | .list .rejectPaths => "reject_paths"
  | .list .acceptClasses => "accept_classes"
  | .list .acceptResourcePaths => "accept_resource_paths"
  | .list .rejectResourcePaths => "reject_resource_paths"
  | .maxContainers => "max_containers"

def Field.ofKey? (key : List Char) : Option Field :=
  Field.all.find? (·.key.toList == key)

def getList (settings : Settings) : SettingsList → List String
  | .acceptPackages => settings.acceptPackages
  | .rejectPackages => settings.rejectPackages
  | .acceptPaths => settings.acceptPaths
  | .rejectPaths => settings.rejectPaths
  | .acceptClasses => settings.acceptClasses
  | .acceptResourcePaths => settings.acceptResourcePaths
  | .rejectResourcePaths => settings.rejectResourcePaths

def setList (settings : Settings) (items : List String) : SettingsList → Settings
  | .acceptPackages => { settings with acceptPackages := items }
  | .rejectPackages => { settings with rejectPackages := items }
  | .acceptPaths => { settings with acceptPaths := items }
  | .rejectPaths => { settings with rejectPaths := items }
  | .acceptClasses => { settings with acceptClasses := items }
  | .acceptResourcePaths => { settings with acceptResourcePaths := items }
  | .rejectResourcePaths => { settings with rejectResourcePaths := items }

/-! ## Reading -/

def capacityLimit : Nat := 1 <<< 64 - 1

/-- A number of containers: digits alone. -/
def readCapacity : Json.Value → Option Nat
  | .number literal => (Text.readDigits 10 literal).filter (· ≤ capacityLimit)
  | _ => none

def readText : Json.Value → Option String
  | .text points => (Json.textOf points).map String.ofList
  | _ => none

def readTexts : Json.Value → Option (List String)
  | .array items => items.mapM readText
  | _ => none

def setField (settings : Settings) (value : Json.Value) : Field → Option Settings
  | .list which => (readTexts value).map fun items => settings.setList items which
  | .maxContainers => (readCapacity value).map fun n => { settings with maxContainers := n }

/-- The settings with the members of an object, none of whose keys has been seen before. -/
def setMembers (settings : Settings) (seen : List Field) :
    List (List Nat × Json.Value) → Option Settings
  | [] => some settings
  | (key, value) :: rest => do
    let key ← Json.textOf key
    match Field.ofKey? key with
    | none => setMembers settings seen rest
    | some field =>
      if field ∈ seen then none
      else setMembers (← settings.setField value field) (field :: seen) rest

/-- The settings with the items of an array, one for each field in order. -/
def setItems (settings : Settings) : List Field → List Json.Value → Option Settings
  | _, [] => some settings
  | [], _ :: _ => none
  | field :: fields, item :: items => do
    setItems (← settings.setField item field) fields items

def ofValue : Json.Value → Option Settings
  | .object members => setMembers standard [] members
  | .array items => setItems standard Field.all items
  | _ => none

/-- The settings, if their values make sense. -/
def checked (settings : Settings) : Except Error Settings :=
  if settings.maxContainers = 0 then .error (.config .noContainers) else .ok settings

def ofJson (json : String) : Except Error Settings :=
  match (Json.parse json.toList).bind ofValue with
  | none => .error .json
  | some settings => settings.checked

def ofFile (tree : FileTree) (path : String) : Except Error Settings :=
  match tree.content? path with
  | none => .error (.io "cannot read file")
  | some content =>
    match Text.decode? content with
    | none => .error (.io "stream did not contain valid UTF-8")
    | some text => ofJson (String.ofList text)

/-! ## Writing -/

def writeField (settings : Settings) : Field → List Char
  | .list which => Json.writeTexts ((settings.getList which).map String.toList)
  | .maxContainers => Text.decimal settings.maxContainers

/-- The settings as a JSON text, with all fields in order. -/
def toJson (settings : Settings) : String :=
  String.ofList <| Json.writeObject <|
    Field.all.map fun field => (field.key.toList, settings.writeField field)

/-! ## The policy -/

/-- The rules that the settings list, in the order of their fields. -/
def rules (settings : Settings) : List Policy.Rule :=
  settings.acceptPackages.map (.accept ∘ .package)
    ++ settings.rejectPackages.map (.reject ∘ .package)
    ++ settings.acceptPaths.map (.accept ∘ .path)
    ++ settings.rejectPaths.map (.reject ∘ .path)
    ++ settings.acceptClasses.map .acceptClass

def policy (settings : Settings) : Policy :=
  (Policy.everything.withGlobs
    ⟨settings.acceptResourcePaths, settings.rejectResourcePaths⟩).addAll settings.rules

end Settings

end SearchPath
