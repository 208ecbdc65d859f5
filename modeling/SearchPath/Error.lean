import SearchPath.Text.Quoted
import SearchPath.Url.Host

/-!
# Errors

Each error is a cause with what it concerns; `message` gives its wording. Where the system or a
format words the cause itself, only the kind of the error tells anything.
-/

namespace SearchPath

/-- Why a container is not of a kind that can be read. -/
inductive FormatFault where
  | tooShort (path : String)
  | unrecognised (path : String)
  /-- A reader of this kind of container gave up, for the reason given. -/
  | undecodable (reason : String)
  deriving DecidableEq, Repr

def FormatFault.message : FormatFault → String
  | .tooShort path => "too short to be an archive: " ++ path
  | .unrecognised path => "unrecognised container: " ++ path
  | .undecodable reason => reason

inductive ContainerFault where
  /-- The system could not read. -/
  | io (text : String)
  | format (fault : FormatFault)
  | missingResource (path : String)
  | poolExhausted (capacity : Nat)
  | unavailable (text : String)
  deriving DecidableEq, Repr

def ContainerFault.message : ContainerFault → String
  | .io text => "I/O error: " ++ text
  | .format fault => "unsupported container format: " ++ fault.message
  | .missingResource path => "resource not found: " ++ path
  | .poolExhausted capacity =>
    "reader pool exhausted (" ++ toString capacity ++ " containers open)"
  | .unavailable text => "container unavailable: " ++ text

def ContainerFault.debug : ContainerFault → String
  | .io text =>
    "Io(" ++ Text.record "Custom" [("kind", "Other"), ("error", Text.quoted text)] ++ ")"
  | .format fault => "Format(" ++ Text.quoted fault.message ++ ")"
  | .missingResource path => "MissingResource(" ++ Text.quoted path ++ ")"
  | .poolExhausted capacity =>
    Text.record "PoolExhausted" [("capacity", toString capacity)]
  | .unavailable text => "Unavailable(" ++ Text.quoted text ++ ")"

/-- What a caller does wrong. -/
inductive Misuse where
  | alreadyScanned (module : String)
  | resourceAlreadyOpen (path : String)
  deriving DecidableEq, Repr

def Misuse.message : Misuse → String
  | .alreadyScanned module => "already scanned container " ++ module
  | .resourceAlreadyOpen path =>
    "resource " ++ path ++ " is already open, close it before opening it again"

/-- What is wrong with the values of settings. -/
inductive SettingsFault where
  /-- A pool must hold at least one container. -/
  | noContainers
  deriving DecidableEq, Repr

def SettingsFault.message : SettingsFault → String
  | .noContainers => "max_containers must be at least 1"

inductive Error where
  | io (text : String)
  /-- A text is not the JSON that is asked for. -/
  | json
  | config (fault : SettingsFault)
  | url (cause : Url.ParseError)
  | container (cause : ContainerFault)
  | usage (cause : Misuse)
  deriving DecidableEq, Repr

def Error.message : Error → String
  | .io text => "I/O error: " ++ text
  | .json => "JSON serialization/deserialization error"
  | .config fault => "Configuration error: " ++ fault.message
  | .url cause => "URL error: " ++ cause.message
  | .container cause => cause.message
  | .usage cause => cause.message

end SearchPath
