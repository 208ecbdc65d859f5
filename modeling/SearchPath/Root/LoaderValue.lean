import SearchPath.Text.Quoted

/-!
# Loader values

What a loader reports as its search path is not always text: it may be a path, a value of its own
that can be written as text, or any nesting of these. The leaves of a value, from left to
right, are what counts.
-/

namespace SearchPath.Root

inductive LoaderValue where
  /-- A delimited list of paths. -/
  | path (list : String)
  /-- Values in order. -/
  | sequence (items : List LoaderValue)
  /-- A value known only by its text. -/
  | foreign (text : String)
  deriving Repr

namespace LoaderValue

mutual

/-- The texts of the leaves, from left to right. -/
def leaves : LoaderValue → List String
  | .path list => [list]
  | .sequence items => leavesOf items
  | .foreign text => [text]

def leavesOf : List LoaderValue → List String
  | [] => []
  | item :: rest => item.leaves ++ leavesOf rest

end

mutual

def debug : LoaderValue → String
  | .path list => "Path(" ++ Text.quoted list ++ ")"
  | .sequence items => "Sequence(" ++ Text.bracketedList (debugOf items) ++ ")"
  | .foreign text => "Opaque(" ++ Text.quoted text ++ ")"

def debugOf : List LoaderValue → List String
  | [] => []
  | item :: rest => item.debug :: debugOf rest

end

end LoaderValue

end SearchPath.Root
