import SearchPath.FileTree

/-!
# The user's home

The home directory is what the environment says, unless it says nothing, and else what the account
says. Log files are kept below it; nothing else is said of logging.
-/

namespace SearchPath.Home

/-- The home directory, from the environment and from the account. -/
def directory (environment : Option String) (account : String) : String :=
  match environment with
  | none => account
  | some home => if home = "" then account else home

def logDirectory (home : String) : String :=
  FileTree.join home ".rootscope/logs"

end SearchPath.Home
