import SearchPath.Url.Host

/-!
# URLs

A URL is a scheme, an authority where there is one, a path, a query and a fragment, each part in
its written form: lower case where case has no meaning, and percent-encoded where the part cannot
hold a character. `Url.text` writes the parts one after the other.
-/

namespace SearchPath

namespace Url

open SearchPath.Text

/-- What stands behind `//`: who asks, which machine, and which port if not the usual one. -/
structure Authority where
  /-- User name and password with a colon between them, both optional. -/
  userinfo : List Char
  host : Option Host
  port : Option Nat
  deriving DecidableEq, Repr

/-- The path of a URL: text that the scheme alone understands, or segments behind slashes. -/
inductive Path where
  | verbatim (text : List Char)
  | segments (names : List (List Char))
  deriving DecidableEq, Repr

def slashed (names : List (List Char)) : List Char :=
  names.flatMap ('/' :: ·)

def Path.text : Path → List Char
  | .verbatim text => text
  | .segments names => slashed names

def Authority.text (a : Authority) : List Char :=
  (if a.userinfo = [] then [] else a.userinfo ++ ['@'])
    ++ (a.host.map Host.text).getD []
    ++ (a.port.map fun port => ':' :: decimal port).getD []

end Url

structure Url where
  scheme : List Char
  authority : Option Url.Authority
  path : Url.Path
  query : Option (List Char)
  fragment : Option (List Char)
  deriving DecidableEq, Repr

namespace Url

/-- What stands between the scheme and the path. A path that starts with two slashes would read
as an authority, so a segment `.` is written before it. -/
def beforePath (u : Url) : List Char :=
  match u.authority with
  | some a => '/' :: '/' :: a.text
  | none => if ['/', '/'].isPrefixOf u.path.text then ['/', '.'] else []

def text (u : Url) : List Char :=
  u.scheme ++ ':' :: u.beforePath ++ u.path.text
    ++ (u.query.map ('?' :: ·)).getD []
    ++ (u.fragment.map ('#' :: ·)).getD []

end Url

end SearchPath
