import SearchPath.Url.Parser

/-!
# URLs and file paths

`Url.filePath?` is the file that a URL of this machine names, as octets; `fileUrl?` is the URL of
a file given by an absolute path.
-/

namespace SearchPath.Url

open SearchPath.Text

/-- The octets of a path from its percent-encoded segments. A drive letter at the end of a path
is followed by a slash. -/
def segmentOctets (names : List (List Char)) : List UInt8 :=
  let bytes := names.flatMap fun name => 0x2F :: percentDecode (encode name)
  match bytes.reverse with
  | d :: c :: _ :: _ =>
    if (Char.ofUInt8 c).isAlpha && (d == 0x3A || d == 0x7C) then bytes ++ [0x2F] else bytes
  | _ => bytes

def filePath? (u : Url) : Option (List UInt8) :=
  match u.path, u.authority.bind (·.host) with
  | .segments names, none => some (segmentOctets names)
  | _, _ => none

/-- The names between the slashes of a path, without empty ones and `.`. -/
def components (path : List Char) : List (List Char) :=
  (pieces '/' path).filter fun name => name ≠ [] ∧ name ≠ ['.']

def fileUrl? (path : List Char) : Option (List Char) :=
  match path with
  | '/' :: rest =>
    let names := (components rest).map (percentEncode inComponent)
    some ("file://".toList ++ slashed (if names = [] then [[]] else names))
  | _ => none

end SearchPath.Url
