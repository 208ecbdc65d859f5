import SearchPath.Json.Basic

/-!
# Writing JSON

Texts are written between quotes, with an escape for quotes, backslashes and controls only, and
nothing is written between the parts of a value.
-/

namespace SearchPath.Json

open SearchPath.Text

def writeChar (c : Char) : List Char :=
  match c with
  | '"' => ['\\', '"']
  | '\\' => ['\\', '\\']
  | '\x08' => ['\\', 'b']
  | '\x0c' => ['\\', 'f']
  | '\n' => ['\\', 'n']
  | '\r' => ['\\', 'r']
  | '\t' => ['\\', 't']
  | c =>
    if c.toNat < 0x20 then
      ['\\', 'u', '0', '0', (hexDigit (c.toNat / 16)).toLower, (hexDigit (c.toNat % 16)).toLower]
    else [c]

def writeText (s : List Char) : List Char :=
  '"' :: s.flatMap writeChar ++ ['"']

def commas (items : List (List Char)) : List Char :=
  List.intercalate [','] items

def writeTexts (items : List (List Char)) : List Char :=
  '[' :: commas (items.map writeText) ++ [']']

/-- An object of values written already. -/
def writeObject (members : List (List Char × List Char)) : List Char :=
  '\x7b' :: commas (members.map fun (key, value) => writeText key ++ ':' :: value) ++ ['\x7d']

end SearchPath.Json
