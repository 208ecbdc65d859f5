import SearchPath.Text.Printable

/-!
# Quoted text

Text shown to a developer stands between double quotes, with a backslash before a quote or a
backslash, letters for the usual controls, and the code point in hexadecimal for any other
character that is not printable.
-/

namespace SearchPath.Text

def codePoint (c : Char) : List Char :=
  Nat.toDigits 16 c.toNat

def quotedChar (c : Char) : List Char :=
  match c with
  | '"' => ['\\', '"']
  | '\\' => ['\\', '\\']
  | '\t' => ['\\', 't']
  | '\n' => ['\\', 'n']
  | '\r' => ['\\', 'r']
  | '\x00' => ['\\', '0']
  | c => if isPrintable c then [c] else ['\\', 'u', '\x7b'] ++ codePoint c ++ ['\x7d']

def quoted (s : String) : String :=
  String.ofList ('"' :: s.toList.flatMap quotedChar ++ ['"'])

def bracketedList (items : List String) : String :=
  "[" ++ String.intercalate ", " items ++ "]"

def optional (value : Option String) : String :=
  match value with
  | none => "None"
  | some text => "Some(" ++ text ++ ")"

/-- A record shown to a developer: its name and its fields in order. -/
def record (name : String) (fields : List (String × String)) : String :=
  let shown := fields.map fun (field, value) => field ++ ": " ++ value
  name ++ " \x7b " ++ String.intercalate ", " shown ++ " \x7d"

end SearchPath.Text
