import SearchPath.Text.Pieces
import SearchPath.Unicode.CombiningClass
import SearchPath.Unicode.Direction
import SearchPath.Unicode.Mark
import SearchPath.Unicode.Shaping
import SearchPath.Url.Domain.Mapping
import SearchPath.Url.Punycode

/-!
# Labels of domain names

A label with characters outside ASCII is written in Punycode behind `xn--`. A `Label` is its text
and the way it is written; `Label.read?` makes it from either. The text of such a label

1. is the form in which names are compared, so reading it once more changes nothing;
2. does not start with a mark (`startsWithMark`);
3. has joiners only where they change a shape (`joinersFit`);
4. runs in one direction (`isOrdered`), if any character of the name runs to the left.
-/

namespace SearchPath.Url.Domain

open SearchPath.Text SearchPath.Unicode

structure Label where
  text : List Char
  written : List Char
  deriving DecidableEq, Repr

/-! ## Joiners -/

def startsWithMark (text : List Char) : Bool :=
  text.head?.any isMark

/-- Whether the text starts with a character that joins others on one of these sides; characters
that are joined across do not count. -/
def joinsOn (sides : List Joins) (text : List Char) : Bool :=
  ((text.dropWhile fun c => joins c = .across).head?.map joins).any sides.contains

/-- Keeps the characters at its sides apart. -/
def nonJoiner : Char := '\u200C'

/-- Joins the characters at its sides. -/
def joiner : Char := '\u200D'

/-- Whether joiners fit into the text, of which the characters before these are given last first:
behind a mark that takes the vowel from a consonant, and one that keeps apart also between letters
that would join. -/
def joinersFit : List Char → List Char → Bool
  | _, [] => true
  | before, c :: text =>
    let afterVirama := before.head?.any fun d => combiningClass d.toNat = viramaClass
    let between := joinsOn [.behind, .both] before && joinsOn [.before, .both] text
    (!(c == joiner || c == nonJoiner) || afterVirama || (c == nonJoiner && between))
      && joinersFit (c :: before) text

/-! ## Directions -/

def runsLeft (c : Char) : Bool :=
  [.right, .arabicLetter, .arabicDigit].contains (direction c)

def inEither : List Direction :=
  [.digit, .numberSign, .numberSeparator, .numberEnd, .neutral, .invisible, .mark]

def inRightward : List Direction :=
  .left :: inEither

def inLeftward : List Direction :=
  [.right, .arabicLetter, .arabicDigit] ++ inEither

/-- Whether a text of these directions runs in one. Its first character decides which; behind that,
only what fits may stand, marks at the end do not count, and the character before them belongs to
the direction or is a digit. Digits of two kinds do not mix in a label that runs to the left. -/
def isOrdered : List Direction → Bool
  | [] => true
  | first :: rest =>
    match (rest.reverse.dropWhile (· = .mark)), first with
    | [], .left | [], .right | [], .arabicLetter => true
    | last :: before, .left =>
      [.left, .digit].contains last && before.all inRightward.contains
    | last :: before, .right | last :: before, .arabicLetter =>
      [.right, .arabicLetter, .digit, .arabicDigit].contains last && before.all inLeftward.contains
        && !((last :: before).contains .digit && (last :: before).contains .arabicDigit)
    | _, _ => false

/-- Whether the labels of a name run each in one direction, where any character runs to the
left. -/
def areOrdered (labels : List Label) : Bool :=
  !(labels.any (·.text.any runsLeft))
    || labels.all fun label => isOrdered (label.text.map direction)

/-! ## Reading -/

def punycodeMark : List Char := ['x', 'n', '-', '-']

def textLimit : Nat := 1000

/-- The most characters behind the mark that are read as Punycode. -/
def codeLimit : Nat := 2000

def isProper (text : List Char) : Bool :=
  text.any (0x80 ≤ ·.toNat) && text.length ≤ textLimit && !startsWithMark text && joinersFit [] text

/-- The label whose text, or whose Punycode behind its mark, stands in a mapped name. -/
def Label.read? (label : List Char) : Option Label :=
  if label.all (·.toNat < 0x80) then
    match stripStart punycodeMark label with
    | none => some ⟨label, label⟩
    | some code => do
      guard (code.length ≤ codeLimit)
      let text ← Punycode.decode code
      guard (isProper text && mapName text == some text && Punycode.encode text == code)
      some ⟨text, label⟩
  else do
    guard (isProper label && (stripStart punycodeMark label).isNone)
    some ⟨label, punycodeMark ++ Punycode.encode label⟩

end SearchPath.Url.Domain
