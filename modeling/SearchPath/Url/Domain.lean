import SearchPath.Text.Utf8
import SearchPath.Url.Domain.Label

/-!
# Domain names

The name of a host is brought to the form in which it is compared and written (`ofOctets`): its
characters are mapped, its labels are checked and written in ASCII, and none of the characters that
separate the parts of a URL may be left in it.
-/

namespace SearchPath.Url.Domain

open SearchPath.Text

/-- ASCII characters that no name holds: controls, the space, and what separates the parts of a
URL. -/
def isForbidden (c : Char) : Bool :=
  c.toNat ≤ 0x20 || c.toNat == 0x7F
    || ['%', '#', '/', ':', '<', '>', '?', '@', '[', '\\', ']', '^', '|'].contains c

def ofOctets (bytes : List UInt8) : Option (List Char) := do
  let s ← decode? bytes
  let mapped ← mapName s
  guard (!mapped.any isForbidden)
  let labels ← (pieces '.' mapped).mapM Label.read?
  guard (areOrdered labels)
  some (join '.' (labels.map (·.written)))

end SearchPath.Url.Domain
