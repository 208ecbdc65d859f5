/-!
# Filters on roots

A filter accepts or refuses the spelling of a root. All filters must accept, and they are asked
in order only until one refuses. A root must pass both as it was spelled and in canonical form.
-/

namespace SearchPath.Root

abbrev Filter := String → Bool

namespace Filter

def passes (filters : List Filter) (path : String) : Bool :=
  filters.all (· path)

/-- Whether all filters accept both spellings; one spelling is asked once. -/
def passesBoth (filters : List Filter) (raw resolved : String) : Bool :=
  passes filters raw && (raw == resolved || passes filters resolved)

/-- A question put to a filter: which filter, counted from zero, and the path. -/
structure Question where
  filter : Nat
  path : String
  deriving DecidableEq, Repr

/-- The questions put to the filters, the first of which has the index given. -/
def asked (path : String) : Nat → List Filter → List Question
  | _, [] => []
  | n, filter :: rest => ⟨n, path⟩ :: if filter path then asked path (n + 1) rest else []

def askedBoth (filters : List Filter) (raw resolved : String) : List Question :=
  asked raw 0 filters ++
    if passes filters raw && raw != resolved then asked resolved 0 filters else []

end Filter

end SearchPath.Root
