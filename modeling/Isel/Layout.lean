/-!
# Class layouts

The layout pass gives each class the byte offsets of its fields, in declaration order, and
the size of an instance. A field is found by its name; the first of two with one name wins.
-/

namespace Isel

/-- The field offsets of a class and the size of an instance. -/
structure Layout where
  fields : List (String × Nat) := []
  size : Nat := 0
deriving Repr, DecidableEq, Inhabited

def Layout.offsetOf? (l : Layout) (name : String) : Option Nat :=
  (l.fields.find? (·.1 == name)).map (·.2)

end Isel
