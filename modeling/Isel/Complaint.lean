import Isel.Decimal.Notation
import Isel.Text.Quoted

/-!
# Complaints about data

When a typed reader finds a value that is not what it asks for, it says what it found and
what it expected, in one fixed wording for every format it reads: a wrong type, a value out
of range, a sequence too short, a field missing or given twice, a variant name unknown. What
was found is named by its kind, with the value itself for scalars: strings quoted with
escapes, doubles in the notation of the format that read them (`plainNotation`: written out
in full with a point).
-/

namespace Isel

def plainNotation : Decimal.Notation where
  plainFrom := -400
  plainBelow := 400
  plusExponent := false
  tie := .up
  inf := "inf"
  nan := "NaN"

/-- What was found where a value of another type was asked for. -/
inductive Unexpected where
  | null
  | bool (b : Bool)
  | unsigned (n : Nat)
  | signed (i : Int)
  | float (x : Float)
  | text (s : String)
  | seq
  | map
  | unitVariant
deriving Inhabited

def Unexpected.describe (floats : Decimal.Notation) : Unexpected → String
  | .null => "null"
  | .bool b => "boolean `" ++ toString b ++ "`"
  | .unsigned n => "integer `" ++ toString n ++ "`"
  | .signed i => "integer `" ++ toString i ++ "`"
  | .float x => "floating point `" ++ floats.render x ++ "`"
  | .text s => "string " ++ Text.quoteString s
  | .seq => "sequence"
  | .map => "map"
  | .unitVariant => "unit variant"

def invalidType (floats : Decimal.Notation) (found : Unexpected) (expected : String) : String :=
  "invalid type: " ++ found.describe floats ++ ", expected " ++ expected

def invalidValue (floats : Decimal.Notation) (found : Unexpected) (expected : String) : String :=
  "invalid value: " ++ found.describe floats ++ ", expected " ++ expected

def invalidLength (n : Nat) (expected : String) : String :=
  "invalid length " ++ toString n ++ ", expected " ++ expected

def missingField (name : String) : String := "missing field `" ++ name ++ "`"

def duplicateField (name : String) : String := "duplicate field `" ++ name ++ "`"

def oneOf : List String → String
  | [] => "there are no variants"
  | [a] => "`" ++ a ++ "`"
  | [a, b] => "`" ++ a ++ "` or `" ++ b ++ "`"
  | names => "one of " ++ ", ".intercalate (names.map fun n => "`" ++ n ++ "`")

def unknownVariant (name : String) (names : List String) : String :=
  "unknown variant `" ++ name ++ "`, expected " ++ oneOf names

end Isel
