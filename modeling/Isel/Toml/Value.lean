/-!
# TOML documents

A TOML document is a table of values. Every part keeps the place it is written at, so that a
reader of the document can point at the part it refuses: a value its text, a table its
header and the values written under it, an array of tables the span from its first header
to the end of its last table, and every key the place it was first written. A table made by
dotted keys or on the way to a header has no place of its own; its key stands for it.
-/

namespace Isel.Toml

/-- Where a part of a document is written: the numbers of characters left in the text at its
first character and after its last. -/
structure Place where
  start : Nat
  stop : Nat
deriving Repr, DecidableEq, Inhabited

mutual

/-- A TOML value. Floats and date-times keep their text: only their kind is read. -/
inductive Value where
  | string (s : String)
  | integer (i : Int)
  | float (text : String)
  | boolean (b : Bool)
  | datetime (text : String)
  | array (items : List Item)
  | table (entries : List Entry)

/-- A value with the place it is written at, if it has one. -/
inductive Item where
  | mk (value : Value) (place : Option Place)

/-- An entry of a table: its key, where the key was first written, and its value. -/
inductive Entry where
  | mk (key : String) (keyPlace : Place) (item : Item)

end

instance : Inhabited Value := ⟨.table []⟩

/-- The name of a value's kind, as the rules of tables name what a dotted key may not go
through; a table written as a value is an inline table. -/
def Value.kindName : Value → String
  | .string _ => "string"
  | .integer _ => "integer"
  | .float _ => "float"
  | .boolean _ => "boolean"
  | .datetime _ => "datetime"
  | .array _ => "array"
  | .table _ => "inline table"

end Isel.Toml
