/-!
# Names and types of the typed tree

Every name of the typed tree is already resolved: a declaration by its `DefId`, a local
variable by its `LocalId`, a loop by its `LoopId`. Every expression carries its `Ty`.
-/

namespace Isel.Tree

/-- A declaration: class, function or field. Written `defN`. -/
structure DefId where
  index : Nat
deriving Repr, DecidableEq, Inhabited

/-- A parameter or local variable. Written `_N`. -/
structure LocalId where
  index : Nat
deriving Repr, DecidableEq, Inhabited

/-- A loop, the target of `break` and `continue`. -/
structure LoopId where
  index : Nat
deriving Repr, DecidableEq, Inhabited

/-- `defN`. -/
def DefId.display (d : DefId) : String := "def" ++ toString d.index

/-- `_N`. -/
def LocalId.display (l : LocalId) : String := "_" ++ toString l.index

/-- The type of an expression. -/
inductive Ty where
  | unit
  /-- The type of expressions that never complete. -/
  | nothing
  | boolean
  | byte
  | short
  | int
  | long
  | float
  | double
  | char
  | string
  | nativePtr
  /-- A reference to an instance of the class. -/
  | classRef (cls : DefId)
  | array (elem : Ty)
deriving Repr, DecidableEq, Inhabited

namespace Ty

def isValue : Ty → Bool
  | .boolean | .byte | .short | .int | .long | .float | .double | .char | .nativePtr => true
  | _ => false

def isInteger : Ty → Bool
  | .byte | .short | .int | .long => true
  | _ => false

def classOf? : Ty → Option DefId
  | .classRef c => some c
  | _ => none

def display : Ty → String
  | .unit => "Unit"
  | .nothing => "Nothing"
  | .boolean => "Boolean"
  | .byte => "Byte"
  | .short => "Short"
  | .int => "Int"
  | .long => "Long"
  | .float => "Float"
  | .double => "Double"
  | .char => "Char"
  | .string => "String"
  | .nativePtr => "NativePtr"
  | .classRef c => "Class(" ++ c.display ++ ")"
  | .array e => "Array<" ++ e.display ++ ">"

end Ty

end Isel.Tree
