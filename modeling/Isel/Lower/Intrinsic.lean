/-!
# Intrinsics

Calls that the selector lowers by a fixed rule instead of a call, found by their qualified
name. Each has a fixed number of arguments, except `getContinuation`, which takes any.
-/

namespace Isel.Lower

/-- The intrinsics. -/
inductive Intrinsic where
  | areEqualByValue
  | getContinuation
  | interpretPointer
  | rawValue
  | readPrimitive
  | writePrimitive
  | ptrPlusLong
  | nullPtr
  | pointerSize
  | ptrToLong
deriving Repr, DecidableEq, Inhabited

namespace Intrinsic

def all : List Intrinsic :=
  [.areEqualByValue, .getContinuation, .interpretPointer, .rawValue, .readPrimitive,
   .writePrimitive, .ptrPlusLong, .nullPtr, .pointerSize, .ptrToLong]

def name : Intrinsic → String
  | .areEqualByValue => "intrinsics.areEqualByValue"
  | .getContinuation => "intrinsics.getContinuation"
  | .interpretPointer => "intrinsics.interpretPointer"
  | .rawValue => "intrinsics.rawValue"
  | .readPrimitive => "intrinsics.readPrimitive"
  | .writePrimitive => "intrinsics.writePrimitive"
  | .ptrPlusLong => "intrinsics.ptrPlusLong"
  | .nullPtr => "intrinsics.nullPtr"
  | .pointerSize => "intrinsics.pointerSize"
  | .ptrToLong => "intrinsics.ptrToLong"

def ofName? (n : String) : Option Intrinsic := all.find? (·.name == n)

def arity : Intrinsic → Option Nat
  | .getContinuation => none
  | .nullPtr | .pointerSize => some 0
  | .interpretPointer | .rawValue | .ptrToLong => some 1
  | .areEqualByValue | .readPrimitive | .ptrPlusLong => some 2
  | .writePrimitive => some 3

end Intrinsic

end Isel.Lower
