import Isel.Tree.Type
import Isel.Diagnostic

/-!
# Why selection fails

A hard failure stops selection at the first node that has no lowering; the soft failures
collected before it are dropped. Each failure carries the span of the node (of the function
for a body that cannot be lowered), and `LowerError.message` gives its text.
-/

namespace Isel.Lower

/-- The two jumps out of a loop. -/
inductive LoopExit where
  | breakLoop
  | continueLoop
deriving Repr, DecidableEq, Inhabited

/-- `break` or `continue`. -/
def LoopExit.keyword : LoopExit → String
  | .breakLoop => "break"
  | .continueLoop => "continue"

/-- A node that selection cannot lower. -/
inductive LowerError where
  /-- A function body that earlier passes should have lowered. -/
  | unsupportedBody (function : String) (span : Span)
  /-- An intrinsic call with no lowering rule. -/
  | unknownIntrinsic (name : String) (span : Span)
  /-- An intrinsic call with the wrong number of arguments. -/
  | intrinsicArity (name : String) (expected found : Nat) (span : Span)
  /-- A field of a receiver whose type is not a class. -/
  | primitiveReceiver (field : String) (ty : Tree.Ty) (span : Span)
  /-- A field that the class layout does not have. -/
  | unknownField (cls field : String) (span : Span)
  /-- A `break` or `continue` outside the loop it names. -/
  | loopNotFound (exit : LoopExit) (span : Span)
  /-- An integer coercion to a type that is no integer type. -/
  | nonIntegerCoercion (ty : Tree.Ty) (span : Span)
  /-- A spread element of a vararg list. -/
  | spreadVararg (span : Span)
  /-- A delegating constructor call in a function without parameters. -/
  | missingReceiver (function : String) (span : Span)
deriving Repr, Inhabited

namespace LowerError

def message : LowerError → String
  | .unsupportedBody f _ => "unsupported body kind for function `" ++ f ++ "`"
  | .unknownIntrinsic n _ => "no lowering rule for intrinsic `" ++ n ++ "`"
  | .intrinsicArity n e f _ =>
    "intrinsic `" ++ n ++ "` expects " ++ toString e ++ " argument(s), found " ++ toString f
  | .primitiveReceiver f ty _ =>
    "field `" ++ f ++ "` accessed on a non-class receiver of type " ++ ty.display
  | .unknownField c f _ => "class `" ++ c ++ "` has no field `" ++ f ++ "` in its layout"
  | .loopNotFound e _ => "`" ++ e.keyword ++ "` targets a loop that is not being lowered"
  | .nonIntegerCoercion ty _ => "integer coercion to non-integer type " ++ ty.display
  | .spreadVararg _ => "vararg element was neither lowered nor statically evaluated"
  | .missingReceiver f _ =>
    "delegating constructor call in `" ++ f ++ "`, which has no receiver parameter"

def span : LowerError → Span
  | .unsupportedBody _ s | .unknownIntrinsic _ s | .intrinsicArity _ _ _ s | .primitiveReceiver _ _ s
  | .unknownField _ _ s | .loopNotFound _ s | .nonIntegerCoercion _ s | .spreadVararg s
  | .missingReceiver _ s => s

def diagnostic (e : LowerError) : Diagnostic :=
  .error ("internal compiler error: " ++ e.message) e.span

end LowerError

/-- Why selection stops early: a node it cannot lower, or a position of the program under
construction that does not exist, where the builder's indexing panics. -/
inductive Fault where
  | lowering (e : LowerError)
  | outOfRange (length index : Nat)
deriving Repr, Inhabited

def Fault.panicMessage (length index : Nat) : String :=
  "index out of bounds: the len is " ++ toString length ++ " but the index is " ++ toString index

end Isel.Lower
