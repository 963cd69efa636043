import Isel.Span
import Isel.Tree.Type

/-!
# Expressions of the typed tree

An expression is a kind, the type the checker gave it, and its source span. Calls name their
target by `DefId`; locals, loops and fields are resolved the same way. `StringConcat`,
`ClassReference`, `FunctionReference` and `EnumEntry` are produced by the front end but are
meant to be lowered by earlier passes.
-/

namespace Isel.Tree

/-- A literal constant. -/
inductive Literal where
  | null
  | boolean (b : Bool)
  /-- An 8-bit integer. -/
  | byte (v : Int)
  /-- A 16-bit integer. -/
  | short (v : Int)
  /-- A 32-bit integer. -/
  | int (v : Int)
  /-- A 64-bit integer. -/
  | long (v : Int)
  | float (v : Float32)
  | double (v : Float)
  | char (c : Char)
  | string (s : String)
deriving Repr, Inhabited

/-- Operators that take one argument and a type. -/
inductive TypeOp where
  /-- Unchecked reinterpretation: `x as T`. -/
  | cast
  /-- A checked cast that gives null on failure: `x as? T`. -/
  | safeCast
  /-- A cast inserted by the type checker; it keeps the value. -/
  | implicitCast
  /-- A non-null assertion inserted by the type checker. -/
  | implicitNotNull
  /-- Evaluate and discard the value. -/
  | coercionToUnit
  /-- Widen or narrow an integer to another integer width. -/
  | integerCoercion
  /-- `x is T`. -/
  | instanceOf
  /-- `x !is T`. -/
  | notInstanceOf
deriving Repr, DecidableEq, Inhabited

/-- What kind of callable a call resolves to. -/
inductive CalleeKind where
  /-- An ordinary function or method. -/
  | function
  /-- A function declared as an operator (`plus`, `minus`, …). -/
  | operator
  /-- A function with a fixed lowering rule, looked up by its qualified name. -/
  | intrinsic
  /-- The initializer of a class. -/
  | constructor (cls : DefId)
deriving Repr, DecidableEq, Inhabited

/-- The resolved target of a call. -/
structure Callee where
  defId : DefId
  /-- The simple name of a function or operator; the qualified name of an intrinsic. -/
  name : String
  kind : CalleeKind
deriving Repr, Inhabited

/-- A reference to a field declaration. -/
structure FieldRef where
  defId : DefId
  name : String
deriving Repr, Inhabited

mutual

/-- A typed expression. -/
inductive Expr where
  | node (kind : ExprKind) (ty : Ty) (span : Span)

/-- The kind of an expression. -/
inductive ExprKind where
  | literal (v : Literal)
  /-- `arg op operand`. -/
  | typeOp (op : TypeOp) (arg : Expr) (operand : Ty)
  /-- A call of a function, operator, intrinsic or constructor. The arguments are evaluated
  in order: dispatch receiver, extension receiver, value arguments. -/
  | call (callee : Callee) (dispatch : Option Expr) (extension : Option Expr) (args : List Expr)
  /-- `super(…)` or `this(…)` from inside a constructor. -/
  | delegatingCall (callee : Callee) (args : List Expr)
  /-- Marks where a class's property initializers run. -/
  | instanceInit (cls : DefId)
  /-- A sequence of statements; its value is that of the last. -/
  | block (stmts : List Expr)
  | whileLoop (loop : LoopId) (cond : Expr) (body : Option Expr)
  | doWhile (loop : LoopId) (cond : Expr) (body : Option Expr)
  | breakLoop (loop : LoopId)
  | continueLoop (loop : LoopId)
  /-- Return `value` from the function `target`. -/
  | ret (target : DefId) (value : Expr)
  /-- A conditional of several arms, tried in order. -/
  | whenArms (arms : List Arm)
  /-- The declaration of a local variable. -/
  | declare (var : LocalId) (name : String) (varTy : Ty) (init : Option Expr)
  /-- An assignment to a local variable. -/
  | assign (var : LocalId) (name : String) (value : Expr)
  /-- A read of a parameter or local variable. -/
  | read (var : LocalId) (name : String)
  | vararg (elems : List VarargElem)
  | throw (value : Expr)
  | tryCatch (body : Expr) (catches : List Catch)
  | getField (field : FieldRef) (receiver : Option Expr)
  | setField (field : FieldRef) (receiver : Option Expr) (value : Expr)
  /-- The instance of a singleton class. -/
  | objectValue (cls : DefId)
  | stringConcat (args : List Expr)
  | classReference (cls : DefId)
  | functionReference (fn : DefId)
  | enumEntry (cls : DefId) (name : String)

/-- One arm of a `when`: its guard and its result. -/
inductive Arm where
  | mk (cond : Expr) (result : Expr)

/-- One catch clause: the local bound to the exception, its name, the type tested, the
handler. -/
inductive Catch where
  | mk (param : LocalId) (name : String) (ty : Ty) (result : Expr)

/-- An element of a vararg list. -/
inductive VarargElem where
  | value (e : Expr)
  /-- `*array`; it must be lowered before selection. -/
  | spread (e : Expr)

end

namespace Expr

def kind : Expr → ExprKind
  | .node k _ _ => k

def ty : Expr → Ty
  | .node _ t _ => t

def span : Expr → Span
  | .node _ _ s => s

def isTrueLiteral : Expr → Bool
  | .node (.literal (.boolean true)) _ _ => true
  | _ => false

end Expr

end Isel.Tree
