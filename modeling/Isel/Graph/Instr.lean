/-!
# Instructions of the control-flow graph

Three-address instructions over typed operands. An instruction that defines a value names
its destination variable. Four instructions end a block: `br`, `condbr`, `ret` and `invoke`;
the successors of a block are the targets of its terminator, an `invoke` going on to its
normal block and, if the call throws, to its landing block. Blocks, functions and classes
are named by their positions.
-/

namespace Isel.Graph

/-- The types of the graph. -/
inductive Ty where
  | void
  | boolean
  | byte
  | short
  | int
  | long
  | float
  | double
  | char
  | ptr
  | klassPtr (klass : Nat)
  | string
deriving Repr, DecidableEq, Inhabited

namespace Ty

def byteSize (pointerSize : Nat) : Ty → Nat
  | .void => 0
  | .boolean | .byte => 1
  | .short | .char => 2
  | .int | .float => 4
  | .long | .double => 8
  | .ptr | .klassPtr _ | .string => pointerSize

def isInteger : Ty → Bool
  | .byte | .short | .int | .long => true
  | _ => false

def isFloating : Ty → Bool
  | .float | .double => true
  | _ => false

/-- `void`, `i1`, `i8`, `i16`, `i32`, `i64`, `f32`, `f64`, `char`, `ptr`, `ptr<klassN>`, `str`. -/
def display : Ty → String
  | .void => "void"
  | .boolean => "i1"
  | .byte => "i8"
  | .short => "i16"
  | .int => "i32"
  | .long => "i64"
  | .float => "f32"
  | .double => "f64"
  | .char => "char"
  | .ptr => "ptr"
  | .klassPtr k => "ptr<klass" ++ toString k ++ ">"
  | .string => "str"

end Ty

/-- A named, typed variable. -/
structure Var where
  ty : Ty
  name : String
deriving Repr, DecidableEq, Inhabited

mutual

/-- The value of a constant. -/
inductive ConstValue where
  | null
  | bool (b : Bool)
  | int (v : Int)
  | float (x : Float)
  | char (c : Char)
  | string (s : String)
  | symbol (name : String)
  | elements (items : List Operand)

/-- An operand of an instruction. -/
inductive Operand where
  | var (v : Var)
  | const (ty : Ty) (value : ConstValue)
  | null
  | unit

end

instance : Inhabited Operand := ⟨.unit⟩

def Operand.ty : Operand → Ty
  | .var v => v.ty
  | .const ty _ => ty
  | .null => .ptr
  | .unit => .void

def Operand.bool (b : Bool) : Operand := .const .boolean (.bool b)

def Operand.int (ty : Ty) (v : Int) : Operand := .const ty (.int v)

def Operand.symbol (name : String) : Operand := .const .ptr (.symbol name)

/-- Integer arithmetic. -/
inductive BinOp where
  | add
  | sub
  | mul
  | sdiv
  | srem
deriving Repr, DecidableEq, Inhabited

/-- Comparisons. -/
inductive CmpOp where
  | icmpEq
  | icmpNe
  | fcmpEq
deriving Repr, DecidableEq, Inhabited

/-- The two type tests. -/
inductive TestKind where
  | isInstance
  | notInstance
deriving Repr, DecidableEq, Inhabited

/-- An instruction. -/
inductive Instr where
  | binary (op : BinOp) (dst : Var) (lhs rhs : Operand)
  | compare (op : CmpOp) (dst : Var) (lhs rhs : Operand)
  | load (dst : Var) (address : Operand) (offset : Nat)
  | store (value address : Operand) (offset : Nat)
  | alloc (dst : Var) (klass : Nat)
  | call (callee : Nat) (dst : Option Var) (args : List Operand)
  | invoke (callee : Nat) (dst : Option Var) (args : List Operand) (normal landing : Nat)
  | cast (dst : Var) (value : Operand)
  | trunc (dst : Var) (value : Operand)
  | sext (dst : Var) (value : Operand)
  | bitcast (dst : Var) (value : Operand)
  | gep (dst : Var) (base offset : Operand)
  | br (target : Nat)
  | condBr (cond : Operand) (ifTrue ifFalse : Nat)
  | ret (value : Operand)
  | mov (dst : Var) (value : Operand)
  | landingPad (dst : Var)
  | typeTest (kind : TestKind) (dst : Var) (value : Operand) (ty : Ty)

instance : Inhabited Instr := ⟨.ret .unit⟩

namespace Instr

def isTerminal : Instr → Bool
  | .br _ | .condBr _ _ _ | .ret _ | .invoke _ _ _ _ _ => true
  | _ => false

def dst? : Instr → Option Var
  | .binary _ d _ _ | .compare _ d _ _ | .load d _ _ | .alloc d _ | .cast d _ | .trunc d _
  | .sext d _ | .bitcast d _ | .gep d _ _ | .mov d _ | .landingPad d | .typeTest _ d _ _ => some d
  | .call _ d _ | .invoke _ d _ _ _ => d
  | .store _ _ _ | .br _ | .condBr _ _ _ | .ret _ => none

def successors : Instr → List Nat
  | .br t => [t]
  | .condBr _ t f => [t, f]
  | .invoke _ _ _ n l => [n, l]
  | _ => []

def callee? : Instr → Option Nat
  | .call c _ _ | .invoke c _ _ _ _ => some c
  | _ => none

def landing? : Instr → Option Nat
  | .invoke _ _ _ _ l => some l
  | _ => none

end Instr

end Isel.Graph
