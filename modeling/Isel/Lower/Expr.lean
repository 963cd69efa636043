import Isel.Lower.State
import Isel.Lower.Intrinsic

/-!
# Selecting expressions

Every expression is lowered at the cursor to the operand that holds its value. Arguments are
evaluated left to right: the dispatch receiver, the extension receiver, then the value
arguments. A call is, in this order of preference, an intrinsic, arithmetic on values (an
operator named `plus`, `minus`, `times`, `div`, `rem` or `mod` with a receiver, one argument
and only value types), a constructor call (allocate, then run the initializer on the new
object), or an ordinary call. Inside a `try` with handlers a call becomes an `invoke` that
continues in a fresh `invoke.cont` block.

Conditionals and `try` share one shape: a result variable unless the type is `Unit` or
`Nothing`, an exit block made first, and every arm that is still open moving its value into
the result and branching to the exit.

Nodes that earlier passes should have removed are soft failures: a warning is recorded and
the node's value is `null` (or `unit`). Nodes that cannot be lowered at all stop selection
with a `LowerError`.
-/

namespace Isel.Lower

open Isel.Tree (DefId LocalId Expr ExprKind Arm Catch VarargElem Literal Callee FieldRef)
open Isel.Graph (Operand Instr Var BinOp CmpOp)

def literalOperand : Literal → Operand
  | .null => .null
  | .boolean b => Operand.bool b
  | .byte v => Operand.int .byte v
  | .short v => Operand.int .short v
  | .int v => Operand.int .int v
  | .long v => Operand.int .long v
  | .float v => .const .float (.float v.toFloat)
  | .double v => .const .double (.float v)
  | .char c => .const .char (.char c)
  | .string s => .const .string (.string s)

def binOpOf? : String → Option BinOp
  | "plus" => some .add
  | "minus" => some .sub
  | "times" => some .mul
  | "div" => some .sdiv
  | "rem" | "mod" => some .srem
  | _ => none

/-- Whether an operator call works on values only: a dispatch receiver, no extension
receiver, one argument, and every operand of a value type. -/
def isValueOperator (dispatch extension : Option Expr) (args : List Expr) : Bool :=
  match dispatch, extension, args with
  | some d, none, [a] => d.ty.isValue && a.ty.isValue
  | _, _, _ => false

/-- How a call is selected. -/
inductive CallShape where
  | intrinsic
  | arithmetic (op : BinOp)
  | construct (cls : DefId)
  | plain

def CallShape.of (callee : Callee) (dispatch extension : Option Expr) (args : List Expr) :
    CallShape :=
  let arith := match callee.kind with
    | .operator => if isValueOperator dispatch extension args then binOpOf? callee.name else none
    | _ => none
  match callee.kind, arith with
  | .intrinsic, _ => .intrinsic
  | _, some op => .arithmetic op
  | .constructor cls, _ => .construct cls
  | _, none => .plain

def calleeFor (callee : Callee) (args : List Operand) (ret : Graph.Ty) : LowerM Nat :=
  declaredFunction callee.defId callee.name (args.map Operand.ty) ret

/-- A call, or an `invoke` inside a protected region; its result variable, or `unit` for
`void`. -/
def generateCall (callee : Nat) (ret : Graph.Ty) (args : List Operand) : LowerM Operand := do
  let dst ← if ret == .void then pure none else some <$> freshVar ret
  match (← get).landing with
  | some landing =>
    let normal ← newBlock "invoke.cont"
    let _ ← emit (.invoke callee dst args normal landing)
    switchTo normal
  | none =>
    let _ ← emit (.call callee dst args)
  pure ((dst.map Operand.var).getD .unit)

/-- An integer coercion of a lowered value: kept if it is no integer or already has the
target's width, else truncated or sign-extended. -/
def coerceInteger (value : Operand) (target : Tree.Ty) : LowerM Operand := do
  if !value.ty.isInteger then return value
  let t ← lowerType target
  let ps := (← read).pointerSize
  let source := value.ty.byteSize ps
  let wanted := t.byteSize ps
  if source == wanted then return value
  let dst ← freshVar t
  emit (if wanted < source then .trunc dst value else .sext dst value)

def applyIntrinsic (intr : Intrinsic) (name : String) (args : List Operand) (ty : Tree.Ty)
    (span : Span) : LowerM Operand := do
  if let some n := intr.arity then
    if args.length != n then throw (.lowering (.intrinsicArity name n args.length span))
  let arg (i : Nat) : Operand := args.getD i .unit
  match intr with
  | .areEqualByValue =>
    let op := if (arg 0).ty.isFloating then CmpOp.fcmpEq else CmpOp.icmpEq
    let dst ← freshVar .boolean
    emit (.compare op dst (arg 0) (arg 1))
  | .getContinuation => pure .unit
  | .interpretPointer | .rawValue => pure (arg 0)
  | .readPrimitive =>
    let t ← lowerType ty
    let p ← freshVar .ptr
    let pointer ← emit (.bitcast p (arg 1))
    let dst ← freshVar t
    emit (.load dst pointer 0)
  | .writePrimitive =>
    let p ← freshVar .ptr
    let pointer ← emit (.bitcast p (arg 1))
    let _ ← emit (.store (arg 2) pointer 0)
    pure .unit
  | .ptrPlusLong =>
    let dst ← freshVar .ptr
    emit (.gep dst (arg 0) (arg 1))
  | .nullPtr => pure (.const .ptr .null)
  | .pointerSize => pure (Operand.int .int (← read).pointerSize)
  | .ptrToLong =>
    let t ← lowerType ty
    if (arg 0).ty == t then pure (arg 0)
    else
      let dst ← freshVar t
      emit (.sext dst (arg 0))

def fieldOffset (field : FieldRef) (receiverTy : Tree.Ty) (span : Span) : LowerM Nat := do
  let some cls := receiverTy.classOf?
    | throw (.lowering (.primitiveReceiver field.name receiverTy span))
  let k ← klassId cls
  match ((← get).program.klasses[k]?).bind (·.layout.offsetOf? field.name) with
  | some off => pure off
  | none => throw (.lowering (.unknownField (← className cls) field.name span))

/-- The instance of a singleton class: `unit` for a class declared as a unit singleton;
otherwise a load of its cached instance, with an initialization branch that is reported as
not generated. -/
def objectValue (cls : DefId) (span : Span) : LowerM Operand := do
  if ((← classInfo? cls).map (·.isSingleton)).getD false then return .unit
  let k ← klassId cls
  let name ← className cls
  let inst ← freshVar (.klassPtr k)
  let _ ← emit (.load inst (Operand.symbol (name ++ ".instance")) 0)
  let ok ← freshVar .boolean
  let _ ← emit (.compare .icmpNe ok (.var inst) .null)
  let cont ← newBlock "object.continue"
  let init ← newBlock "object.init"
  let _ ← emit (.condBr (.var ok) cont init)
  switchTo init
  softFailure .singletonInit ("initialization of singleton `" ++ name ++ "` is not generated") span
  let _ ← emit (.br cont)
  switchTo cont
  pure (.var inst)

def unsupportedNode (what : String) (span : Span) : LowerM Operand := do
  softFailure .unsupportedNode ("no selection routine for " ++ what) span
  pure .null

def resultVar (ty : Tree.Ty) : LowerM (Option Var) := do
  if ty == .unit || ty == .nothing then pure none
  else some <$> (freshVar (← lowerType ty))

def findLoop (loop : Tree.LoopId) (exit : LoopExit) (span : Span) : LowerM LoopFrame := do
  match (← get).loops.find? (·.loop == loop) with
  | some fr => pure fr
  | none => throw (.lowering (.loopNotFound exit span))

mutual

def lowerExpr : Expr → LowerM Operand
  | .node kind ty span => lowerKind kind ty span

def lowerKind : ExprKind → Tree.Ty → Span → LowerM Operand
  | .literal v, _, _ => pure (literalOperand v)
  | .typeOp op arg operand, _, span =>
    match op with
    | .cast | .safeCast => do
      let value ← lowerExpr arg
      let t ← lowerType operand
      let dst ← freshVar t
      emit (.cast dst value)
    | .implicitCast => lowerExpr arg
    | .implicitNotNull => do
      let _ ← lowerExpr arg
      softFailure .unfinishedCoercion "implicit not-null coercion is not lowered" span
      pure .null
    | .coercionToUnit => do
      let _ ← lowerExpr arg
      pure .unit
    | .integerCoercion => do
      if !operand.isInteger then throw (.lowering (.nonIntegerCoercion operand span))
      let value ← lowerExpr arg
      coerceInteger value operand
    | .instanceOf | .notInstanceOf => do
      let value ← lowerExpr arg
      let t ← lowerType operand
      let dst ← freshVar .boolean
      emit (.typeTest (if op == .instanceOf then .isInstance else .notInstance) dst value t)
  | .call callee dispatch extension args, ty, span =>
    match CallShape.of callee dispatch extension args with
    | .intrinsic => do
      let some intr := Intrinsic.ofName? callee.name
        | throw (.lowering (.unknownIntrinsic callee.name span))
      let d ← lowerOpt dispatch
      let e ← lowerOpt extension
      let a ← lowerList args
      applyIntrinsic intr callee.name (d.toList ++ e.toList ++ a) ty span
    | .arithmetic op => do
      let d ← lowerOpt dispatch
      let e ← lowerOpt extension
      let a ← lowerList args
      let ops := d.toList ++ e.toList ++ a
      let t ← lowerType ty
      let dst ← freshVar t
      emit (.binary op dst (ops.getD 0 .unit) (ops.getD 1 .unit))
    | .construct cls => do
      let k ← klassId cls
      let obj ← freshVar (.klassPtr k)
      let _ ← emit (.alloc obj k)
      let d ← lowerOpt dispatch
      let e ← lowerOpt extension
      let a ← lowerList args
      let ops := Operand.var obj :: (d.toList ++ e.toList ++ a)
      let fn ← calleeFor callee ops .void
      let _ ← generateCall fn .void ops
      pure (.var obj)
    | .plain => do
      let d ← lowerOpt dispatch
      let e ← lowerOpt extension
      let a ← lowerList args
      let ops := d.toList ++ e.toList ++ a
      let ret ← lowerType ty
      let fn ← calleeFor callee ops ret
      generateCall fn ret ops
  | .delegatingCall callee args, _, span => do
    let f ← currentFunction
    let some receiver := f.params.head? | throw (.lowering (.missingReceiver f.name span))
    let a ← lowerList args
    let ops := Operand.var receiver :: a
    let fn ← calleeFor callee ops .void
    generateCall fn .void ops
  | .instanceInit _, _, _ => pure .unit
  | .block stmts, _, _ => lowerBlock stmts
  | .whileLoop loop cond body, _, _ => do
    let check ← newBlock "while.check"
    let bodyBlock ← newBlock "while.body"
    let exit ← newBlock "while.exit"
    let _ ← emit (.br check)
    switchTo check
    let c ← lowerExpr cond
    let _ ← emit (.condBr c bodyBlock exit)
    pushLoop ⟨loop, check, exit⟩
    switchTo bodyBlock
    let _ ← lowerOpt body
    jumpIfOpen check
    popLoop
    switchTo exit
    pure .unit
  | .doWhile loop cond body, _, _ => do
    let check ← newBlock "do.check"
    let bodyBlock ← newBlock "do.body"
    let exit ← newBlock "do.exit"
    let _ ← emit (.br bodyBlock)
    pushLoop ⟨loop, check, exit⟩
    switchTo bodyBlock
    let _ ← lowerOpt body
    jumpIfOpen check
    switchTo check
    let c ← lowerExpr cond
    let _ ← emit (.condBr c bodyBlock exit)
    popLoop
    switchTo exit
    pure .unit
  | .breakLoop loop, _, span => do
    let fr ← findLoop loop .breakLoop span
    let _ ← emit (.br fr.exit)
    pure .unit
  | .continueLoop loop, _, span => do
    let fr ← findLoop loop .continueLoop span
    let _ ← emit (.br fr.check)
    pure .unit
  | .ret target value, _, _ => do
    let v ← lowerExpr value
    let _ ← emit (.ret v)
    if ← returnsUnit target then pure .unit else pure v
  | .whenArms arms, ty, _ => do
    let result ← resultVar ty
    let exit ← newBlock "when.exit"
    lowerArms arms result exit
    if (← get).cursor.block != exit then jumpIfOpen exit
    switchTo exit
    pure ((result.map Operand.var).getD .unit)
  | .declare var _ _ init, _, _ => do
    let v ← lowerOpt init
    bindLocal var (v.getD .null)
    pure .unit
  | .assign var name value, _, _ => do
    let v ← lowerExpr value
    let slot : Var := ⟨v.ty, name⟩
    let _ ← emit (.mov slot v)
    bindLocal var (.var slot)
    pure .unit
  | .read var name, _, span => do
    match (← get).env.lookup var with
    | some o => pure o
    | none =>
      softFailure .unresolvedVariable
        ("read of `" ++ name ++ "` (" ++ var.display ++ ") has no binding") span
      pure .unit
  | .vararg elems, ty, _ => do
    let vs ← lowerVararg elems
    let t ← lowerType ty
    pure (.const t (.elements vs))
  | .throw value, _, span => do
    let _ ← lowerExpr value
    softFailure .throwPropagation "exception propagation for `throw` is not generated" span
    pure .null
  | .tryCatch body catches, ty, _ => do
    let result ← resultVar ty
    let exit ← newBlock "try.exit"
    let outer := (← get).landing
    if !catches.isEmpty then
      let saved := (← get).cursor
      let header ← newBlock "catch.header"
      switchTo header
      let exn ← freshVar .ptr
      let _ ← emit (.landingPad exn)
      catches.forM fun (.mk param _ _ _) => bindLocal param (.var exn)
      lowerHandlers catches (.var exn) result exit
      modify fun s => { s with cursor := saved }
      setLanding (some header)
    let v ← lowerExpr body
    finishArm v result exit
    setLanding outer
    switchTo exit
    pure ((result.map Operand.var).getD .unit)
  | .getField field receiver, ty, span => do
    let (address, offset) ← match receiver with
      | none => pure (Operand.symbol field.name, 0)
      | some r => do
        let offset ← fieldOffset field r.ty span
        let obj ← lowerExpr r
        pure (obj, offset)
    let t ← lowerType ty
    let dst ← freshVar t
    emit (.load dst address offset)
  | .setField field receiver value, _, span => do
    let (address, offset) ← match receiver with
      | none => pure (Operand.symbol field.name, 0)
      | some r => do
        let offset ← fieldOffset field r.ty span
        let obj ← lowerExpr r
        pure (obj, offset)
    let v ← lowerExpr value
    let _ ← emit (.store v address offset)
    pure .unit
  | .objectValue cls, _, span => objectValue cls span
  | .stringConcat _, _, span => unsupportedNode "string concatenation" span
  | .classReference _, _, span => unsupportedNode "class reference" span
  | .functionReference _, _, span => unsupportedNode "function reference" span
  | .enumEntry _ _, _, span => unsupportedNode "enum entry" span

def lowerOpt : Option Expr → LowerM (Option Operand)
  | none => pure none
  | some e => some <$> lowerExpr e

def lowerList : List Expr → LowerM (List Operand)
  | [] => pure []
  | e :: es => do
    let v ← lowerExpr e
    let vs ← lowerList es
    pure (v :: vs)

def lowerBlock : List Expr → LowerM Operand
  | [] => pure .unit
  | [e] => lowerExpr e
  | e :: es => do
    let _ ← lowerExpr e
    lowerBlock es

/-- Lowers the arms of a `when`, each guard branching to its arm or to the next test (to the
exit after the last). An arm whose guard is the literal `true` is entered without a test and
ends the chain. -/
def lowerArms : List Arm → Option Var → Nat → LowerM Unit
  | [], _, _ => pure ()
  | .mk cond res :: rest, result, exit => do
    if cond.isTrueLiteral then
      let v ← lowerExpr res
      finishArm v result exit
    else
      let c ← lowerExpr cond
      let arm ← newBlock "when.arm"
      let next ← if rest.isEmpty then pure exit else newBlock "when.next"
      let _ ← emit (.condBr c arm next)
      switchTo arm
      let v ← lowerExpr res
      finishArm v result exit
      switchTo next
      lowerArms rest result exit

/-- Lowers the handlers of a `try` after its landing pad: every handler but the last is
entered when the exception is an instance of its type; the last is entered otherwise. -/
def lowerHandlers : List Catch → Operand → Option Var → Nat → LowerM Unit
  | [], _, _, _ => pure ()
  | [.mk _ _ _ res], _, result, exit => do
    let v ← lowerExpr res
    finishArm v result exit
  | .mk _ _ ty res :: rest, exn, result, exit => do
    let t ← lowerType ty
    let caught ← freshVar .boolean
    let _ ← emit (.typeTest .isInstance caught exn t)
    let bodyBlock ← newBlock "catch.body"
    let next ← newBlock "catch.next"
    let _ ← emit (.condBr (.var caught) bodyBlock next)
    switchTo bodyBlock
    let v ← lowerExpr res
    finishArm v result exit
    switchTo next
    lowerHandlers rest exn result exit

def lowerVararg : List VarargElem → LowerM (List Operand)
  | [] => pure []
  | .value e :: rest => do
    let v ← lowerExpr e
    let vs ← lowerVararg rest
    pure (v :: vs)
  | .spread e :: _ => throw (.lowering (.spreadVararg e.span))

end

end Isel.Lower
