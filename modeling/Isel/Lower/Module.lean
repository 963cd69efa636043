import Isel.Lower.Expr

/-!
# Selecting a module

Declarations are visited in order, class members right after their class. A class is
registered as it is met; a function is registered under its declared signature and, if it
has a body, gets a fresh `entry` block, its parameters bound to the locals they declare, and
its body lowered; a block left open returns the body's value (`unit` for `Unit` and
`Nothing`). A top-level field with an initializer appends to the global initializer, which
is closed with `ret unit` at the end.

The first hard failure ends selection; the soft failures found before it are dropped with
the program.
-/

namespace Isel.Lower

open Isel.Tree (FunctionDecl FieldDecl Decl Module)
open Isel.Graph (Operand Program)

/-- The result of selection: the program and the soft failures, in order. -/
structure Selection where
  program : Program
  diagnostics : List Diagnostic

/-- Selects one function declaration. Fake overrides are skipped; a function without body
is only registered. -/
def selectFunction (d : FunctionDecl) : LowerM Unit := do
  if d.origin == .fakeOverride then return
  let fn ← declaredFunction d.defId d.name [] .void
  let some body := d.body | return
  beginFunction fn
  modifyFunction fn fun f => { f with span := d.span }
  modify fun s => { s with env := [], loops := [], landing := none, current := some d }
  let params := (← currentFunction).params
  (d.params.zip params).forM fun (p, v) => bindLocal p.var (.var v)
  let value ← match body with
    | .expression e => lowerExpr e
    | .block stmts => do
      stmts.forM fun e => do
        let _ ← lowerExpr e
      pure .unit
    | .synthetic => throw (.lowering (.unsupportedBody d.name d.span))
  unless ← isTerminated do
    let _ ← emit (.ret (if d.returnTy == .unit || d.returnTy == .nothing then .unit else value))
  modify fun s => { s with current := none }

/-- Appends the initializer of a top-level field to the global initializer: the value is
stored at the symbol of the field's name. Fields of classes and fields without initializer
add nothing. -/
def visitField (f : FieldDecl) : LowerM Unit := do
  let some init := f.init | return
  if f.containingClass.isSome then return
  let s ← get
  let saved := s
  set { s with env := [], landing := none, current := none, cursor := s.globalCursor }
  let value ← lowerExpr init
  let _ ← emit (.store value (Operand.symbol f.name) 0)
  modify fun s =>
    { s with
      globalCursor := s.cursor
      cursor := saved.cursor
      env := saved.env
      landing := saved.landing
      current := saved.current }

mutual

def visitDecl : Decl → LowerM Unit
  | .klass c members => do
    let _ ← klassId c.defId
    visitDecls members
  | .function f => selectFunction f
  | .field f => visitField f

def visitDecls : List Decl → LowerM Unit
  | [] => pure ()
  | d :: ds => do
    visitDecl d
    visitDecls ds

end

def finishGlobalInit : LowerM Unit := do
  modify fun s => { s with cursor := s.globalCursor }
  unless ← isTerminated do
    let _ ← emit (.ret .unit)

/-- Selects a whole module under a configuration: the selection, the first hard failure, or
a panic of the builder. -/
def select (m : Module) (cfg : Config) : Except Fault Selection := do
  let ctx : Context := ⟨(Decl.flatten m.decls).reverse, cfg.pointerSize⟩
  let ((), s) ← ((visitDecls m.decls *> finishGlobalInit).run ctx).run (State.start cfg.globalInitName)
  pure ⟨s.program, s.diagnostics⟩

/-- Selection as its callers report it: the selection or the first hard failure. A panic has
no report of its own: selection never panics, and the default value stands where the builder
would stop. -/
def selectModule (m : Module) (cfg : Config) : Except LowerError Selection :=
  match select m cfg with
  | .ok sel => .ok sel
  | .error (.lowering e) => .error e
  | .error (.outOfRange ..) => default

end Isel.Lower
