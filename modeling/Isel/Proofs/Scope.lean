import Isel.Proofs.Run

/-! # Scoped trees

What selection assumes of a tree for the variables it uses to be defined. Every read is of a
local in scope: the statements of a block see the locals declared before them in it, a handler
sees the parameters of its catch clauses, and a body its parameters. Every declaration
introduces a local that is not in scope already, and so is every catch parameter. Every `when`
that has a value ends in an arm guarded by the literal `true`.

Assignments write variables named after their locals; `Expr.assigned` lists those names.
-/

namespace Isel.Tree

def Expr.declared : Expr → List LocalId
  | .node (.declare l _ _ _) _ _ => [l]
  | _ => []

mutual

/-- Whether every local the expression reads is in scope `Δ` and every local it declares is
not. -/
def Expr.scoped (Δ : List LocalId) : Expr → Bool
  | .node k _ _ => k.scoped Δ

def ExprKind.scoped (Δ : List LocalId) : ExprKind → Bool
  | .literal _ | .instanceInit _ | .breakLoop _ | .continueLoop _ | .objectValue _
  | .classReference _ | .functionReference _ | .enumEntry _ _ => true
  | .typeOp _ a _ | .ret _ a | .assign _ _ a | .throw a => a.scoped Δ
  | .call _ d x args => Expr.optScoped Δ d && Expr.optScoped Δ x && Expr.listScoped Δ args
  | .delegatingCall _ args | .stringConcat args => Expr.listScoped Δ args
  | .block stmts => Expr.blockScoped Δ stmts
  | .whileLoop _ c b | .doWhile _ c b => c.scoped Δ && Expr.optScoped Δ b
  | .whenArms arms => Arm.listScoped Δ arms
  | .declare l _ _ init => !decide (l ∈ Δ) && Expr.optScoped Δ init
  | .read l _ => decide (l ∈ Δ)
  | .vararg elems => VarargElem.listScoped Δ elems
  | .tryCatch body cs => body.scoped Δ && Catch.listScoped Δ (cs.map Catch.param ++ Δ) cs
  | .getField _ r => Expr.optScoped Δ r
  | .setField _ r v => Expr.optScoped Δ r && v.scoped Δ

def Expr.optScoped (Δ : List LocalId) : Option Expr → Bool
  | none => true
  | some e => e.scoped Δ

def Expr.listScoped (Δ : List LocalId) : List Expr → Bool
  | [] => true
  | e :: es => e.scoped Δ && Expr.listScoped Δ es

def Expr.blockScoped (Δ : List LocalId) : List Expr → Bool
  | [] => true
  | e :: es => e.scoped Δ && Expr.blockScoped (e.declared ++ Δ) es

def Arm.listScoped (Δ : List LocalId) : List Arm → Bool
  | [] => true
  | .mk c r :: arms => c.scoped Δ && r.scoped Δ && Arm.listScoped Δ arms

def Catch.listScoped (Δ Δh : List LocalId) : List Catch → Bool
  | [] => true
  | .mk p _ _ r :: cs => !decide (p ∈ Δ) && r.scoped Δh && Catch.listScoped Δ Δh cs

def VarargElem.listScoped (Δ : List LocalId) : List VarargElem → Bool
  | [] => true
  | .value e :: es | .spread e :: es => e.scoped Δ && VarargElem.listScoped Δ es

end

mutual

def Expr.nodes : Expr → List Expr
  | .node k ty span => .node k ty span :: k.nodes

def ExprKind.nodes : ExprKind → List Expr
  | .literal _ | .instanceInit _ | .breakLoop _ | .continueLoop _ | .read _ _ | .objectValue _
  | .classReference _ | .functionReference _ | .enumEntry _ _ => []
  | .typeOp _ a _ | .ret _ a | .assign _ _ a | .throw a => a.nodes
  | .call _ d x args => Expr.optNodes d ++ Expr.optNodes x ++ Expr.listNodes args
  | .delegatingCall _ args | .stringConcat args | .block args => Expr.listNodes args
  | .whileLoop _ c b | .doWhile _ c b => c.nodes ++ Expr.optNodes b
  | .whenArms arms => Arm.listNodes arms
  | .declare _ _ _ init | .getField _ init => Expr.optNodes init
  | .vararg elems => VarargElem.listNodes elems
  | .tryCatch body cs => body.nodes ++ Catch.listNodes cs
  | .setField _ r v => Expr.optNodes r ++ v.nodes

def Expr.optNodes : Option Expr → List Expr
  | none => []
  | some e => e.nodes

def Expr.listNodes : List Expr → List Expr
  | [] => []
  | e :: es => e.nodes ++ Expr.listNodes es

def Arm.listNodes : List Arm → List Expr
  | [] => []
  | .mk c r :: arms => c.nodes ++ r.nodes ++ Arm.listNodes arms

def Catch.listNodes : List Catch → List Expr
  | [] => []
  | .mk _ _ _ r :: cs => r.nodes ++ Catch.listNodes cs

def VarargElem.listNodes : List VarargElem → List Expr
  | [] => []
  | .value e :: es | .spread e :: es => e.nodes ++ VarargElem.listNodes es

end

theorem Catch.param_not_mem_of_listScoped {Δ Δh : List LocalId} :
    ∀ {cs : List Catch}, Catch.listScoped Δ Δh cs = true → ∀ c ∈ cs, c.param ∉ Δ
  | [], _ => fun _ hc => absurd hc List.not_mem_nil
  | .mk p _ _ _ :: cs, h => by
    simp only [Catch.listScoped, Bool.and_eq_true, Bool.not_eq_true', decide_eq_false_iff_not] at h
    intro c hc
    rcases List.mem_cons.1 hc with rfl | hc
    · exact h.1.1
    · exact Catch.param_not_mem_of_listScoped h.2 c hc

def Arm.cond : Arm → Expr
  | .mk c _ => c

def Expr.whenTotal : Expr → Bool
  | .node (.whenArms arms) ty _ =>
    ty == .unit || ty == .nothing || (arms.getLast?.map (·.cond.isTrueLiteral)).getD false
  | _ => true

def Expr.assignedName? : Expr → Option String
  | .node (.assign _ name _) _ _ => some name
  | _ => none

def Expr.assigned (e : Expr) : List String := e.nodes.filterMap Expr.assignedName?

/-! ## Declarations -/

def Body.scoped (Δ : List LocalId) : Body → Bool
  | .expression e => e.scoped Δ
  | .block stmts => Expr.blockScoped Δ stmts
  | .synthetic => true

def Body.nodes : Body → List Expr
  | .expression e => e.nodes
  | .block stmts => Expr.listNodes stmts
  | .synthetic => []

/-- Whether what a declaration lowers is scoped: a function body sees the locals of its
parameters, a field initializer no local. -/
def Decl.scoped : Decl → Bool
  | .function f => f.body.all (·.scoped (f.params.map (·.var)))
  | .field f => f.init.all (·.scoped [])
  | .klass _ _ => true

def Decl.nodes : Decl → List Expr
  | .function f => (f.body.map Body.nodes).getD []
  | .field f => (f.init.map Expr.nodes).getD []
  | .klass _ _ => []

/-- The nodes of every body and initializer of a module, those of class members included. -/
def Module.nodes (m : Module) : List Expr := (Decl.flatten m.decls).flatMap Decl.nodes

def Module.scoped (m : Module) : Bool := (Decl.flatten m.decls).all Decl.scoped

/-- The names of the locals that assignments of the module write. -/
def Module.assigned (m : Module) : List String := m.nodes.filterMap Expr.assignedName?

end Isel.Tree
