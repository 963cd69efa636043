import Mathlib
import Isel.Proofs.Closed

/-!
# The soft failures of selection

Selection goes on past what it cannot lower and reports it as a warning: a node kind with no
selection routine (`E0504`), a non-null assertion (`E0501`), a throw (`E0503`), the instance of a
class that is not a unit singleton (`E0502`) and a read of a local with no binding (`E0500`).
`Expr.reported` lists, in lowering order, the soft failures of a tree and the locals bound after
it, from the locals bound before it; it lowers no node that selection skips (the operands of a
string concatenation, the guard of an arm that is the literal `true` and the arms after it).

Every lowering appends exactly the warnings its tree's report lists and binds the locals it
says (`lowerExpr_reports`), so a module's diagnostics are the reports of the bodies of its
defined functions and of the initializers of its global fields, in order.
-/

namespace Isel.Lower

open Isel.Graph (Operand Var Function)
open Isel.Tree (Expr ExprKind Arm Catch VarargElem Decl LocalId DefId FunctionDecl FieldDecl)

/-- What lowering reports: its soft failures, by code and the span of the node, in order, and
the locals bound after it. -/
structure Reported where
  failures : List (Code × Span)
  bound : List LocalId

def Reported.then (r : Reported) (f : List LocalId → Reported) : Reported :=
  ⟨r.failures ++ (f r.bound).failures, (f r.bound).bound⟩

def Reported.fail (c : Code) (span : Span) (Δ : List LocalId) : Reported := ⟨[(c, span)], Δ⟩

def Context.isUnitSingleton (ctx : Context) (cls : DefId) : Bool :=
  ((ctx.classInfo? cls).map (·.isSingleton)).getD false

end Isel.Lower

namespace Isel.Tree

open Isel.Lower (Context Reported)

mutual

def Expr.reported (ctx : Context) (Δ : List LocalId) : Expr → Reported
  | .node k _ span => ExprKind.reported ctx Δ span k

def ExprKind.reported (ctx : Context) (Δ : List LocalId) (span : Span) : ExprKind → Reported
  | .literal _ | .instanceInit _ | .breakLoop _ | .continueLoop _ => ⟨[], Δ⟩
  | .typeOp .implicitNotNull a _ => (a.reported ctx Δ).then (Reported.fail .unfinishedCoercion span)
  | .typeOp _ a _ | .ret _ a => a.reported ctx Δ
  | .throw a => (a.reported ctx Δ).then (Reported.fail .throwPropagation span)
  | .call _ d x args =>
    (Expr.optReported ctx Δ d).then fun Δ => (Expr.optReported ctx Δ x).then fun Δ =>
      Expr.listReported ctx Δ args
  | .delegatingCall _ args | .block args => Expr.listReported ctx Δ args
  | .whileLoop _ c b => (c.reported ctx Δ).then fun Δ => Expr.optReported ctx Δ b
  | .doWhile _ c b => (Expr.optReported ctx Δ b).then fun Δ => c.reported ctx Δ
  | .whenArms arms => Arm.listReported ctx Δ arms
  | .declare l _ _ init => (Expr.optReported ctx Δ init).then fun Δ => ⟨[], l :: Δ⟩
  | .assign l _ a => (a.reported ctx Δ).then fun Δ => ⟨[], l :: Δ⟩
  | .read l _ => if l ∈ Δ then ⟨[], Δ⟩ else Reported.fail .unresolvedVariable span Δ
  | .vararg elems => VarargElem.listReported ctx Δ elems
  -- the handlers come first, with the catch parameters bound, then the body
  | .tryCatch body cs =>
    (Catch.listReported ctx ((cs.map Catch.param).reverse ++ Δ) cs).then fun Δ =>
      body.reported ctx Δ
  | .getField _ r => Expr.optReported ctx Δ r
  | .setField _ r v => (Expr.optReported ctx Δ r).then fun Δ => v.reported ctx Δ
  | .objectValue cls =>
    if ctx.isUnitSingleton cls then ⟨[], Δ⟩ else Reported.fail .singletonInit span Δ
  | .stringConcat _ | .classReference _ | .functionReference _ | .enumEntry _ _ =>
    Reported.fail .unsupportedNode span Δ

def Expr.optReported (ctx : Context) (Δ : List LocalId) : Option Expr → Reported
  | none => ⟨[], Δ⟩
  | some e => e.reported ctx Δ

def Expr.listReported (ctx : Context) (Δ : List LocalId) : List Expr → Reported
  | [] => ⟨[], Δ⟩
  | e :: es => (e.reported ctx Δ).then fun Δ => Expr.listReported ctx Δ es

def Arm.listReported (ctx : Context) (Δ : List LocalId) : List Arm → Reported
  | [] => ⟨[], Δ⟩
  | .mk c r :: arms =>
    if c.isTrueLiteral then r.reported ctx Δ
    else (c.reported ctx Δ).then fun Δ => (r.reported ctx Δ).then fun Δ => Arm.listReported ctx Δ arms

def Catch.listReported (ctx : Context) (Δ : List LocalId) : List Catch → Reported
  | [] => ⟨[], Δ⟩
  | .mk _ _ _ r :: cs => (r.reported ctx Δ).then fun Δ => Catch.listReported ctx Δ cs

def VarargElem.listReported (ctx : Context) (Δ : List LocalId) : List VarargElem → Reported
  | [] => ⟨[], Δ⟩
  | .value e :: es => (e.reported ctx Δ).then fun Δ => VarargElem.listReported ctx Δ es
  | .spread _ :: _ => ⟨[], Δ⟩

end

def Body.reported (ctx : Context) (Δ : List LocalId) : Body → Reported
  | .expression e => e.reported ctx Δ
  | .block stmts => Expr.listReported ctx Δ stmts
  | .synthetic => ⟨[], Δ⟩

/-- The soft failures of selecting one declaration, its members apart: the body of a function
that is no fake override, with the first `count f.defId` of its parameters bound (as many as
the function registered for it has), and the initializer of a global field, with nothing
bound. -/
def Decl.reported (ctx : Context) (count : DefId → Nat) : Decl → List (Code × Span)
  | .klass _ _ => []
  | .function f =>
    if f.origin = .fakeOverride then [] else
      match f.body with
      | some b => (b.reported ctx ((f.params.take (count f.defId)).map Param.var).reverse).failures
      | none => []
  | .field f =>
    match f.init, f.containingClass with
    | some e, none => (e.reported ctx []).failures
    | _, _ => []

/-- The soft failures of selecting a module: its declarations', members right after their
class. -/
def Module.reported (ctx : Context) (count : DefId → Nat) (m : Module) : List (Code × Span) :=
  (Decl.flatten m.decls).flatMap (Decl.reported ctx count)

end Isel.Tree

namespace Isel

def Diagnostic.summary (d : Diagnostic) : Severity × Option Code × Span := (d.severity, d.code, d.span)

end Isel

namespace Isel.Lower

open Isel.Graph (Operand Var Function)
open Isel.Tree (Expr ExprKind Arm Catch VarargElem Decl LocalId DefId FunctionDecl FieldDecl)

def softWarning (r : Code × Span) : Severity × Option Code × Span := (.warning, some r.1, r.2)

def Registered (ctx : Context) (s : State) : Prop :=
  ∀ id j, (id, j) ∈ s.functions → j < s.program.functions.length ∧
    ∀ d, ctx.functionDecl? id = some d → (s.fn j).params.length = d.params.length

/-- A run from `s` to `s'` that reported `r`: it appended exactly the warnings `r` lists and left
the locals `r.bound` bound; it kept the table's functions as declared and every entry of it. -/
structure Reports (ctx : Context) (s s' : State) (r : Reported) : Prop where
  diagnostics : s'.diagnostics.map Diagnostic.summary =
    s.diagnostics.map Diagnostic.summary ++ r.failures.map softWarning
  bound : s'.env.map Prod.fst = r.bound
  registered : Registered ctx s → Registered ctx s'
  lookup : ∀ id j, s.functions.lookup id = some j → s'.functions.lookup id = some j

def Silent (ctx : Context) (s s' : State) : Prop := Reports ctx s s' ⟨[], s.env.map Prod.fst⟩

section Relation

variable {ctx : Context} {s s₁ s₂ s' : State} {r : Reported} {Δ : List LocalId}

/-- `t` is reached from `s` by selection: the table keeps its entries and every function its
parameters. -/
structure Later (s t : State) : Prop where
  lookup : ∀ id j, s.functions.lookup id = some j → t.functions.lookup id = some j
  fnCount : s.program.functions.length ≤ t.program.functions.length
  params : ∀ j, j < s.program.functions.length → (t.fn j).params = (s.fn j).params

namespace Later

theorem refl (s : State) : Later s s :=
  ⟨fun _ _ h => h, Nat.le_refl _, fun _ _ => rfl⟩

theorem trans (h₁ : Later s s₁) (h₂ : Later s₁ s₂) : Later s s₂ :=
  ⟨fun id j h => h₂.lookup id j (h₁.lookup id j h), Nat.le_trans h₁.fnCount h₂.fnCount,
    fun j hj => (h₂.params j (Nat.lt_of_lt_of_le hj h₁.fnCount)).trans (h₁.params j hj)⟩

theorem of_reports {r : Reported} (hr : Reports ctx s s' r) (hk : Keeps s s') : Later s s' :=
  ⟨hr.lookup, hk.fnCount, hk.params⟩

theorem of_program (hp : s'.program = s.program) (hf : s'.functions = s.functions) :
    Later s s' :=
  ⟨fun _ _ h => hf ▸ h, Nat.le_of_eq (by rw [hp]), fun _ _ => by rw [State.fn, State.fn, hp]⟩

end Later

theorem Silent.reports (h : Silent ctx s s') (hΔ : s.env.map Prod.fst = Δ) :
    Reports ctx s s' ⟨[], Δ⟩ :=
  hΔ ▸ h

namespace Reports

theorem of_later (hl : Later s s') (hf : s'.functions = s.functions)
    (hd : s'.diagnostics = s.diagnostics) (hΔ : s'.env.map Prod.fst = Δ) :
    Reports ctx s s' ⟨[], Δ⟩ := by
  refine ⟨by rw [hd, List.map_nil, List.append_nil], hΔ, fun hr id j hj => ?_, hl.lookup⟩
  rw [hf] at hj
  obtain ⟨hlt, hp⟩ := hr id j hj
  exact ⟨Nat.lt_of_lt_of_le hlt hl.fnCount, fun d hd => (hl.params j hlt).symm ▸ hp d hd⟩

theorem of_program (hp : s'.program = s.program) (hf : s'.functions = s.functions)
    (hd : s'.diagnostics = s.diagnostics) (hΔ : s'.env.map Prod.fst = Δ) :
    Reports ctx s s' ⟨[], Δ⟩ :=
  of_later (Later.of_program hp hf) hf hd hΔ

theorem stay (hΔ : s.env.map Prod.fst = Δ) : Reports ctx s s ⟨[], Δ⟩ :=
  of_program rfl rfl rfl hΔ

theorem refl (s : State) : Silent ctx s s :=
  stay rfl

theorem seq {f : List LocalId → Reported} (h₁ : Reports ctx s s₁ r)
    (h₂ : Reports ctx s₁ s₂ (f r.bound)) : Reports ctx s s₂ (r.then f) := by
  refine ⟨?_, h₂.bound, h₂.registered ∘ h₁.registered, fun id j h => h₂.lookup id j (h₁.lookup id j h)⟩
  rw [h₂.diagnostics, h₁.diagnostics, Reported.then, List.map_append, List.append_assoc]

theorem nil_seq (h₁ : Reports ctx s s₁ ⟨[], Δ⟩) (h₂ : Reports ctx s₁ s₂ r) : Reports ctx s s₂ r :=
  seq (f := fun _ => r) h₁ h₂

theorem seq_nil (h₁ : Reports ctx s s₁ r) (h₂ : Reports ctx s₁ s₂ ⟨[], Δ⟩) :
    Reports ctx s s₂ ⟨r.failures, Δ⟩ := by
  refine ⟨?_, h₂.bound, h₂.registered ∘ h₁.registered, fun id j h => h₂.lookup id j (h₁.lookup id j h)⟩
  rw [h₂.diagnostics, h₁.diagnostics, List.map_nil, List.append_nil]

theorem seq_silent (h₁ : Reports ctx s s₁ r) (h₂ : Silent ctx s₁ s₂) : Reports ctx s s₂ r :=
  h₁.seq_nil (h₂.reports h₁.bound)

end Reports

theorem Silent.trans (h₁ : Silent ctx s s₁) (h₂ : Silent ctx s₁ s₂) : Silent ctx s s₂ :=
  h₁.seq_silent h₂

theorem Silent.seq (h₁ : Silent ctx s s₁) (h₂ : Reports ctx s₁ s₂ r) : Reports ctx s s₂ r :=
  Reports.nil_seq h₁ h₂

theorem Silent.of_program (hp : s'.program = s.program) (hf : s'.functions = s.functions)
    (hd : s'.diagnostics = s.diagnostics) (he : s'.env = s.env) : Silent ctx s s' :=
  Reports.of_program hp hf hd (by rw [he])

theorem Reports.bindLocal {l : LocalId} {o : Operand} (hΔ : s.env.map Prod.fst = Δ) :
    Reports ctx s { s with env := (l, o) :: s.env } ⟨[], l :: Δ⟩ :=
  of_program rfl rfl rfl (by rw [List.map_cons, hΔ])

theorem Silent.of_keeps (hk : Keeps s s') (hf : s'.functions = s.functions)
    (hd : s'.diagnostics = s.diagnostics) (he : s'.env = s.env) : Silent ctx s s' :=
  Reports.of_later ⟨fun _ _ h => hf ▸ h, hk.fnCount, hk.params⟩ hf hd (by rw [he])

theorem Silent.moveTo (s : State) (b : Nat) : Silent ctx s (s.moveTo b) :=
  Silent.of_program rfl rfl rfl rfl

theorem Reports.warn {Δ : List LocalId} {c : Code} {message : String} {span : Span}
    (hΔ : s.env.map Prod.fst = Δ) :
    Reports ctx s (s.warn c message span) (Reported.fail c span Δ) := by
  refine ⟨?_, hΔ, fun hr => hr, fun _ _ h => h⟩
  simp [State.warn, Reported.fail, Diagnostic.summary, Diagnostic.coded, softWarning]

end Relation

/-! ## The primitives report nothing -/

section Primitives

variable {ctx : Context} {s s' : State}

theorem Silent.reopen (s : State) : Silent ctx s s.reopen := by
  unfold State.reopen
  split
  · exact Silent.of_keeps ((Keeps.addBlock s _).moveTo _) rfl rfl rfl
  · exact Reports.refl s

theorem newBlock_silent {l : String} {b : Nat} (h : newBlock l ctx s = .ok (b, s')) :
    Silent ctx s s' := by
  have hk := newBlock_keeps h
  obtain ⟨-, rfl, rfl⟩ := newBlock_ok h
  exact Silent.of_keeps hk rfl rfl rfl

theorem freshVar_silent {ty : Graph.Ty} {x : Var} (h : freshVar ty ctx s = .ok (x, s')) :
    Silent ctx s s' := by
  have hk := freshVar_keeps h
  obtain ⟨-, rfl, rfl⟩ := freshVar_ok h
  exact Silent.of_keeps hk rfl rfl rfl

theorem emit_silent {i : Graph.Instr} {u : Operand} (h : emit i ctx s = .ok (u, s')) :
    Silent ctx s s' := by
  obtain ⟨-, -, rfl⟩ := emit_ok h
  exact (Silent.reopen s).trans (Silent.of_keeps (Keeps.push _ i (State.reopen_open s)) rfl rfl rfl)

theorem jumpIfOpen_silent {b : Nat} (h : jumpIfOpen b ctx s = .ok ((), s')) : Silent ctx s s' := by
  have hk := jumpIfOpen_keeps h
  obtain ⟨-, rfl⟩ := jumpIfOpen_ok h
  split
  · exact Reports.refl s
  · rename_i ho
    exact Silent.of_keeps (Keeps.push s _ (by simpa using ho)) rfl rfl rfl

theorem klassId_silent {cls : DefId} {k : Nat} (h : klassId cls ctx s = .ok (k, s')) :
    Silent ctx s s' := by
  have hk := klassId_keeps h
  rw [klassId_run] at h
  split at h <;> cases h
  all_goals exact Silent.of_keeps hk rfl rfl rfl

theorem lowerType_silent {t : Tree.Ty} {t' : Graph.Ty} (h : lowerType t ctx s = .ok (t', s')) :
    Silent ctx s s' := by
  cases t
  case classRef c =>
    simp only [lowerType, map_run] at h
    split at h
    · cases h
      exact klassId_silent ‹_›
    · cases h
  all_goals
    obtain ⟨-, rfl⟩ := pure_ok h
    exact Reports.refl _

theorem mapM_silent {γ δ : Type} {f : γ → LowerM δ} :
    ∀ {xs : List γ}, (∀ x ∈ xs, ∀ {t t' : State} {y : δ}, f x ctx t = .ok (y, t') → Silent ctx t t') →
    ∀ {s s' : State} {ys : List δ}, xs.mapM f ctx s = .ok (ys, s') →
      Silent ctx s s' ∧ ys.length = xs.length
  | [], _, s, s', ys, h => by
    obtain ⟨rfl, rfl⟩ := pure_ok h
    exact ⟨Reports.refl _, rfl⟩
  | x :: xs, hf, s, s', ys, h => by
    rw [List.mapM_cons] at h
    obtain ⟨y, s₁, h₁, h⟩ := bind_ok h
    obtain ⟨ys', s₂, h₂, h⟩ := bind_ok h
    obtain ⟨rfl, rfl⟩ := pure_ok h
    obtain ⟨q₂, l₂⟩ := mapM_silent (fun x hx => hf x (List.mem_cons_of_mem _ hx)) h₂
    exact ⟨(hf x List.mem_cons_self h₁).trans q₂, congrArg (· + 1) l₂⟩

theorem Silent.extend {t : State} {id : DefId} {g : Function} (q : Silent ctx s t)
    (hf : s.functions.lookup id = none)
    (hg : ∀ d, ctx.functionDecl? id = some d → g.params.length = d.params.length) :
    Silent ctx s (t.extend [g] [] [(id, t.program.functions.length)] []) := by
  refine ⟨q.diagnostics, q.bound, fun hr id' j hj => ?_, fun id' j hj => ?_⟩
  · have hr := q.registered hr
    rcases List.mem_cons.1 hj with he | hj
    · cases he
      refine ⟨by simp [State.extend], fun d hd => ?_⟩
      simp only [State.fn, State.extend, List.getD_eq_getElem?_getD,
        List.getElem?_append_right (Nat.le_refl _), Nat.sub_self]
      exact hg d hd
    · obtain ⟨hlt, hp⟩ := hr id' j hj
      refine ⟨by simp only [State.extend, List.length_append]; omega, fun d hd => ?_⟩
      rw [State.fn_extend_of_lt hlt]
      exact hp d hd
  · have hne : id' ≠ id := by
      rintro rfl
      rw [hf] at hj
      cases hj
    have hb : (id' == id) = false := beq_eq_false_iff_ne.2 hne
    simp only [State.extend, List.singleton_append, List.lookup, hb]
    exact q.lookup id' j hj

theorem declaredFunction_silent {id : DefId} {name : String} {argTys : List Graph.Ty}
    {ret : Graph.Ty} {fn : Nat} (h : declaredFunction id name argTys ret ctx s = .ok (fn, s')) :
    Silent ctx s s' := by
  unfold declaredFunction at h
  simp only [bind_run, get_run] at h
  cases hf : s.functions.lookup id with
  | some f =>
    rw [hf] at h
    obtain ⟨-, rfl⟩ := pure_ok h
    exact Reports.refl _
  | none =>
    rw [hf] at h
    obtain ⟨o, s₁, h₁, h⟩ := bind_ok h
    rw [functionDecl?_run] at h₁
    cases h₁
    generalize hd : ctx.functionDecl? id = o at h
    cases o with
    | none =>
      obtain ⟨rfl, rfl⟩ := addFunction_enter h
      exact (Reports.refl s).extend hf fun d hd' => absurd (hd.symm.trans hd') (by simp)
    | some d =>
      obtain ⟨nm, s₃, h₃, h⟩ := bind_ok h
      rw [functionName_run] at h₃
      cases h₃
      obtain ⟨ps, s₄, h₄, h⟩ := bind_ok h
      obtain ⟨rt, s₅, h₅, h⟩ := bind_ok h
      obtain ⟨rfl, rfl⟩ := addFunction_enter h
      -- the parameters' types are lowered one per declared parameter
      obtain ⟨q₄, l₄⟩ := mapM_silent (fun p _ t t' y hy => by
          obtain ⟨ty, t₁, hty, hy⟩ := bind_ok hy
          obtain ⟨rfl, rfl⟩ := pure_ok hy
          exact lowerType_silent hty) h₄
      refine (q₄.trans (lowerType_silent h₅)).extend hf fun d' hd' => ?_
      rw [hd] at hd'
      cases hd'
      exact l₄

theorem calleeFor_silent {callee : Tree.Callee} {args : List Operand} {ret : Graph.Ty} {fn : Nat}
    (h : calleeFor callee args ret ctx s = .ok (fn, s')) : Silent ctx s s' :=
  declaredFunction_silent h

theorem finishArm_silent {a : Operand} {result : Option Var} {exit : Nat}
    (h : finishArm a result exit ctx s = .ok ((), s')) : Silent ctx s s' := by
  rcases finishArm_steps h with ⟨-, rfl⟩ | ⟨-, s₁, u, h₁, h₂⟩
  · exact Reports.refl _
  · have q₁ : Silent ctx s s₁ := by
      rcases h₁ with ⟨-, rfl⟩ | ⟨r, u₀, -, h₁⟩
      · exact Reports.refl _
      · exact emit_silent h₁
    exact q₁.trans (emit_silent h₂)

theorem generateCall_silent {callee : Nat} {ret : Graph.Ty} {args : List Operand} {v : Operand}
    (h : generateCall callee ret args ctx s = .ok (v, s')) : Silent ctx s s' := by
  obtain ⟨dst, s₁, hd, -, hc⟩ := generateCall_steps h
  have q₁ : Silent ctx s s₁ := by
    rcases hd with ⟨-, -, rfl⟩ | ⟨-, d, hf, -⟩
    · exact Reports.refl _
    · exact freshVar_silent hf
  rcases hc with ⟨-, u, he⟩ | ⟨l, normal, s₂, u, s₃, -, hn, he, rfl⟩
  · exact q₁.trans (emit_silent he)
  · exact (q₁.trans ((newBlock_silent hn).trans (emit_silent he))).trans (Silent.moveTo _ normal)

theorem resultVar_silent {ty : Tree.Ty} {r : Option Var} (h : resultVar ty ctx s = .ok (r, s')) :
    Silent ctx s s' := by
  rcases resultVar_steps h with ⟨-, -, rfl⟩ | ⟨-, -, t, s₁, d, h₁, h₂, -⟩
  · exact Reports.refl _
  · exact (lowerType_silent h₁).trans (freshVar_silent h₂)

theorem coerceInteger_silent {value : Operand} {target : Tree.Ty} {v : Operand}
    (h : coerceInteger value target ctx s = .ok (v, s')) : Silent ctx s s' := by
  rcases coerceInteger_steps h with ⟨-, -, rfl⟩ | ⟨-, t, s₁, h₁, ⟨-, -, rfl⟩ | ⟨-, dst, s₂, h₂, h₃⟩⟩
  · exact Reports.refl _
  · exact lowerType_silent h₁
  · exact (lowerType_silent h₁).trans ((freshVar_silent h₂).trans (emit_silent h₃))

theorem applyIntrinsic_silent {intr : Intrinsic} {name : String} {args : List Operand} {ty span}
    {v : Operand} (h : applyIntrinsic intr name args ty span ctx s = .ok (v, s')) :
    Silent ctx s s' := by
  rcases applyIntrinsic_steps h with ⟨rfl, -⟩ | ⟨t, dst, s₁, h₁, h₂⟩ |
    ⟨t, s₁, p, s₂, u, s₃, dst, s₄, h₁, h₂, h₃, h₄, h₅⟩ | ⟨p, s₁, u, s₂, u', h₁, h₂, h₃, -⟩ |
    ⟨t, s₁, h₁, ⟨-, -, rfl⟩ | ⟨dst, s₂, h₂, h₃⟩⟩
  · exact Reports.refl _
  · exact (freshVar_silent h₁).trans (emit_silent h₂)
  · exact (lowerType_silent h₁).trans ((freshVar_silent h₂).trans ((emit_silent h₃).trans
      ((freshVar_silent h₄).trans (emit_silent h₅))))
  · exact (freshVar_silent h₁).trans ((emit_silent h₂).trans (emit_silent h₃))
  · exact lowerType_silent h₁
  · exact (lowerType_silent h₁).trans ((freshVar_silent h₂).trans (emit_silent h₃))

theorem fieldOffset_silent {field : Tree.FieldRef} {receiverTy : Tree.Ty} {span} {off : Nat}
    (h : fieldOffset field receiverTy span ctx s = .ok (off, s')) : Silent ctx s s' := by
  obtain ⟨cls, k, -, hk, -⟩ := fieldOffset_steps h
  exact klassId_silent hk

theorem objectValue_reports {cls : DefId} {span : Span} {v : Operand}
    (h : objectValue cls span ctx s = .ok (v, s')) :
    Reports ctx s s' (if ctx.isUnitSingleton cls then ⟨[], s.env.map Prod.fst⟩
      else Reported.fail .singletonInit span (s.env.map Prod.fst)) := by
  rcases objectValue_cases h with ⟨hu, -, rfl⟩ |
    ⟨hu, k, s₁, inst, s₂, u₁, s₃, ok, s₄, u₂, s₅, cont, s₆, init, s₇, u₃, s₈, u₄, s₉,
      h₁, h₂, h₃, h₄, h₅, h₆, h₇, h₈, h₉, rfl, -⟩
  · rw [Context.isUnitSingleton, hu, if_pos rfl]
    exact Reports.refl _
  · rw [Context.isUnitSingleton, hu, if_neg Bool.false_ne_true]
    have q₈ : Silent ctx s s₈ := (klassId_silent h₁).trans ((freshVar_silent h₂).trans
      ((emit_silent h₃).trans ((freshVar_silent h₄).trans ((emit_silent h₅).trans
      ((newBlock_silent h₆).trans ((newBlock_silent h₇).trans (emit_silent h₈)))))))
    -- the one report: the initialization block's
    exact (q₈.seq_silent (Silent.moveTo s₈ init)).seq (Reports.warn q₈.bound)
      |>.seq_silent (emit_silent h₉) |>.seq_silent (Silent.moveTo s₉ cont)

end Primitives

/-! ## Every lowering -/

section Lowering

variable {ctx : Context} {s s' : State} {Δ : List LocalId}

theorem lookup_eq_none_iff_not_mem {env : List (LocalId × Operand)} {l : LocalId} :
    env.lookup l = none ↔ l ∉ env.map Prod.fst := by
  simp only [List.lookup_eq_none_iff, bne_iff_ne, ne_eq, List.mem_map, not_exists, not_and]
  exact ⟨fun h p hp he => h p hp he.symm, fun h p hp he => h p hp he.symm⟩

theorem unsupported_reports {k : ExprKind} {ty : Tree.Ty} {span : Span} {v : Operand}
    (hk : (∃ args, k = .stringConcat args) ∨ (∃ cls, k = .classReference cls) ∨
      (∃ fn, k = .functionReference fn) ∨ (∃ cls name, k = .enumEntry cls name))
    (h : lowerKind k ty span ctx s = .ok (v, s')) (hΔ : s.env.map Prod.fst = Δ) :
    Reports ctx s s' (Reported.fail .unsupportedNode span Δ) := by
  obtain ⟨what, h⟩ := unsupported_steps hk h
  rw [unsupportedNode_run] at h
  cases h
  exact Reports.warn hΔ

mutual

theorem lowerExpr_reports : ∀ (e : Expr) {s s' : State} {v : Operand} {Δ : List LocalId},
    lowerExpr e ctx s = .ok (v, s') → s.env.map Prod.fst = Δ → Reports ctx s s' (e.reported ctx Δ)
  | .node k ty span, _, _, _, _, h, hΔ =>
    lowerKind_reports k ty span (by rwa [lowerExpr_node] at h) hΔ

theorem lowerKind_reports : ∀ (k : ExprKind) (ty : Tree.Ty) (span : Span) {s s' : State}
    {v : Operand} {Δ : List LocalId}, lowerKind k ty span ctx s = .ok (v, s') →
    s.env.map Prod.fst = Δ → Reports ctx s s' (k.reported ctx Δ span)
  | .literal l, ty, span, s, s', v, Δ, h, hΔ => by
    obtain ⟨-, rfl⟩ := literal_steps h
    exact Reports.stay hΔ
  | .typeOp op arg operand, ty, span, s, s', v, Δ, h, hΔ => by
    cases op with
    | cast | safeCast =>
      obtain ⟨a, s₁, t, s₂, dst, s₃, h₁, h₂, h₃, h₄⟩ := cast_steps (by simp) h
      exact (lowerExpr_reports arg h₁ hΔ).seq_silent ((lowerType_silent h₂).trans
        ((freshVar_silent h₃).trans (emit_silent h₄)))
    | implicitCast => exact lowerExpr_reports arg (implicitCast_steps h) hΔ
    | implicitNotNull =>
      obtain ⟨a, s₁, h₁, rfl, -⟩ := implicitNotNull_steps h
      have r₁ := lowerExpr_reports arg h₁ hΔ
      simp only [ExprKind.reported]
      exact r₁.seq (Reports.warn r₁.bound)
    | coercionToUnit =>
      obtain ⟨a, h₁, -⟩ := coercionToUnit_steps h
      exact lowerExpr_reports arg h₁ hΔ
    | integerCoercion =>
      obtain ⟨a, s₁, -, h₁, h₂⟩ := integerCoercion_steps h
      exact (lowerExpr_reports arg h₁ hΔ).seq_silent (coerceInteger_silent h₂)
    | instanceOf | notInstanceOf =>
      obtain ⟨a, s₁, t, s₂, dst, s₃, h₁, h₂, h₃, h₄⟩ := typeTest_steps (by simp) h
      exact (lowerExpr_reports arg h₁ hΔ).seq_silent ((lowerType_silent h₂).trans
        ((freshVar_silent h₃).trans (emit_silent h₄)))
  | .call callee dispatch extension args, ty, span, s, s', v, Δ, h, hΔ => by
    -- Every shape lowers the receivers and the arguments in the same order, after silent steps.
    have ops : ∀ {s₀ d s₁ e s₂ a s₃}, Silent ctx s s₀ → lowerOpt dispatch ctx s₀ = .ok (d, s₁) →
        lowerOpt extension ctx s₁ = .ok (e, s₂) → lowerList args ctx s₂ = .ok (a, s₃) →
        Reports ctx s s₃ (ExprKind.reported ctx Δ span (.call callee dispatch extension args)) := by
      intro s₀ d s₁ e s₂ a s₃ q h₁ h₂ h₃
      have r₁ := lowerOpt_reports dispatch h₁ (q.bound.trans hΔ)
      have r₂ := lowerOpt_reports extension h₂ r₁.bound
      simp only [ExprKind.reported]
      exact q.seq (r₁.seq (r₂.seq (lowerList_reports args h₃ r₂.bound)))
    cases hs : CallShape.of callee dispatch extension args with
    | intrinsic =>
      obtain ⟨intr, d, s₁, e, s₂, a, s₃, -, h₁, h₂, h₃, h₄⟩ := intrinsicCall_steps hs h
      exact (ops (Reports.refl s) h₁ h₂ h₃).seq_silent (applyIntrinsic_silent h₄)
    | arithmetic op =>
      obtain ⟨d, s₁, e, s₂, a, s₃, t, s₄, dst, s₅, h₁, h₂, h₃, h₄, h₅, h₆⟩ :=
        arithmeticCall_steps hs h
      exact (ops (Reports.refl s) h₁ h₂ h₃).seq_silent ((lowerType_silent h₄).trans
        ((freshVar_silent h₅).trans (emit_silent h₆)))
    | construct cls =>
      obtain ⟨k, s₁, obj, s₂, u, s₃, d, s₄, e, s₅, a, s₆, fn, s₇, r,
        h₁, h₂, h₃, h₄, h₅, h₆, h₇, h₈, -⟩ := constructCall_steps hs h
      have q₃ : Silent ctx s s₃ :=
        (klassId_silent h₁).trans ((freshVar_silent h₂).trans (emit_silent h₃))
      exact (ops q₃ h₄ h₅ h₆).seq_silent ((calleeFor_silent h₇).trans (generateCall_silent h₈))
    | plain =>
      obtain ⟨d, s₁, e, s₂, a, s₃, ret, s₄, fn, s₅, h₁, h₂, h₃, h₄, h₅, h₆⟩ :=
        plainCall_steps hs h
      exact (ops (Reports.refl s) h₁ h₂ h₃).seq_silent ((lowerType_silent h₄).trans
        ((calleeFor_silent h₅).trans (generateCall_silent h₆)))
  | .delegatingCall callee args, ty, span, s, s', v, Δ, h, hΔ => by
    obtain ⟨receiver, a, s₁, fn, s₂, -, h₁, h₂, h₃⟩ := delegatingCall_steps h
    exact (lowerList_reports args h₁ hΔ).seq_silent
      ((calleeFor_silent h₂).trans (generateCall_silent h₃))
  | .instanceInit cls, ty, span, s, s', v, Δ, h, hΔ => by
    obtain ⟨-, rfl⟩ := instanceInit_steps h
    exact Reports.stay hΔ
  | .block stmts, ty, span, s, s', v, Δ, h, hΔ => lowerBlock_reports stmts (block_steps h) hΔ
  | .whileLoop loop cond body, ty, span, s, s', v, Δ, h, hΔ => by
    obtain ⟨check, s₁, bodyB, s₂, exit, s₃, u₁, s₄, c, s₅, u₂, s₆, b, s₇, s₈,
      h₁, h₂, h₃, h₄, h₅, h₆, h₇, h₈, rfl, -⟩ := whileLoop_steps h
    have q₄ : Silent ctx s (s₄.moveTo check) := (newBlock_silent h₁).trans
      ((newBlock_silent h₂).trans ((newBlock_silent h₃).trans
      ((emit_silent h₄).trans (Silent.moveTo s₄ check))))
    have q₆ : Silent ctx s₅ ({ s₆ with loops := ⟨loop, check, exit⟩ :: s₆.loops }.moveTo bodyB) :=
      (emit_silent h₆).trans (Silent.of_program rfl rfl rfl rfl)
    have q₈ : Silent ctx s₇ ({ s₈ with loops := s₈.loops.tail }.moveTo exit) :=
      (jumpIfOpen_silent h₈).trans (Silent.of_program rfl rfl rfl rfl)
    have r₅ := (lowerExpr_reports cond h₅ (q₄.bound.trans hΔ)).seq_silent q₆
    simp only [ExprKind.reported]
    exact q₄.seq (r₅.seq ((lowerOpt_reports body h₇ r₅.bound).seq_silent q₈))
  | .doWhile loop cond body, ty, span, s, s', v, Δ, h, hΔ => by
    obtain ⟨check, s₁, bodyB, s₂, exit, s₃, u₁, s₄, b, s₅, s₆, c, s₇, u₂, s₈,
      h₁, h₂, h₃, h₄, h₅, h₆, h₇, h₈, rfl, -⟩ := doWhile_steps h
    have q₄ : Silent ctx s ({ s₄ with loops := ⟨loop, check, exit⟩ :: s₄.loops }.moveTo bodyB) :=
      (newBlock_silent h₁).trans ((newBlock_silent h₂).trans ((newBlock_silent h₃).trans
      ((emit_silent h₄).trans (Silent.of_program rfl rfl rfl rfl))))
    have q₆ : Silent ctx s₅ (s₆.moveTo check) :=
      (jumpIfOpen_silent h₆).trans (Silent.moveTo s₆ check)
    have q₈ : Silent ctx s₇ ({ s₈ with loops := s₈.loops.tail }.moveTo exit) :=
      (emit_silent h₈).trans (Silent.of_program rfl rfl rfl rfl)
    have r₅ := (lowerOpt_reports body h₅ (q₄.bound.trans hΔ)).seq_silent q₆
    simp only [ExprKind.reported]
    exact q₄.seq (r₅.seq ((lowerExpr_reports cond h₇ r₅.bound).seq_silent q₈))
  | .breakLoop loop, ty, span, s, s', v, Δ, h, hΔ => by
    obtain ⟨fr, u, -, h₂, -⟩ := breakLoop_steps h
    exact (emit_silent h₂).reports hΔ
  | .continueLoop loop, ty, span, s, s', v, Δ, h, hΔ => by
    obtain ⟨fr, u, -, h₂, -⟩ := continueLoop_steps h
    exact (emit_silent h₂).reports hΔ
  | .ret target value, ty, span, s, s', v, Δ, h, hΔ => by
    obtain ⟨a, s₁, u, h₁, h₂, -⟩ := ret_steps h
    exact (lowerExpr_reports value h₁ hΔ).seq_silent (emit_silent h₂)
  | .whenArms arms, ty, span, s, s', v, Δ, h, hΔ => by
    obtain ⟨result, s₁, exit, s₂, s₃, s₄, h₁, h₂, h₃, h₄, h₅, rfl, -⟩ := whenArms_steps h
    have q₂ : Silent ctx s s₂ := (resultVar_silent h₁).trans (newBlock_silent h₂)
    have q₄ : Silent ctx s₃ s₄ := by
      by_cases hb : s₃.cursor.block = exit
      · rw [h₅ hb]
        exact Reports.refl _
      · exact jumpIfOpen_silent (h₄ hb)
    exact q₂.seq ((lowerArms_reports arms h₃ (q₂.bound.trans hΔ)).seq_silent
      (q₄.trans (Silent.moveTo s₄ exit)))
  | .declare var name varTy init, ty, span, s, s', v, Δ, h, hΔ => by
    obtain ⟨o, s₁, h₁, rfl, -⟩ := declare_steps h
    have r₁ := lowerOpt_reports init h₁ hΔ
    simp only [ExprKind.reported]
    exact r₁.seq (Reports.bindLocal r₁.bound)
  | .assign var name value, ty, span, s, s', v, Δ, h, hΔ => by
    obtain ⟨a, s₁, u, s₂, h₁, h₂, rfl, -⟩ := assign_steps h
    have r₂ := (lowerExpr_reports value h₁ hΔ).seq_silent (emit_silent h₂)
    simp only [ExprKind.reported]
    exact r₂.seq (Reports.bindLocal r₂.bound)
  | .read var name, ty, span, s, s', v, Δ, h, hΔ => by
    -- the read is reported exactly when the local is not among the bound ones
    rcases read_steps h with ⟨hv, rfl⟩ | ⟨hv, -, rfl⟩
    · have hm : var ∈ Δ := hΔ ▸ Classical.byContradiction fun hn => by
        simp [lookup_eq_none_iff_not_mem.2 hn] at hv
      simp only [ExprKind.reported, if_pos hm]
      exact Reports.stay hΔ
    · have hm : var ∉ Δ := hΔ ▸ lookup_eq_none_iff_not_mem.1 hv
      simp only [ExprKind.reported, if_neg hm]
      exact Reports.warn hΔ
  | .vararg elems, ty, span, s, s', v, Δ, h, hΔ => by
    obtain ⟨vs, s₁, t, h₁, h₂, -⟩ := vararg_steps h
    exact (lowerVararg_reports elems h₁ hΔ).seq_silent (lowerType_silent h₂)
  | .throw value, ty, span, s, s', v, Δ, h, hΔ => by
    obtain ⟨a, s₁, h₁, rfl, -⟩ := throw_steps h
    have r₁ := lowerExpr_reports value h₁ hΔ
    simp only [ExprKind.reported]
    exact r₁.seq (Reports.warn r₁.bound)
  | .tryCatch body catches, ty, span, s, s', v, Δ, h, hΔ => by
    obtain ⟨result, s₁, exit, s₂, s₃, b, s₄, s₅, h₁, h₂, h₃, h₄, h₅, rfl, -⟩ := tryCatch_steps h
    have q₂ : Silent ctx s s₂ := (resultVar_silent h₁).trans (newBlock_silent h₂)
    -- After the handlers, if any: the body, its arm, the outer landing pad and the exit.
    have tail : ∀ {r}, Reports ctx s₂ s₃ r → Reports ctx s ({ s₅ with landing := s₂.landing }.moveTo exit)
        (r.then fun Δ => body.reported ctx Δ) := by
      intro r r₃
      have q₅ : Silent ctx s₄ ({ s₅ with landing := s₂.landing }.moveTo exit) :=
        (finishArm_silent h₅).trans (Silent.of_program rfl rfl rfl rfl)
      exact q₂.seq (r₃.seq ((lowerExpr_reports body h₄ r₃.bound).seq_silent q₅))
    simp only [ExprKind.reported]
    rcases h₃ with ⟨rfl, rfl⟩ | ⟨-, header, s₆, exn, s₇, u, s₈, s₉, h₆, h₇, h₈, h₉, rfl⟩
    · exact tail (Reports.stay (q₂.bound.trans hΔ))
    · -- the handlers run at the header with every parameter bound to the exception
      have q₈ : Silent ctx s₂ s₈ := (newBlock_silent h₆).trans ((Silent.moveTo s₆ header).trans
        ((freshVar_silent h₇).trans (emit_silent h₈)))
      have r₈ : Reports ctx s₈
          { s₈ with env := (catches.map fun c => (c.param, .var exn)).reverse ++ s₈.env }
          ⟨[], (catches.map Catch.param).reverse ++ Δ⟩ :=
        Reports.of_program rfl rfl rfl (by
          simp [List.map_reverse, Function.comp_def, q₈.bound, q₂.bound, hΔ])
      have q₉ : Silent ctx s₉ { s₉ with cursor := s₂.cursor, landing := some header } :=
        Silent.of_program rfl rfl rfl rfl
      exact tail (q₈.seq (r₈.nil_seq ((lowerHandlers_reports catches h₉ r₈.bound).seq_silent q₉)))
  | .getField field none, ty, span, s, s', v, Δ, h, hΔ => by
    obtain ⟨address, offset, s₁, t, s₂, dst, s₃, hr, h₂, h₃, h₄⟩ := getField_steps h
    obtain ⟨-, -, -, rfl⟩ | ⟨r, s₀, hr, -⟩ := hr
    · exact ((lowerType_silent h₂).trans ((freshVar_silent h₃).trans (emit_silent h₄))).reports hΔ
    · cases hr
  | .getField field (some r), ty, span, s, s', v, Δ, h, hΔ => by
    obtain ⟨address, offset, s₁, t, s₂, dst, s₃, hr, h₂, h₃, h₄⟩ := getField_steps h
    obtain ⟨hr, -⟩ | ⟨r', s₀, hr, h₀, h₁⟩ := hr
    · cases hr
    · cases hr
      have q₀ := fieldOffset_silent h₀
      exact q₀.seq ((lowerExpr_reports r h₁ (q₀.bound.trans hΔ)).seq_silent
        ((lowerType_silent h₂).trans ((freshVar_silent h₃).trans (emit_silent h₄))))
  | .setField field none value, ty, span, s, s', v, Δ, h, hΔ => by
    obtain ⟨address, offset, s₁, a, s₂, u, hr, h₂, h₃, -⟩ := setField_steps h
    obtain ⟨-, -, -, rfl⟩ | ⟨r, s₀, hr, -⟩ := hr
    · simp only [ExprKind.reported]
      exact (Reports.stay hΔ).seq ((lowerExpr_reports value h₂ hΔ).seq_silent (emit_silent h₃))
    · cases hr
  | .setField field (some r) value, ty, span, s, s', v, Δ, h, hΔ => by
    obtain ⟨address, offset, s₁, a, s₂, u, hr, h₂, h₃, -⟩ := setField_steps h
    obtain ⟨hr, -⟩ | ⟨r', s₀, hr, h₀, h₁⟩ := hr
    · cases hr
    · cases hr
      have q₀ := fieldOffset_silent h₀
      have r₁ := lowerExpr_reports r h₁ (q₀.bound.trans hΔ)
      simp only [ExprKind.reported]
      exact q₀.seq (r₁.seq ((lowerExpr_reports value h₂ r₁.bound).seq_silent (emit_silent h₃)))
  | .objectValue cls, ty, span, s, s', v, Δ, h, hΔ => by
    subst hΔ
    exact objectValue_reports (objectValue_steps' h)
  | .stringConcat args, ty, span, s, s', v, Δ, h, hΔ => unsupported_reports (.inl ⟨args, rfl⟩) h hΔ
  | .classReference cls, ty, span, s, s', v, Δ, h, hΔ => unsupported_reports (.inr (.inl ⟨cls, rfl⟩)) h hΔ
  | .functionReference fn, ty, span, s, s', v, Δ, h, hΔ => unsupported_reports (.inr (.inr (.inl ⟨fn, rfl⟩))) h hΔ
  | .enumEntry cls name, ty, span, s, s', v, Δ, h, hΔ => unsupported_reports (.inr (.inr (.inr ⟨cls, name, rfl⟩))) h hΔ

theorem lowerOpt_reports : ∀ (e : Option Expr) {s s' : State} {o : Option Operand}
    {Δ : List LocalId}, lowerOpt e ctx s = .ok (o, s') → s.env.map Prod.fst = Δ →
    Reports ctx s s' (Expr.optReported ctx Δ e)
  | none, s, s', o, Δ, h, hΔ => by
    obtain ⟨-, rfl⟩ := lowerOpt_none_steps h
    exact Reports.stay hΔ
  | some e, s, s', o, Δ, h, hΔ => by
    obtain ⟨a, h₁, -⟩ := lowerOpt_some_steps h
    exact lowerExpr_reports e h₁ hΔ

theorem lowerList_reports : ∀ (es : List Expr) {s s' : State} {vs : List Operand}
    {Δ : List LocalId}, lowerList es ctx s = .ok (vs, s') → s.env.map Prod.fst = Δ →
    Reports ctx s s' (Expr.listReported ctx Δ es)
  | [], s, s', vs, Δ, h, hΔ => by
    obtain ⟨-, rfl⟩ := lowerList_nil_steps h
    exact Reports.stay hΔ
  | e :: es, s, s', vs, Δ, h, hΔ => by
    obtain ⟨a, s₁, as, h₁, h₂, -⟩ := lowerList_cons_steps h
    have r₁ := lowerExpr_reports e h₁ hΔ
    exact r₁.seq (lowerList_reports es h₂ r₁.bound)

theorem lowerBlock_reports : ∀ (es : List Expr) {s s' : State} {v : Operand}
    {Δ : List LocalId}, lowerBlock es ctx s = .ok (v, s') → s.env.map Prod.fst = Δ →
    Reports ctx s s' (Expr.listReported ctx Δ es)
  | [], s, s', v, Δ, h, hΔ => by
    obtain ⟨-, rfl⟩ := lowerBlock_nil_steps h
    exact Reports.stay hΔ
  | [e], s, s', v, Δ, h, hΔ => by
    have r₁ := lowerExpr_reports e (by rwa [lowerBlock_single] at h) hΔ
    exact r₁.seq (Reports.stay r₁.bound)
  | e :: e' :: es, s, s', v, Δ, h, hΔ => by
    obtain ⟨a, s₁, h₁, h₂⟩ := lowerBlock_cons_steps h
    have r₁ := lowerExpr_reports e h₁ hΔ
    exact r₁.seq (lowerBlock_reports (e' :: es) h₂ r₁.bound)

theorem lowerArms_reports : ∀ (arms : List Arm) {result : Option Var} {exit : Nat} {s s' : State}
    {Δ : List LocalId}, lowerArms arms result exit ctx s = .ok ((), s') →
    s.env.map Prod.fst = Δ → Reports ctx s s' (Arm.listReported ctx Δ arms)
  | [], result, exit, s, s', Δ, h, hΔ => by
    rw [lowerArms_nil_steps h]
    exact Reports.stay hΔ
  | .mk cond res :: rest, result, exit, s, s', Δ, h, hΔ => by
    cases hc : cond.isTrueLiteral with
    | true =>
      obtain ⟨a, s₁, h₁, h₂⟩ := lowerArms_true_steps hc h
      simp only [Arm.listReported, hc, if_true]
      exact (lowerExpr_reports res h₁ hΔ).seq_silent (finishArm_silent h₂)
    | false =>
      obtain ⟨c, s₁, arm, s₂, next, s₃, u, s₄, a, s₅, s₆, h₁, h₂, h₃, h₄, h₅, h₆, h₇⟩ :=
        lowerArms_test_steps hc h
      have q₃ : Silent ctx s₂ s₃ := by
        rcases h₃ with ⟨-, -, rfl⟩ | ⟨-, h₃⟩
        · exact Reports.refl _
        · exact newBlock_silent h₃
      have r₁ := lowerExpr_reports cond h₁ hΔ
      have q₄ : Silent ctx s₁ (s₄.moveTo arm) := (newBlock_silent h₂).trans
        (q₃.trans ((emit_silent h₄).trans (Silent.moveTo s₄ arm)))
      have r₅ := (lowerExpr_reports res h₅ (q₄.bound.trans r₁.bound)).seq_silent
        ((finishArm_silent h₆).trans (Silent.moveTo s₆ next))
      simp only [Arm.listReported, hc, Bool.false_eq_true, if_false]
      exact r₁.seq (q₄.seq (r₅.seq (lowerArms_reports rest h₇ r₅.bound)))

theorem lowerHandlers_reports : ∀ (cs : List Catch) {exn : Operand} {result : Option Var}
    {exit : Nat} {s s' : State} {Δ : List LocalId},
    lowerHandlers cs exn result exit ctx s = .ok ((), s') → s.env.map Prod.fst = Δ →
    Reports ctx s s' (Catch.listReported ctx Δ cs)
  | [], exn, result, exit, s, s', Δ, h, hΔ => by
    rw [lowerHandlers_nil_steps h]
    exact Reports.stay hΔ
  | [.mk param name ty res], exn, result, exit, s, s', Δ, h, hΔ => by
    obtain ⟨a, s₁, h₁, h₂⟩ := lowerHandlers_last_steps h
    have r₂ := (lowerExpr_reports res h₁ hΔ).seq_silent (finishArm_silent h₂)
    exact r₂.seq (Reports.stay r₂.bound)
  | .mk param name ty res :: c' :: rest, exn, result, exit, s, s', Δ, h, hΔ => by
    obtain ⟨t, s₁, caught, s₂, u₁, s₃, body, s₄, next, s₅, u₂, s₆, a, s₇, s₈,
      h₁, h₂, h₃, h₄, h₅, h₆, h₇, h₈, h₉⟩ := lowerHandlers_test_steps h
    have q₆ : Silent ctx s (s₆.moveTo body) := (lowerType_silent h₁).trans
      ((freshVar_silent h₂).trans ((emit_silent h₃).trans ((newBlock_silent h₄).trans
      ((newBlock_silent h₅).trans ((emit_silent h₆).trans (Silent.moveTo s₆ body))))))
    have r₈ := (lowerExpr_reports res h₇ (q₆.bound.trans hΔ)).seq_silent
      ((finishArm_silent h₈).trans (Silent.moveTo s₈ next))
    exact q₆.seq (r₈.seq (lowerHandlers_reports (c' :: rest) h₉ r₈.bound))

theorem lowerVararg_reports : ∀ (elems : List VarargElem) {s s' : State} {vs : List Operand}
    {Δ : List LocalId}, lowerVararg elems ctx s = .ok (vs, s') → s.env.map Prod.fst = Δ →
    Reports ctx s s' (VarargElem.listReported ctx Δ elems)
  | [], s, s', vs, Δ, h, hΔ => by
    obtain ⟨-, rfl⟩ := lowerVararg_nil_steps h
    exact Reports.stay hΔ
  | .value e :: rest, s, s', vs, Δ, h, hΔ => by
    obtain ⟨a, s₁, as, h₁, h₂, -⟩ := lowerVararg_value_steps h
    have r₁ := lowerExpr_reports e h₁ hΔ
    exact r₁.seq (lowerVararg_reports rest h₂ r₁.bound)
  | .spread e :: rest, s, s', vs, Δ, h, hΔ => (lowerVararg_spread h).elim

end

end Lowering

/-! ## Declarations and modules -/

section Declarations

variable {ctx : Context} {s s₁ s₂ s' : State} {Δ : List LocalId}

/-- How many parameters the function for `id` has in `F`: as many as declared, for a declared
function. -/
def paramCount (ctx : Context) (F : State) (id : DefId) : Nat :=
  match ctx.functionDecl? id with
  | some f => f.params.length
  | none => ((F.functions.lookup id).map fun j => (F.fn j).params.length).getD 0

theorem paramCount_eq {F : State} {id : DefId} {j : Nat} (hr : Registered ctx s)
    (hl : s.functions.lookup id = some j) (hF : Later s F) :
    paramCount ctx F id = (s.fn j).params.length := by
  obtain ⟨l₁, l₂, hs, -⟩ := List.lookup_eq_some_iff.1 hl
  obtain ⟨hlt, hp⟩ := hr id j (by rw [hs]; simp)
  unfold paramCount
  cases hd : ctx.functionDecl? id with
  | some f => exact (hp f hd).symm
  | none => simp [hF.lookup id j hl, hF.params j hlt]

/-- Selecting declarations from `s` to `s'` left every function of the table as declared, reached
`s'` from `s`, and appended the warnings `l F`, read with the parameters functions have in any
later state `F`. -/
structure Visits (ctx : Context) (s s' : State) (l : State → List (Code × Span)) : Prop where
  registered : Registered ctx s'
  later : Later s s'
  diagnostics : ∀ F, Later s' F → s'.diagnostics.map Diagnostic.summary =
    s.diagnostics.map Diagnostic.summary ++ (l F).map softWarning

theorem Visits.trans {l₁ l₂ : State → List (Code × Span)} (h₁ : Visits ctx s s₁ l₁)
    (h₂ : Visits ctx s₁ s₂ l₂) : Visits ctx s s₂ fun F => l₁ F ++ l₂ F := by
  refine ⟨h₂.registered, h₁.later.trans h₂.later, fun F hF => ?_⟩
  rw [h₂.diagnostics F hF, h₁.diagnostics F (h₂.later.trans hF), List.map_append,
    List.append_assoc]

theorem Reports.visits {r : Reported} (h : Reports ctx s s' r) (hr : Registered ctx s)
    (hl : Later s s') : Visits ctx s s' fun _ => r.failures :=
  ⟨h.registered hr, hl, fun _ _ => h.diagnostics⟩

theorem State.params_enterBody (s : State) (fn j : Nat) (d : FunctionDecl) :
    ((s.enterBody fn d).fn j).params = (s.fn j).params := by
  show (((s.mapFn fn (·.addBlock "entry")).mapFn fn fun f => { f with span := d.span }).fn j).params = _
  rw [State.fn_mapFn, State.fn_mapFn]
  split <;> split <;> rfl

theorem State.later_enterBody (s : State) (fn : Nat) (d : FunctionDecl) :
    Later s (s.enterBody fn d) :=
  ⟨fun _ _ h => h, by simp [State.enterBody, State.length_mapFn],
    fun j _ => State.params_enterBody s fn j d⟩

theorem declaredFunction_later {id : DefId} {name : String} {argTys : List Graph.Ty}
    {ret : Graph.Ty} {fn : Nat} (h : declaredFunction id name argTys ret ctx s = .ok (fn, s')) :
    Later s s' :=
  Later.of_reports (declaredFunction_silent h) (Keeps.of_registers (declaredFunction_registers h).1)

theorem State.enterBody_bound (s : State) (fn : Nat) (d : FunctionDecl) :
    (s.enterBody fn d).env.map Prod.fst =
      ((d.params.take (s.fn fn).params.length).map Tree.Param.var).reverse := by
  have hz : ∀ (ps : List Tree.Param) (vs : List Var), (ps.zip vs).map Prod.fst = ps.take vs.length := by
    intro ps vs
    rw [List.zip_eq_zip_take_min, List.map_fst_zip (by simp)]
    simp [List.take_eq_take_iff, Nat.min_comm]
  show ((((d.params.zip ((s.enterBody fn d).fn fn).params).map
    fun pv => (pv.1.var, Operand.var pv.2)).reverse).map Prod.fst) = _
  rw [State.params_enterBody, List.map_reverse, List.map_map, ← hz, List.map_map]
  rfl

theorem forM_reports {g : Expr → LowerM PUnit}
    (hg : ∀ e t t' u, g e ctx t = .ok (u, t') → ∃ w, lowerExpr e ctx t = .ok (w, t')) :
    ∀ {stmts : List Expr} {s s' : State} {Δ : List LocalId}, stmts.forM g ctx s = .ok ((), s') →
      s.env.map Prod.fst = Δ → Reports ctx s s' (Expr.listReported ctx Δ stmts) ∧ Keeps s s'
  | [], s, s', Δ, h, hΔ => by
    cases h
    exact ⟨Reports.stay hΔ, Keeps.refl _⟩
  | e :: es, s, s', Δ, h, hΔ => by
    obtain ⟨u, t, h₁, h₂⟩ := bind_ok (x := g e) (f := fun _ => es.forM g) h
    obtain ⟨w, hw⟩ := hg e s t u h₁
    have r₁ := lowerExpr_reports e hw hΔ
    obtain ⟨r₂, k₂⟩ := forM_reports hg h₂ r₁.bound
    exact ⟨r₁.seq r₂, (lowerExpr_keeps e hw).trans k₂⟩

theorem BodyRun.reports {b : Tree.Body} {v : Operand} (hb : BodyRun ctx b s v s')
    (hΔ : s.env.map Prod.fst = Δ) : Reports ctx s s' (b.reported ctx Δ) ∧ Keeps s s' := by
  cases hb with
  | expression h => exact ⟨lowerExpr_reports _ h hΔ, lowerExpr_keeps _ h⟩
  | block g hg h => exact forM_reports hg h hΔ

theorem selectFunction_visits {d : FunctionDecl} (hr : Registered ctx s)
    (h : selectFunction d ctx s = .ok ((), s')) :
    Visits ctx s s' fun F => Decl.reported ctx (paramCount ctx F) (.function d) := by
  rcases selectFunction_steps h with ⟨ho, rfl⟩ |
    ⟨ho, fn, s₁, h₁, ⟨hb, rfl⟩ | ⟨body, v, s₂, s₃, hb, hrun, h₃, rfl⟩⟩
  · simp only [Decl.reported, ho, if_true]
    exact (Reports.refl _).visits hr (Later.refl _)
  · simp only [Decl.reported, if_neg ho, hb]
    exact (declaredFunction_silent h₁).visits hr (declaredFunction_later h₁)
  · have q₁ := declaredFunction_silent h₁
    have L₀ := State.later_enterBody s₁ fn d
    have r₀ : Reports ctx s₁ (s₁.enterBody fn d) _ :=
      Reports.of_later L₀ rfl rfl (State.enterBody_bound s₁ fn d)
    obtain ⟨r₂, k₂⟩ := hrun.reports (State.enterBody_bound s₁ fn d)
    have e₃ : Silent ctx s₂ s₃ ∧ Keeps s₂ s₃ := by
      rcases h₃ with ⟨-, rfl⟩ | ⟨-, u, he⟩
      · exact ⟨Reports.refl _, Keeps.refl _⟩
      · exact ⟨emit_silent he, emit_keeps he⟩
    have q₄ : Silent ctx s₃ { s₃ with current := none } := Silent.of_program rfl rfl rfl rfl
    have R := q₁.seq (r₀.nil_seq ((r₂.seq_silent e₃.1).seq_silent q₄))
    have L : Later s₁ { s₃ with current := none } := L₀.trans ((Later.of_reports r₂ k₂).trans
      ((Later.of_reports e₃.1 e₃.2).trans (Later.of_program rfl rfl)))
    refine ⟨R.registered hr, (declaredFunction_later h₁).trans L, fun F hF => ?_⟩
    simp only [Decl.reported, if_neg ho, hb,
      paramCount_eq (q₁.registered hr) (declaredFunction_registers h₁).2.1 (L.trans hF)]
    exact R.diagnostics

theorem visitField_visits {f : FieldDecl} (hr : Registered ctx s)
    (h : visitField f ctx s = .ok ((), s')) :
    Visits ctx s s' fun F => Decl.reported ctx (paramCount ctx F) (.field f) := by
  rcases visitField_steps h with ⟨hn, rfl⟩ | ⟨init, v, s₁, u, s₂, hi, hc, h₁, h₂, rfl⟩
  · have hnil : ∀ count, Decl.reported ctx count (.field f) = [] := by
      intro count
      rcases hn with hn | hn
      · simp [Decl.reported, hn]
      · cases hc : f.containingClass with
        | none => simp [hc] at hn
        | some c => cases f.init <;> simp [Decl.reported, hc]
    simp only [hnil]
    exact (Reports.refl _).visits hr (Later.refl _)
  · -- the initializer runs at the global initializer, then the state comes back
    let s₀ : State := { s with env := [], landing := none, current := none, cursor := s.globalCursor }
    let s₃ : State := { s₂ with
      globalCursor := s₂.cursor, cursor := s.cursor, env := s.env, landing := s.landing,
      current := s.current }
    have r₀ : Reports ctx s s₀ ⟨[], []⟩ := Reports.of_program rfl rfl rfl rfl
    have r₂ := (lowerExpr_reports init h₁ rfl).seq_silent (emit_silent h₂)
    have k₂ := (lowerExpr_keeps init h₁).trans (emit_keeps h₂)
    have r₃ : Reports ctx s₂ s₃ _ := Reports.of_program rfl rfl rfl rfl
    have L : Later s s₃ := (Later.of_program rfl rfl : Later s s₀).trans
      ((Later.of_reports r₂ k₂).trans (Later.of_program rfl rfl))
    simp only [Decl.reported, hi, hc]
    exact ((r₀.nil_seq r₂).seq_nil r₃).visits hr L

mutual

theorem visitDecl_visits : ∀ (d : Decl) {s s' : State}, Registered ctx s →
    visitDecl d ctx s = .ok ((), s') →
    Visits ctx s s' fun F => d.flattenOne.flatMap (Decl.reported ctx (paramCount ctx F))
  | .klass c members, s, s', hr, h => by
    obtain ⟨k, s₁, h₁, h₂⟩ := visitDecl_klass_steps h
    have q₁ := klassId_silent h₁
    have v := (q₁.visits hr (Later.of_reports q₁ (klassId_keeps h₁))).trans
      (visitDecls_visits members (q₁.registered hr) h₂)
    simpa [Decl.flattenOne, Decl.reported] using v
  | .function f, s, s', hr, h => by
    simpa [Decl.flattenOne] using selectFunction_visits hr (by rwa [visitDecl_function] at h)
  | .field f, s, s', hr, h => by
    simpa [Decl.flattenOne] using visitField_visits hr (by rwa [visitDecl_field] at h)

theorem visitDecls_visits : ∀ (ds : List Decl) {s s' : State}, Registered ctx s →
    visitDecls ds ctx s = .ok ((), s') →
    Visits ctx s s' fun F => (Decl.flatten ds).flatMap (Decl.reported ctx (paramCount ctx F))
  | [], s, s', hr, h => by
    rw [visitDecls_nil_steps h]
    simpa [Decl.flatten] using (Reports.refl s).visits hr (Later.refl s)
  | d :: ds, s, s', hr, h => by
    obtain ⟨s₁, h₁, h₂⟩ := visitDecls_cons_steps h
    have v₁ := visitDecl_visits d hr h₁
    simpa [Decl.flatten] using v₁.trans (visitDecls_visits ds v₁.registered h₂)

end

/-- The diagnostics of a selection are exactly its soft failures, one warning for each, at the
node's span and with its code, in lowering order: those of the bodies of the functions that are
no fake override (with their first parameters bound, as many as declared for a declared
function) and those of the initializers of global fields. -/
theorem selection_diagnostics_eq_soft_failures {m : Tree.Module} {cfg : Config} {sel : Selection}
    (h : selectModule m cfg = .ok sel) :
    ∃ count : DefId → Nat,
      (∀ id f, (moduleContext m cfg).functionDecl? id = some f → count id = f.params.length) ∧
      sel.diagnostics.map Diagnostic.summary =
        (m.reported (moduleContext m cfg) count).map softWarning := by
  obtain ⟨s₁, s, h₁, h₂, rfl⟩ := selectModule_steps h
  have v := visitDecls_visits m.decls (fun _ _ h => absurd h List.not_mem_nil) h₁
  -- closing the global initializer reports nothing
  have e₂ : Silent (moduleContext m cfg) s₁ s ∧ Later s₁ s := by
    have q : Silent (moduleContext m cfg) s₁ { s₁ with cursor := s₁.globalCursor } :=
      Silent.of_program rfl rfl rfl rfl
    rcases finishGlobalInit_steps h₂ with ⟨-, rfl⟩ | ⟨-, u, he⟩
    · exact ⟨q, Later.of_program rfl rfl⟩
    · exact ⟨q.trans (emit_silent he), (Later.of_program rfl rfl :
        Later s₁ { s₁ with cursor := s₁.globalCursor }).trans
        (Later.of_reports (emit_silent he) (emit_keeps he))⟩
  refine ⟨paramCount (moduleContext m cfg) s, fun id f hf => by simp [paramCount, hf], ?_⟩
  rw [e₂.1.diagnostics, List.map_nil, List.append_nil, v.diagnostics s e₂.2]
  rfl

/-- A module with every soft failure: a function reads its parameter and a local bound nowhere,
takes the instance of a class that is no unit singleton, asserts non-null, concatenates
strings and throws; a global's initializer reads the unbound local. -/
def warningsModule : Tree.Module :=
  let sp (n : Nat) : Span := ⟨n, n + 1, 1, n⟩
  let x : Expr := .node (.read ⟨0⟩ "x") .int (sp 1)
  let ghost : Expr := .node (.read ⟨7⟩ "ghost") .int (sp 2)
  ⟨"warnings", [.klass ⟨⟨0⟩, "Box", {}, false, sp 0⟩ [],
    .function ⟨⟨1⟩, "run", [⟨⟨0⟩, "x", .int⟩], .unit,
      some (.block [x, ghost, .node (.objectValue ⟨0⟩) (.classRef ⟨0⟩) (sp 3),
        .node (.typeOp .implicitNotNull x .int) .int (sp 4), .node (.stringConcat [ghost]) .string (sp 5),
        .node (.throw x) .nothing (sp 6)]), .defined, false, none, sp 0⟩,
    .field ⟨⟨2⟩, "seed", .int, none, some ghost, sp 0⟩]⟩

theorem warningsModule_diagnostics : ∃ sel, selectModule warningsModule {} = .ok sel ∧
    ∃ count : DefId → Nat, (∀ id f, (moduleContext warningsModule {}).functionDecl? id = some f →
      count id = f.params.length) ∧
      sel.diagnostics.map Diagnostic.summary =
        (warningsModule.reported (moduleContext warningsModule {}) count).map softWarning := by
  have hok : (selectModule warningsModule {}).isOk = true := by decide +kernel
  cases h : selectModule warningsModule {} with
  | error e =>
    rw [h] at hok
    cases hok
  | ok sel => exact ⟨sel, rfl, selection_diagnostics_eq_soft_failures h⟩

-- The function's body reports five failures in order, the global's initializer one.
example : (selectModule warningsModule {}).toOption.map (·.diagnostics.map Diagnostic.summary) =
    some ([(.unresolvedVariable, ⟨2, 3, 1, 2⟩), (.singletonInit, ⟨3, 4, 1, 3⟩),
      (.unfinishedCoercion, ⟨4, 5, 1, 4⟩), (.unsupportedNode, ⟨5, 6, 1, 5⟩),
      (.throwPropagation, ⟨6, 7, 1, 6⟩), (.unresolvedVariable, ⟨2, 3, 1, 2⟩)].map softWarning) := by
  decide +kernel

end Declarations

end Isel.Lower
