import Isel.Proofs.Steps
import Isel.Lower.Module

/-!
# The steps of selecting declarations

One inversion lemma for each function that visits declarations: a function body is lowered
from a fresh `entry` block with only its parameters bound, a field initializer from the end of
the global initializer with nothing bound, and a module is its declarations in order followed
by the closing `ret` of the global initializer. A loop over a list keeps whatever each of its
iterations keeps.
-/

namespace Isel.Lower

open Isel.Graph (Operand Instr Var)
open Isel.Tree (Expr FunctionDecl FieldDecl Decl Module Body)

variable {ctx : Context} {s s' : State}

theorem beginFunction_run {fn : Nat} (h : fn < s.program.functions.length) :
    beginFunction fn ctx s =
      .ok ((), { s.mapFn fn (·.addBlock "entry") with cursor := ⟨fn, (s.fn fn).blocks.length⟩ }) := by
  unfold beginFunction
  rw [bind_of_ok (functionAt_run ctx s h)]
  rfl

theorem beginFunction_ok {fn : Nat} {t : State} (h : beginFunction fn ctx s = .ok ((), t)) :
    fn < s.program.functions.length ∧
      t = { s.mapFn fn (·.addBlock "entry") with cursor := ⟨fn, (s.fn fn).blocks.length⟩ } := by
  obtain ⟨f, t₁, h₁, -⟩ := bind_ok h
  have hf := (functionAt_ok h₁).1
  rw [beginFunction_run hf] at h
  cases h
  exact ⟨hf, rfl⟩

theorem forM_inv {γ : Type} {g : γ → LowerM PUnit} {I : State → Prop} :
    ∀ {xs : List γ}, (∀ x ∈ xs, ∀ {t t' : State} {u : PUnit}, I t → g x ctx t = .ok (u, t') → I t') →
      ∀ {s s' : State}, I s → xs.forM g ctx s = .ok ((), s') → I s'
  | [], _, s, s', hs, h => by
    cases h
    exact hs
  | x :: xs, hg, s, s', hs, h => by
    obtain ⟨u, t, h₁, h₂⟩ := bind_ok (x := g x) (f := fun _ => xs.forM g) h
    exact forM_inv (fun y hy => hg y (List.mem_cons_of_mem x hy)) (hg x List.mem_cons_self hs h₁) h₂

/-! ## Function bodies -/

/-- Where a body is lowered: a new `entry` block of function `fn` at the cursor, the declared
span on the function, no loop, no landing block, `d` as the function being lowered, and its
parameters bound to the function's parameter variables. -/
def State.enterBody (s : State) (fn : Nat) (d : FunctionDecl) : State :=
  let t : State :=
    { (s.mapFn fn (·.addBlock "entry")).mapFn fn (fun f => { f with span := d.span }) with
      cursor := ⟨fn, (s.fn fn).blocks.length⟩, loops := [], landing := none, current := some d }
  { t with env := ((d.params.zip t.curFn.params).map fun pv => (pv.1.var, Operand.var pv.2)).reverse }

/-- The value a body's statements leave: the expression's value, or `unit` after statements. -/
inductive BodyRun (ctx : Context) : Body → State → Operand → State → Prop
  | expression {e s v s'} : lowerExpr e ctx s = .ok (v, s') → BodyRun ctx (.expression e) s v s'
  | block {stmts s s'} (g : Expr → LowerM PUnit)
      (hg : ∀ e t t' u, g e ctx t = .ok (u, t') → ∃ w, lowerExpr e ctx t = .ok (w, t')) :
      stmts.forM g ctx s = .ok ((), s') → BodyRun ctx (.block stmts) s .unit s'

theorem finishBody_steps {m : LowerM Operand} {d : FunctionDecl}
    (h : (do
      let value ← m
      unless ← isTerminated do
        let _ ← emit (.ret (if d.returnTy == .unit || d.returnTy == .nothing then .unit else value))
      modify fun s => { s with current := none } : LowerM Unit) ctx s = .ok ((), s')) :
    ∃ v s₂ s₃, m ctx s = .ok (v, s₂) ∧
      ((s₂.curBlock.isTerminal = true ∧ s₃ = s₂) ∨
        (s₂.curBlock.isTerminal = false ∧ ∃ u, emit (.ret (if d.returnTy == .unit ||
          d.returnTy == .nothing then .unit else v)) ctx s₂ = .ok (u, s₃))) ∧
      s' = { s₃ with current := none } := by
  obtain ⟨v, s₂, h₂, h⟩ := bind_ok h
  obtain ⟨t, s₃, h₃, h⟩ := bind_ok h
  obtain ⟨-, rfl, hs⟩ := isTerminated_ok h₃
  subst s₃
  refine ⟨v, s₂, ?_⟩
  by_cases ht : s₂.curBlock.isTerminal = true
  · rw [if_pos ht] at h
    cases h
    exact ⟨s₂, h₂, .inl ⟨ht, rfl⟩, rfl⟩
  · rw [if_neg ht] at h
    obtain ⟨u, s₃, h₃, h⟩ := bind_ok h
    cases h
    exact ⟨s₃, h₂, .inr ⟨by simpa using ht, u, h₃⟩, rfl⟩

theorem selectFunction_steps {d : FunctionDecl} (h : selectFunction d ctx s = .ok ((), s')) :
    (d.origin = .fakeOverride ∧ s' = s) ∨
      (d.origin ≠ .fakeOverride ∧ ∃ fn s₁, declaredFunction d.defId d.name [] .void ctx s = .ok (fn, s₁) ∧
        ((d.body = none ∧ s' = s₁) ∨
          ∃ body v s₂ s₃, d.body = some body ∧ BodyRun ctx body (s₁.enterBody fn d) v s₂ ∧
            ((s₂.curBlock.isTerminal = true ∧ s₃ = s₂) ∨
              (s₂.curBlock.isTerminal = false ∧ ∃ u, emit (.ret (if d.returnTy == .unit ||
                d.returnTy == .nothing then .unit else v)) ctx s₂ = .ok (u, s₃))) ∧
            s' = { s₃ with current := none })) := by
  unfold selectFunction at h
  by_cases ho : d.origin = .fakeOverride
  · simp only [ho, beq_self_eq_true, ite_true] at h
    exact .inl ⟨ho, (pure_ok h).2⟩
  · refine .inr ⟨ho, ?_⟩
    simp only [show (d.origin == .fakeOverride) = false from by simpa using ho] at h
    obtain ⟨fn, s₁, h₁, h⟩ := bind_ok h
    refine ⟨fn, s₁, h₁, ?_⟩
    cases hb : d.body with
    | none =>
      rw [hb] at h
      exact .inl ⟨rfl, (pure_ok h).2⟩
    | some body =>
      rw [hb] at h
      refine .inr ?_
      obtain ⟨_, s₂, h₂, h⟩ := bind_ok h
      obtain ⟨-, rfl⟩ := beginFunction_ok h₂
      obtain ⟨_, s₃, h₃, h⟩ := bind_ok h
      rw [modifyFunction_run] at h₃; cases h₃
      obtain ⟨_, s₄, h₄, h⟩ := bind_ok h
      cases h₄
      obtain ⟨f, s₅, h₅, h⟩ := bind_ok h
      obtain ⟨-, rfl, rfl⟩ := currentFunction_ok h₅
      obtain ⟨_, s₆, h₆, h⟩ := bind_ok h
      rw [forM_bindLocal_run _ _ _ _ (fun x => x.1.var) (fun x => .var x.2)
        fun x => by cases x; rfl] at h₆
      cases h₆
      simp only [List.append_nil] at h
      cases body with
      | expression e =>
        obtain ⟨v, s₂, s₃, h₂, h₃, rfl⟩ := finishBody_steps h
        exact ⟨.expression e, v, s₂, s₃, rfl, .expression h₂, h₃, rfl⟩
      | block stmts =>
        obtain ⟨_, s₇, h₇, h⟩ := bind_ok h
        obtain ⟨v, s₂, s₃, h₂, h₃, rfl⟩ := finishBody_steps h
        obtain ⟨rfl, rfl⟩ := pure_ok h₂
        refine ⟨.block stmts, .unit, s₂, s₃, rfl, .block _ (fun e t t' u he => ?_) h₇, h₃, rfl⟩
        obtain ⟨w, t₁, h₁, h⟩ := bind_ok he
        obtain ⟨-, rfl⟩ := pure_ok h
        exact ⟨w, h₁⟩
      | synthetic =>
        obtain ⟨_, _, h₇, -⟩ := bind_ok h
        exact absurd h₇ throw_ok

/-! ## Field initializers and the global initializer -/

theorem visitField_steps {f : FieldDecl} (h : visitField f ctx s = .ok ((), s')) :
    ((f.init = none ∨ f.containingClass.isSome = true) ∧ s' = s) ∨
      ∃ init v s₁ u s₂, f.init = some init ∧ f.containingClass = none ∧
        lowerExpr init ctx
          { s with env := [], landing := none, current := none, cursor := s.globalCursor } =
          .ok (v, s₁) ∧
        emit (.store v (.symbol f.name) 0) ctx s₁ = .ok (u, s₂) ∧
        s' = { s₂ with
          globalCursor := s₂.cursor, cursor := s.cursor, env := s.env, landing := s.landing,
          current := s.current } := by
  unfold visitField at h
  cases hi : f.init with
  | none =>
    rw [hi] at h
    exact .inl ⟨.inl rfl, (pure_ok h).2⟩
  | some init =>
    rw [hi] at h
    cases hc : f.containingClass with
    | some c =>
      simp only [hc, Option.isSome_some, ite_true] at h
      exact .inl ⟨.inr rfl, (pure_ok h).2⟩
    | none =>
      simp only [hc, Option.isSome_none, Bool.false_eq_true, ite_false] at h
      obtain ⟨t, t₁, h₁, h⟩ := bind_ok h
      rw [get_run] at h₁; cases h₁
      obtain ⟨_, t₂, h₂, h⟩ := bind_ok h
      cases h₂
      obtain ⟨v, s₁, h₃, h⟩ := bind_ok h
      obtain ⟨u, s₂, h₄, h⟩ := bind_ok h
      cases h
      exact .inr ⟨init, v, s₁, u, s₂, rfl, rfl, h₃, h₄, rfl⟩

theorem finishGlobalInit_steps (h : finishGlobalInit ctx s = .ok ((), s')) :
    (({ s with cursor := s.globalCursor } : State).curBlock.isTerminal = true ∧
        s' = { s with cursor := s.globalCursor }) ∨
      (({ s with cursor := s.globalCursor } : State).curBlock.isTerminal = false ∧
        ∃ u, emit (.ret .unit) ctx { s with cursor := s.globalCursor } = .ok (u, s')) := by
  unfold finishGlobalInit at h
  obtain ⟨_, s₁, h₁, h⟩ := bind_ok h
  cases h₁
  obtain ⟨t, s₂, h₂, h⟩ := bind_ok h
  obtain ⟨-, rfl, rfl⟩ := isTerminated_ok h₂
  by_cases ht : ({ s with cursor := s.globalCursor } : State).curBlock.isTerminal = true
  · rw [if_pos ht] at h
    exact .inl ⟨ht, (pure_ok h).2⟩
  · rw [if_neg ht] at h
    obtain ⟨u, s₃, h₃, h⟩ := bind_ok h
    obtain ⟨-, rfl⟩ := pure_ok h
    exact .inr ⟨by simpa using ht, u, h₃⟩

/-! ## Modules -/

theorem visitDecl_klass_steps {c : Tree.ClassInfo} {members : List Decl}
    (h : visitDecl (.klass c members) ctx s = .ok ((), s')) :
    ∃ k s₁, klassId c.defId ctx s = .ok (k, s₁) ∧ visitDecls members ctx s₁ = .ok ((), s') := by
  simp only [visitDecl] at h
  obtain ⟨k, s₁, h₁, h⟩ := bind_ok h
  exact ⟨k, s₁, h₁, h⟩

theorem visitDecl_function {f : FunctionDecl} :
    visitDecl (.function f) ctx s = selectFunction f ctx s := by
  simp only [visitDecl]

theorem visitDecl_field {f : FieldDecl} : visitDecl (.field f) ctx s = visitField f ctx s := by
  simp only [visitDecl]

theorem visitDecls_nil_steps (h : visitDecls [] ctx s = .ok ((), s')) : s' = s := by
  simp only [visitDecls] at h
  exact (pure_ok h).2

theorem visitDecls_cons_steps {d : Decl} {ds : List Decl}
    (h : visitDecls (d :: ds) ctx s = .ok ((), s')) :
    ∃ s₁, visitDecl d ctx s = .ok ((), s₁) ∧ visitDecls ds ctx s₁ = .ok ((), s') := by
  simp only [visitDecls] at h
  obtain ⟨_, s₁, h₁, h⟩ := bind_ok h
  exact ⟨s₁, h₁, h⟩

def moduleContext (m : Module) (cfg : Config) : Context :=
  ⟨(Decl.flatten m.decls).reverse, cfg.pointerSize⟩

theorem selectModule_eq_ok {m : Module} {cfg : Config} {sel : Selection} :
    selectModule m cfg = .ok sel ↔ select m cfg = .ok sel := by
  unfold selectModule
  split <;> simp_all

theorem selectModule_steps {m : Module} {cfg : Config} {sel : Selection}
    (h : selectModule m cfg = .ok sel) :
    ∃ s₁ s, visitDecls m.decls (moduleContext m cfg) (State.start cfg.globalInitName) = .ok ((), s₁) ∧
      finishGlobalInit (moduleContext m cfg) s₁ = .ok ((), s) ∧ sel = ⟨s.program, s.diagnostics⟩ := by
  rw [selectModule_eq_ok] at h
  unfold select at h
  dsimp only at h
  cases hr : ((visitDecls m.decls *> finishGlobalInit).run (moduleContext m cfg)).run
      (State.start cfg.globalInitName) with
  | error e =>
    simp only [moduleContext] at hr
    rw [hr] at h
    cases h
  | ok r =>
    obtain ⟨⟨⟩, s⟩ := r
    simp only [moduleContext] at hr
    rw [hr] at h
    cases h
    obtain ⟨_, s₁, h₁, h₂⟩ := bind_ok (x := visitDecls m.decls) (f := fun _ => finishGlobalInit) hr
    exact ⟨s₁, s, h₁, h₂, rfl⟩

end Isel.Lower
