import Isel.Proofs.Run

/-!
# The steps of each lowering

One inversion lemma per kind of expression: a successful lowering is the sequence of runs its
`do` block makes, each on the state the one before left. Cursor moves, loop frames, landing
blocks and bindings are written out as the states they make; blocks, instructions, fresh
variables and the lowering of sub-expressions stay runs, so that each property of selection
applies its own lemma about them. Proofs about lowering take a run apart here once and never
unfold `lowerKind` again.
-/

namespace Isel.Lower

open Isel.Graph (Operand Instr Var)
open Isel.Tree (Expr ExprKind Arm Catch VarargElem LoopId LocalId DefId Callee FieldRef TypeOp)

variable {ctx : Context} {s s' : State} {v : Operand}

-- The equations of the lowering are made once, here, and not by each lemma below at once.
attribute [local simp] lowerKind lowerArms lowerBlock lowerHandlers lowerList lowerOpt lowerVararg applyIntrinsic

/-! ## Literals, type operators and plain sequences -/

theorem literal_steps {l : Tree.Literal} {ty span}
    (h : lowerKind (.literal l) ty span ctx s = .ok (v, s')) :
    v = literalOperand l ∧ s' = s := by
  simp only [lowerKind] at h
  exact pure_ok h

theorem cast_steps {op : TypeOp} {arg : Expr} {operand ty span}
    (hop : op = .cast ∨ op = .safeCast)
    (h : lowerKind (.typeOp op arg operand) ty span ctx s = .ok (v, s')) :
    ∃ a s₁ t s₂ dst s₃, lowerExpr arg ctx s = .ok (a, s₁) ∧ lowerType operand ctx s₁ = .ok (t, s₂) ∧
      freshVar t ctx s₂ = .ok (dst, s₃) ∧ emit (.cast dst a) ctx s₃ = .ok (v, s') := by
  rcases hop with rfl | rfl <;> simp only [lowerKind] at h <;>
  · obtain ⟨a, s₁, h₁, h⟩ := bind_ok h
    obtain ⟨t, s₂, h₂, h⟩ := bind_ok h
    obtain ⟨dst, s₃, h₃, h⟩ := bind_ok h
    exact ⟨a, s₁, t, s₂, dst, s₃, h₁, h₂, h₃, h⟩

theorem implicitCast_steps {arg : Expr} {operand ty span}
    (h : lowerKind (.typeOp .implicitCast arg operand) ty span ctx s = .ok (v, s')) :
    lowerExpr arg ctx s = .ok (v, s') := by
  simpa only [lowerKind] using h

theorem implicitNotNull_steps {arg : Expr} {operand ty span}
    (h : lowerKind (.typeOp .implicitNotNull arg operand) ty span ctx s = .ok (v, s')) :
    ∃ a s₁, lowerExpr arg ctx s = .ok (a, s₁) ∧
      s' = s₁.warn .unfinishedCoercion "implicit not-null coercion is not lowered" span ∧
      v = .null := by
  simp only [lowerKind] at h
  obtain ⟨a, s₁, h₁, h⟩ := bind_ok h
  obtain ⟨_, _, h₂, h⟩ := bind_ok h
  rw [softFailure_run] at h₂; cases h₂
  obtain ⟨rfl, rfl⟩ := pure_ok h
  exact ⟨a, s₁, h₁, rfl, rfl⟩

theorem coercionToUnit_steps {arg : Expr} {operand ty span}
    (h : lowerKind (.typeOp .coercionToUnit arg operand) ty span ctx s = .ok (v, s')) :
    ∃ a, lowerExpr arg ctx s = .ok (a, s') ∧ v = .unit := by
  simp only [lowerKind] at h
  obtain ⟨a, s₁, h₁, h⟩ := bind_ok h
  obtain ⟨rfl, rfl⟩ := pure_ok h
  exact ⟨a, h₁, rfl⟩

theorem integerCoercion_steps {arg : Expr} {operand ty span}
    (h : lowerKind (.typeOp .integerCoercion arg operand) ty span ctx s = .ok (v, s')) :
    ∃ a s₁, operand.isInteger = true ∧ lowerExpr arg ctx s = .ok (a, s₁) ∧
      coerceInteger a operand ctx s₁ = .ok (v, s') := by
  simp only [lowerKind] at h
  cases hi : operand.isInteger
  · simp only [hi, Bool.not_false, ite_true] at h
    obtain ⟨_, _, h₀, -⟩ := bind_ok h
    exact (throw_ok h₀).elim
  · simp only [hi, Bool.not_true] at h
    obtain ⟨a, s₁, h₁, h⟩ := bind_ok h
    exact ⟨a, s₁, rfl, h₁, h⟩

theorem typeTest_steps {op : TypeOp} {arg : Expr} {operand ty span}
    (hop : op = .instanceOf ∨ op = .notInstanceOf)
    (h : lowerKind (.typeOp op arg operand) ty span ctx s = .ok (v, s')) :
    ∃ a s₁ t s₂ dst s₃, lowerExpr arg ctx s = .ok (a, s₁) ∧ lowerType operand ctx s₁ = .ok (t, s₂) ∧
      freshVar .boolean ctx s₂ = .ok (dst, s₃) ∧
      emit (.typeTest (if op == .instanceOf then .isInstance else .notInstance) dst a t) ctx s₃ =
        .ok (v, s') := by
  rcases hop with rfl | rfl <;> simp only [lowerKind] at h <;>
  · obtain ⟨a, s₁, h₁, h⟩ := bind_ok h
    obtain ⟨t, s₂, h₂, h⟩ := bind_ok h
    obtain ⟨dst, s₃, h₃, h⟩ := bind_ok h
    exact ⟨a, s₁, t, s₂, dst, s₃, h₁, h₂, h₃, h⟩

theorem instanceInit_steps {cls : DefId} {ty span}
    (h : lowerKind (.instanceInit cls) ty span ctx s = .ok (v, s')) : v = .unit ∧ s' = s := by
  simp only [lowerKind] at h
  exact pure_ok h

theorem block_steps {stmts : List Expr} {ty span}
    (h : lowerKind (.block stmts) ty span ctx s = .ok (v, s')) :
    lowerBlock stmts ctx s = .ok (v, s') := by
  simpa only [lowerKind] using h

/-! ## Loops and jumps -/

theorem whileLoop_steps {loop : LoopId} {cond : Expr} {body : Option Expr} {ty span}
    (h : lowerKind (.whileLoop loop cond body) ty span ctx s = .ok (v, s')) :
    ∃ check s₁ bodyB s₂ exit s₃ u₁ s₄ c s₅ u₂ s₆ b s₇ s₈,
      newBlock "while.check" ctx s = .ok (check, s₁) ∧
      newBlock "while.body" ctx s₁ = .ok (bodyB, s₂) ∧
      newBlock "while.exit" ctx s₂ = .ok (exit, s₃) ∧
      emit (.br check) ctx s₃ = .ok (u₁, s₄) ∧
      lowerExpr cond ctx (s₄.moveTo check) = .ok (c, s₅) ∧
      emit (.condBr c bodyB exit) ctx s₅ = .ok (u₂, s₆) ∧
      lowerOpt body ctx ({ s₆ with loops := ⟨loop, check, exit⟩ :: s₆.loops }.moveTo bodyB) =
        .ok (b, s₇) ∧
      jumpIfOpen check ctx s₇ = .ok ((), s₈) ∧
      s' = { s₈ with loops := s₈.loops.tail }.moveTo exit ∧ v = .unit := by
  simp only [lowerKind] at h
  obtain ⟨check, s₁, h₁, h⟩ := bind_ok h
  obtain ⟨bodyB, s₂, h₂, h⟩ := bind_ok h
  obtain ⟨exit, s₃, h₃, h⟩ := bind_ok h
  obtain ⟨u₁, s₄, h₄, h⟩ := bind_ok h
  obtain ⟨_, _, h₅, h⟩ := bind_ok h
  rw [switchTo_run] at h₅; cases h₅
  obtain ⟨c, s₅, h₆, h⟩ := bind_ok h
  obtain ⟨u₂, s₆, h₇, h⟩ := bind_ok h
  obtain ⟨_, _, h₈, h⟩ := bind_ok h
  rw [pushLoop_run] at h₈; cases h₈
  obtain ⟨_, _, h₉, h⟩ := bind_ok h
  rw [switchTo_run] at h₉; cases h₉
  obtain ⟨b, s₇, h₁₀, h⟩ := bind_ok h
  obtain ⟨_, s₈, h₁₁, h⟩ := bind_ok h
  obtain ⟨_, _, h₁₂, h⟩ := bind_ok h
  rw [popLoop_run] at h₁₂; cases h₁₂
  obtain ⟨_, _, h₁₃, h⟩ := bind_ok h
  rw [switchTo_run] at h₁₃; cases h₁₃
  obtain ⟨rfl, rfl⟩ := pure_ok h
  exact ⟨check, s₁, bodyB, s₂, exit, s₃, u₁, s₄, c, s₅, u₂, s₆, b, s₇, s₈,
    h₁, h₂, h₃, h₄, h₆, h₇, h₁₀, h₁₁, rfl, rfl⟩

theorem doWhile_steps {loop : LoopId} {cond : Expr} {body : Option Expr} {ty span}
    (h : lowerKind (.doWhile loop cond body) ty span ctx s = .ok (v, s')) :
    ∃ check s₁ bodyB s₂ exit s₃ u₁ s₄ b s₅ s₆ c s₇ u₂ s₈,
      newBlock "do.check" ctx s = .ok (check, s₁) ∧
      newBlock "do.body" ctx s₁ = .ok (bodyB, s₂) ∧
      newBlock "do.exit" ctx s₂ = .ok (exit, s₃) ∧
      emit (.br bodyB) ctx s₃ = .ok (u₁, s₄) ∧
      lowerOpt body ctx ({ s₄ with loops := ⟨loop, check, exit⟩ :: s₄.loops }.moveTo bodyB) =
        .ok (b, s₅) ∧
      jumpIfOpen check ctx s₅ = .ok ((), s₆) ∧
      lowerExpr cond ctx (s₆.moveTo check) = .ok (c, s₇) ∧
      emit (.condBr c bodyB exit) ctx s₇ = .ok (u₂, s₈) ∧
      s' = { s₈ with loops := s₈.loops.tail }.moveTo exit ∧ v = .unit := by
  simp only [lowerKind] at h
  obtain ⟨check, s₁, h₁, h⟩ := bind_ok h
  obtain ⟨bodyB, s₂, h₂, h⟩ := bind_ok h
  obtain ⟨exit, s₃, h₃, h⟩ := bind_ok h
  obtain ⟨u₁, s₄, h₄, h⟩ := bind_ok h
  obtain ⟨_, _, h₅, h⟩ := bind_ok h
  rw [pushLoop_run] at h₅; cases h₅
  obtain ⟨_, _, h₆, h⟩ := bind_ok h
  rw [switchTo_run] at h₆; cases h₆
  obtain ⟨b, s₅, h₇, h⟩ := bind_ok h
  obtain ⟨_, s₆, h₈, h⟩ := bind_ok h
  obtain ⟨_, _, h₉, h⟩ := bind_ok h
  rw [switchTo_run] at h₉; cases h₉
  obtain ⟨c, s₇, h₁₀, h⟩ := bind_ok h
  obtain ⟨u₂, s₈, h₁₁, h⟩ := bind_ok h
  obtain ⟨_, _, h₁₂, h⟩ := bind_ok h
  rw [popLoop_run] at h₁₂; cases h₁₂
  obtain ⟨_, _, h₁₃, h⟩ := bind_ok h
  rw [switchTo_run] at h₁₃; cases h₁₃
  obtain ⟨rfl, rfl⟩ := pure_ok h
  exact ⟨check, s₁, bodyB, s₂, exit, s₃, u₁, s₄, b, s₅, s₆, c, s₇, u₂, s₈,
    h₁, h₂, h₃, h₄, h₇, h₈, h₁₀, h₁₁, rfl, rfl⟩

theorem findLoop_ok {loop : LoopId} {e : LoopExit} {span} {fr : LoopFrame}
    (h : findLoop loop e span ctx s = .ok (fr, s')) :
    s.loops.find? (·.loop == loop) = some fr ∧ s' = s := by
  rw [findLoop_run] at h
  generalize s.loops.find? _ = o at h ⊢
  cases o with
  | none => cases h
  | some fr' => cases h; exact ⟨rfl, rfl⟩

theorem findLoop_mem {loop : LoopId} {e : LoopExit} {span} {fr : LoopFrame}
    (h : findLoop loop e span ctx s = .ok (fr, s')) : fr ∈ s.loops ∧ s' = s :=
  ⟨List.mem_of_find?_eq_some (findLoop_ok h).1, (findLoop_ok h).2⟩

theorem breakLoop_steps {loop : LoopId} {ty span}
    (h : lowerKind (.breakLoop loop) ty span ctx s = .ok (v, s')) :
    ∃ fr u, findLoop loop .breakLoop span ctx s = .ok (fr, s) ∧
      emit (.br fr.exit) ctx s = .ok (u, s') ∧ v = .unit := by
  simp only [lowerKind] at h
  obtain ⟨fr, s₁, h₁, h⟩ := bind_ok h
  obtain ⟨u, s₂, h₂, h⟩ := bind_ok h
  obtain ⟨rfl, rfl⟩ := pure_ok h
  obtain ⟨-, rfl⟩ := findLoop_ok h₁
  exact ⟨fr, u, h₁, h₂, rfl⟩

theorem continueLoop_steps {loop : LoopId} {ty span}
    (h : lowerKind (.continueLoop loop) ty span ctx s = .ok (v, s')) :
    ∃ fr u, findLoop loop .continueLoop span ctx s = .ok (fr, s) ∧
      emit (.br fr.check) ctx s = .ok (u, s') ∧ v = .unit := by
  simp only [lowerKind] at h
  obtain ⟨fr, s₁, h₁, h⟩ := bind_ok h
  obtain ⟨u, s₂, h₂, h⟩ := bind_ok h
  obtain ⟨rfl, rfl⟩ := pure_ok h
  obtain ⟨-, rfl⟩ := findLoop_ok h₁
  exact ⟨fr, u, h₁, h₂, rfl⟩

theorem ret_steps {target : DefId} {value : Expr} {ty span}
    (h : lowerKind (.ret target value) ty span ctx s = .ok (v, s')) :
    ∃ a s₁ u, lowerExpr value ctx s = .ok (a, s₁) ∧ emit (.ret a) ctx s₁ = .ok (u, s') ∧
      (v = .unit ∨ v = a) := by
  simp only [lowerKind] at h
  obtain ⟨a, s₁, h₁, h⟩ := bind_ok h
  obtain ⟨u, s₂, h₂, h⟩ := bind_ok h
  obtain ⟨unit, s₃, h₃, h⟩ := bind_ok h
  have hs : s₃ = s₂ := by
    rw [returnsUnit_run] at h₃
    cases h₃; rfl
  subst hs
  have hv : (v = .unit ∨ v = a) ∧ s' = s₃ := by
    cases unit
    · obtain ⟨rfl, rfl⟩ := pure_ok h
      exact ⟨.inr rfl, rfl⟩
    · obtain ⟨rfl, rfl⟩ := pure_ok h
      exact ⟨.inl rfl, rfl⟩
  obtain ⟨hv, rfl⟩ := hv
  exact ⟨a, s₁, u, h₁, h₂, hv⟩


/-! ## Calls -/

theorem intrinsicCall_steps {callee : Callee} {dispatch extension : Option Expr} {args : List Expr}
    {ty span} (hs : CallShape.of callee dispatch extension args = .intrinsic)
    (h : lowerKind (.call callee dispatch extension args) ty span ctx s = .ok (v, s')) :
    ∃ intr d s₁ e s₂ a s₃, Intrinsic.ofName? callee.name = some intr ∧
      lowerOpt dispatch ctx s = .ok (d, s₁) ∧ lowerOpt extension ctx s₁ = .ok (e, s₂) ∧
      lowerList args ctx s₂ = .ok (a, s₃) ∧
      applyIntrinsic intr callee.name (d.toList ++ e.toList ++ a) ty span ctx s₃ = .ok (v, s') := by
  simp only [lowerKind, hs] at h
  cases hi : Intrinsic.ofName? callee.name with
  | none =>
    simp only [hi] at h
    exact (throw_ok h).elim
  | some intr =>
    simp only [hi] at h
    obtain ⟨d, s₁, h₁, h⟩ := bind_ok h
    obtain ⟨e, s₂, h₂, h⟩ := bind_ok h
    obtain ⟨a, s₃, h₃, h⟩ := bind_ok h
    exact ⟨intr, d, s₁, e, s₂, a, s₃, rfl, h₁, h₂, h₃, h⟩

theorem arithmeticCall_steps {callee : Callee} {dispatch extension : Option Expr}
    {args : List Expr} {ty span} {op : Graph.BinOp}
    (hs : CallShape.of callee dispatch extension args = .arithmetic op)
    (h : lowerKind (.call callee dispatch extension args) ty span ctx s = .ok (v, s')) :
    ∃ d s₁ e s₂ a s₃ t s₄ dst s₅,
      lowerOpt dispatch ctx s = .ok (d, s₁) ∧ lowerOpt extension ctx s₁ = .ok (e, s₂) ∧
      lowerList args ctx s₂ = .ok (a, s₃) ∧ lowerType ty ctx s₃ = .ok (t, s₄) ∧
      freshVar t ctx s₄ = .ok (dst, s₅) ∧
      emit (.binary op dst ((d.toList ++ e.toList ++ a).getD 0 .unit)
        ((d.toList ++ e.toList ++ a).getD 1 .unit)) ctx s₅ = .ok (v, s') := by
  simp only [lowerKind, hs] at h
  obtain ⟨d, s₁, h₁, h⟩ := bind_ok h
  obtain ⟨e, s₂, h₂, h⟩ := bind_ok h
  obtain ⟨a, s₃, h₃, h⟩ := bind_ok h
  obtain ⟨t, s₄, h₄, h⟩ := bind_ok h
  obtain ⟨dst, s₅, h₅, h⟩ := bind_ok h
  exact ⟨d, s₁, e, s₂, a, s₃, t, s₄, dst, s₅, h₁, h₂, h₃, h₄, h₅, h⟩

theorem constructCall_steps {callee : Callee} {dispatch extension : Option Expr}
    {args : List Expr} {ty span} {cls : DefId}
    (hs : CallShape.of callee dispatch extension args = .construct cls)
    (h : lowerKind (.call callee dispatch extension args) ty span ctx s = .ok (v, s')) :
    ∃ k s₁ obj s₂ u s₃ d s₄ e s₅ a s₆ fn s₇ r,
      klassId cls ctx s = .ok (k, s₁) ∧ freshVar (.klassPtr k) ctx s₁ = .ok (obj, s₂) ∧
      emit (.alloc obj k) ctx s₂ = .ok (u, s₃) ∧
      lowerOpt dispatch ctx s₃ = .ok (d, s₄) ∧ lowerOpt extension ctx s₄ = .ok (e, s₅) ∧
      lowerList args ctx s₅ = .ok (a, s₆) ∧
      calleeFor callee (.var obj :: (d.toList ++ e.toList ++ a)) .void ctx s₆ = .ok (fn, s₇) ∧
      generateCall fn .void (.var obj :: (d.toList ++ e.toList ++ a)) ctx s₇ = .ok (r, s') ∧
      v = .var obj := by
  simp only [lowerKind, hs] at h
  obtain ⟨k, s₁, h₁, h⟩ := bind_ok h
  obtain ⟨obj, s₂, h₂, h⟩ := bind_ok h
  obtain ⟨u, s₃, h₃, h⟩ := bind_ok h
  obtain ⟨d, s₄, h₄, h⟩ := bind_ok h
  obtain ⟨e, s₅, h₅, h⟩ := bind_ok h
  obtain ⟨a, s₆, h₆, h⟩ := bind_ok h
  obtain ⟨fn, s₇, h₇, h⟩ := bind_ok h
  obtain ⟨r, s₈, h₈, h⟩ := bind_ok h
  obtain ⟨rfl, rfl⟩ := pure_ok h
  exact ⟨k, s₁, obj, s₂, u, s₃, d, s₄, e, s₅, a, s₆, fn, s₇, r, h₁, h₂, h₃, h₄, h₅, h₆, h₇, h₈, rfl⟩

theorem plainCall_steps {callee : Callee} {dispatch extension : Option Expr}
    {args : List Expr} {ty span}
    (hs : CallShape.of callee dispatch extension args = .plain)
    (h : lowerKind (.call callee dispatch extension args) ty span ctx s = .ok (v, s')) :
    ∃ d s₁ e s₂ a s₃ ret s₄ fn s₅,
      lowerOpt dispatch ctx s = .ok (d, s₁) ∧ lowerOpt extension ctx s₁ = .ok (e, s₂) ∧
      lowerList args ctx s₂ = .ok (a, s₃) ∧ lowerType ty ctx s₃ = .ok (ret, s₄) ∧
      calleeFor callee (d.toList ++ e.toList ++ a) ret ctx s₄ = .ok (fn, s₅) ∧
      generateCall fn ret (d.toList ++ e.toList ++ a) ctx s₅ = .ok (v, s') := by
  simp only [lowerKind, hs] at h
  obtain ⟨d, s₁, h₁, h⟩ := bind_ok h
  obtain ⟨e, s₂, h₂, h⟩ := bind_ok h
  obtain ⟨a, s₃, h₃, h⟩ := bind_ok h
  obtain ⟨ret, s₄, h₄, h⟩ := bind_ok h
  obtain ⟨fn, s₅, h₅, h⟩ := bind_ok h
  exact ⟨d, s₁, e, s₂, a, s₃, ret, s₄, fn, s₅, h₁, h₂, h₃, h₄, h₅, h⟩

theorem delegatingCall_steps {callee : Callee} {args : List Expr} {ty span}
    (h : lowerKind (.delegatingCall callee args) ty span ctx s = .ok (v, s')) :
    ∃ receiver a s₁ fn s₂, s.curFn.params.head? = some receiver ∧
      lowerList args ctx s = .ok (a, s₁) ∧
      calleeFor callee (.var receiver :: a) .void ctx s₁ = .ok (fn, s₂) ∧
      generateCall fn .void (.var receiver :: a) ctx s₂ = .ok (v, s') := by
  simp only [lowerKind] at h
  obtain ⟨f, s₀, h₀, h⟩ := bind_ok h
  obtain ⟨-, rfl, hs⟩ := currentFunction_ok h₀
  subst s₀
  cases hr : s.curFn.params.head? with
  | none =>
    simp only [hr] at h
    exact (throw_ok h).elim
  | some receiver =>
    simp only [hr] at h
    obtain ⟨a, s₁, h₁, h⟩ := bind_ok h
    obtain ⟨fn, s₂, h₂, h⟩ := bind_ok h
    exact ⟨receiver, a, s₁, fn, s₂, rfl, h₁, h₂, h⟩

/-! ## Conditionals and locals -/

theorem whenArms_steps {arms : List Arm} {ty span}
    (h : lowerKind (.whenArms arms) ty span ctx s = .ok (v, s')) :
    ∃ result s₁ exit s₂ s₃ s₄, resultVar ty ctx s = .ok (result, s₁) ∧
      newBlock "when.exit" ctx s₁ = .ok (exit, s₂) ∧
      lowerArms arms result exit ctx s₂ = .ok ((), s₃) ∧
      (s₃.cursor.block ≠ exit → jumpIfOpen exit ctx s₃ = .ok ((), s₄)) ∧
      (s₃.cursor.block = exit → s₄ = s₃) ∧
      s' = s₄.moveTo exit ∧ v = (result.map Operand.var).getD .unit := by
  simp only [lowerKind] at h
  obtain ⟨result, s₁, h₁, h⟩ := bind_ok h
  obtain ⟨exit, s₂, h₂, h⟩ := bind_ok h
  obtain ⟨_, s₃, h₃, h⟩ := bind_ok h
  simp only [bind_run, get_run] at h
  by_cases hb : s₃.cursor.block = exit
  · simp only [hb, bne_self_eq_false, Bool.false_eq_true, ite_false] at h
    obtain ⟨_, _, h₅, h⟩ := bind_ok h
    rw [switchTo_run] at h₅; cases h₅
    obtain ⟨rfl, rfl⟩ := pure_ok h
    exact ⟨result, s₁, exit, s₂, s₃, s₃, h₁, h₂, h₃, fun h => (h hb).elim, fun _ => rfl,
      hb ▸ rfl, rfl⟩
  · simp only [bne_iff_ne, ne_eq, hb, not_false_eq_true, ite_true] at h
    obtain ⟨_, s₄, h₄, h⟩ := bind_ok h
    obtain ⟨_, _, h₅, h⟩ := bind_ok h
    rw [switchTo_run] at h₅; cases h₅
    obtain ⟨rfl, rfl⟩ := pure_ok h
    exact ⟨result, s₁, exit, s₂, s₃, s₄, h₁, h₂, h₃, fun _ => h₄, fun h => (hb h).elim, rfl, rfl⟩

theorem declare_steps {var : LocalId} {name : String} {varTy : Tree.Ty} {init : Option Expr}
    {ty span} (h : lowerKind (.declare var name varTy init) ty span ctx s = .ok (v, s')) :
    ∃ o s₁, lowerOpt init ctx s = .ok (o, s₁) ∧
      s' = { s₁ with env := (var, o.getD .null) :: s₁.env } ∧ v = .unit := by
  simp only [lowerKind] at h
  obtain ⟨o, s₁, h₁, h⟩ := bind_ok h
  obtain ⟨_, _, h₂, h⟩ := bind_ok h
  rw [bindLocal_run] at h₂; cases h₂
  obtain ⟨rfl, rfl⟩ := pure_ok h
  exact ⟨o, s₁, h₁, rfl, rfl⟩

theorem assign_steps {var : LocalId} {name : String} {value : Expr} {ty span}
    (h : lowerKind (.assign var name value) ty span ctx s = .ok (v, s')) :
    ∃ a s₁ u s₂, lowerExpr value ctx s = .ok (a, s₁) ∧
      emit (.mov ⟨a.ty, name⟩ a) ctx s₁ = .ok (u, s₂) ∧
      s' = { s₂ with env := (var, .var ⟨a.ty, name⟩) :: s₂.env } ∧ v = .unit := by
  simp only [lowerKind] at h
  obtain ⟨a, s₁, h₁, h⟩ := bind_ok h
  obtain ⟨u, s₂, h₂, h⟩ := bind_ok h
  obtain ⟨_, _, h₃, h⟩ := bind_ok h
  rw [bindLocal_run] at h₃; cases h₃
  obtain ⟨rfl, rfl⟩ := pure_ok h
  exact ⟨a, s₁, u, s₂, h₁, h₂, rfl, rfl⟩

theorem read_steps {var : LocalId} {name : String} {ty span}
    (h : lowerKind (.read var name) ty span ctx s = .ok (v, s')) :
    (s.env.lookup var = some v ∧ s' = s) ∨
      (s.env.lookup var = none ∧ v = .unit ∧ s' = s.warn .unresolvedVariable
        ("read of `" ++ name ++ "` (" ++ var.display ++ ") has no binding") span) := by
  simp only [lowerKind, bind_run, get_run] at h
  cases hv : s.env.lookup var with
  | some o =>
    simp only [hv] at h
    obtain ⟨rfl, rfl⟩ := pure_ok h
    exact .inl ⟨rfl, rfl⟩
  | none =>
    simp only [hv] at h
    obtain ⟨_, _, h₁, h⟩ := bind_ok h
    rw [softFailure_run] at h₁; cases h₁
    obtain ⟨rfl, rfl⟩ := pure_ok h
    exact .inr ⟨rfl, rfl, rfl⟩

theorem vararg_steps {elems : List VarargElem} {ty span}
    (h : lowerKind (.vararg elems) ty span ctx s = .ok (v, s')) :
    ∃ vs s₁ t, lowerVararg elems ctx s = .ok (vs, s₁) ∧ lowerType ty ctx s₁ = .ok (t, s') ∧
      v = .const t (.elements vs) := by
  simp only [lowerKind] at h
  obtain ⟨vs, s₁, h₁, h⟩ := bind_ok h
  obtain ⟨t, s₂, h₂, h⟩ := bind_ok h
  obtain ⟨rfl, rfl⟩ := pure_ok h
  exact ⟨vs, s₁, t, h₁, h₂, rfl⟩

theorem throw_steps {value : Expr} {ty span}
    (h : lowerKind (.throw value) ty span ctx s = .ok (v, s')) :
    ∃ a s₁, lowerExpr value ctx s = .ok (a, s₁) ∧
      s' = s₁.warn .throwPropagation "exception propagation for `throw` is not generated" span ∧
      v = .null := by
  simp only [lowerKind] at h
  obtain ⟨a, s₁, h₁, h⟩ := bind_ok h
  obtain ⟨_, _, h₂, h⟩ := bind_ok h
  rw [softFailure_run] at h₂; cases h₂
  obtain ⟨rfl, rfl⟩ := pure_ok h
  exact ⟨a, s₁, h₁, rfl, rfl⟩

/-! ## Exceptions -/

theorem tryCatch_steps {body : Expr} {catches : List Catch} {ty span}
    (h : lowerKind (.tryCatch body catches) ty span ctx s = .ok (v, s')) :
    ∃ result s₁ exit s₂ s₃ b s₄ s₅, resultVar ty ctx s = .ok (result, s₁) ∧
      newBlock "try.exit" ctx s₁ = .ok (exit, s₂) ∧
      (catches = [] ∧ s₃ = s₂ ∨
        catches ≠ [] ∧ ∃ header s₆ exn s₇ u s₈ s₉,
          newBlock "catch.header" ctx s₂ = .ok (header, s₆) ∧
          freshVar .ptr ctx (s₆.moveTo header) = .ok (exn, s₇) ∧
          emit (.landingPad exn) ctx s₇ = .ok (u, s₈) ∧
          lowerHandlers catches (.var exn) result exit ctx
            { s₈ with env := (catches.map fun c => (c.param, .var exn)).reverse ++ s₈.env } =
            .ok ((), s₉) ∧
          s₃ = { s₉ with cursor := s₂.cursor, landing := some header }) ∧
      lowerExpr body ctx s₃ = .ok (b, s₄) ∧
      finishArm b result exit ctx s₄ = .ok ((), s₅) ∧
      s' = { s₅ with landing := s₂.landing }.moveTo exit ∧
      v = (result.map Operand.var).getD .unit := by
  simp only [lowerKind] at h
  obtain ⟨result, s₁, h₁, h⟩ := bind_ok h
  obtain ⟨exit, s₂, h₂, h⟩ := bind_ok h
  simp only [bind_run, get_run] at h
  -- The body, its arm and the exit are the same whether or not there are handlers.
  have tail : ∀ s₃, (do
      let v ← lowerExpr body
      finishArm v result exit
      setLanding s₂.landing
      switchTo exit
      pure ((result.map Operand.var).getD .unit) : LowerM Operand) ctx s₃ = .ok (v, s') →
      ∃ b s₄ s₅, lowerExpr body ctx s₃ = .ok (b, s₄) ∧ finishArm b result exit ctx s₄ = .ok ((), s₅) ∧
        s' = { s₅ with landing := s₂.landing }.moveTo exit ∧
        v = (result.map Operand.var).getD .unit := by
    intro s₃ h
    obtain ⟨b, s₄, h₄, h⟩ := bind_ok h
    obtain ⟨_, s₅, h₅, h⟩ := bind_ok h
    obtain ⟨_, _, h₆, h⟩ := bind_ok h
    rw [setLanding_run] at h₆; cases h₆
    obtain ⟨_, _, h₇, h⟩ := bind_ok h
    rw [switchTo_run] at h₇; cases h₇
    obtain ⟨rfl, rfl⟩ := pure_ok h
    exact ⟨b, s₄, s₅, h₄, h₅, rfl, rfl⟩
  cases catches with
  | nil =>
    simp only [List.isEmpty_nil, Bool.not_true, Bool.false_eq_true, ite_false] at h
    obtain ⟨b, s₄, s₅, h₄, h₅, h₆, h₇⟩ := tail s₂ h
    exact ⟨result, s₁, exit, s₂, s₂, b, s₄, s₅, h₁, h₂, .inl ⟨rfl, rfl⟩, h₄, h₅, h₆, h₇⟩
  | cons c cs =>
    simp only [List.isEmpty_cons, Bool.not_false, ite_true] at h
    obtain ⟨_, _, h₅, h⟩ := bind_ok h
    rw [get_run] at h₅; cases h₅
    obtain ⟨header, s₆, h₆, h⟩ := bind_ok h
    obtain ⟨_, _, h₇, h⟩ := bind_ok h
    rw [switchTo_run] at h₇; cases h₇
    obtain ⟨exn, s₇, h₈, h⟩ := bind_ok h
    obtain ⟨u, s₈, h₉, h⟩ := bind_ok h
    obtain ⟨_, _, h₁₀, h⟩ := bind_ok h
    rw [forM_bindLocal_run _ _ _ _ Catch.param (fun _ => .var exn) fun c => by cases c; rfl] at h₁₀
    cases h₁₀
    obtain ⟨_, s₉, h₁₁, h⟩ := bind_ok h
    obtain ⟨_, _, h₁₂, h⟩ := bind_ok h
    cases h₁₂
    obtain ⟨_, _, h₁₃, h⟩ := bind_ok h
    rw [setLanding_run] at h₁₃; cases h₁₃
    obtain ⟨b, s₄, s₅, h₁₄, h₁₅, h₁₆, h₁₇⟩ := tail _ h
    exact ⟨result, s₁, exit, s₂, _, b, s₄, s₅, h₁, h₂,
      .inr ⟨List.cons_ne_nil c cs, header, s₆, exn, s₇, u, s₈, s₉, h₆, h₈, h₉, h₁₁, rfl⟩,
      h₁₄, h₁₅, h₁₆, h₁₇⟩

/-! ## Fields, singletons and nodes without a routine -/

theorem getField_steps {field : FieldRef} {receiver : Option Expr} {ty span}
    (h : lowerKind (.getField field receiver) ty span ctx s = .ok (v, s')) :
    ∃ address offset s₁ t s₂ dst s₃,
      ((receiver = none ∧ address = .symbol field.name ∧ offset = 0 ∧ s₁ = s) ∨
        ∃ r s₀, receiver = some r ∧ fieldOffset field r.ty span ctx s = .ok (offset, s₀) ∧
          lowerExpr r ctx s₀ = .ok (address, s₁)) ∧
      lowerType ty ctx s₁ = .ok (t, s₂) ∧ freshVar t ctx s₂ = .ok (dst, s₃) ∧
      emit (.load dst address offset) ctx s₃ = .ok (v, s') := by
  cases receiver with
  | none =>
    simp only [lowerKind] at h
    obtain ⟨x, s₀, h₁, h⟩ := bind_ok h
    obtain ⟨rfl, hs⟩ := pure_ok h₁
    subst s₀
    obtain ⟨t, s₂, h₂, h⟩ := bind_ok h
    obtain ⟨dst, s₃, h₃, h⟩ := bind_ok h
    exact ⟨_, _, s, t, s₂, dst, s₃, .inl ⟨rfl, rfl, rfl, rfl⟩, h₂, h₃, h⟩
  | some r =>
    simp only [lowerKind] at h
    obtain ⟨offset, s₀, h₀, h⟩ := bind_ok h
    obtain ⟨address, s₁, h₁, h⟩ := bind_ok h
    obtain ⟨x, s₄, h₄, h⟩ := bind_ok h
    obtain ⟨rfl, hs⟩ := pure_ok h₄
    subst s₄
    obtain ⟨t, s₂, h₂, h⟩ := bind_ok h
    obtain ⟨dst, s₃, h₃, h⟩ := bind_ok h
    exact ⟨address, offset, s₁, t, s₂, dst, s₃, .inr ⟨r, s₀, rfl, h₀, h₁⟩, h₂, h₃, h⟩

theorem setField_steps {field : FieldRef} {receiver : Option Expr} {value : Expr} {ty span}
    (h : lowerKind (.setField field receiver value) ty span ctx s = .ok (v, s')) :
    ∃ address offset s₁ a s₂ u,
      ((receiver = none ∧ address = .symbol field.name ∧ offset = 0 ∧ s₁ = s) ∨
        ∃ r s₀, receiver = some r ∧ fieldOffset field r.ty span ctx s = .ok (offset, s₀) ∧
          lowerExpr r ctx s₀ = .ok (address, s₁)) ∧
      lowerExpr value ctx s₁ = .ok (a, s₂) ∧
      emit (.store a address offset) ctx s₂ = .ok (u, s') ∧ v = .unit := by
  cases receiver with
  | none =>
    simp only [lowerKind] at h
    obtain ⟨x, s₀, h₁, h⟩ := bind_ok h
    obtain ⟨rfl, hs⟩ := pure_ok h₁
    subst s₀
    obtain ⟨a, s₂, h₂, h⟩ := bind_ok h
    obtain ⟨u, s₃, h₃, h⟩ := bind_ok h
    obtain ⟨rfl, rfl⟩ := pure_ok h
    exact ⟨_, _, s, a, s₂, u, .inl ⟨rfl, rfl, rfl, rfl⟩, h₂, h₃, rfl⟩
  | some r =>
    simp only [lowerKind] at h
    obtain ⟨offset, s₀, h₀, h⟩ := bind_ok h
    obtain ⟨address, s₁, h₁, h⟩ := bind_ok h
    obtain ⟨x, s₄, h₄, h⟩ := bind_ok h
    obtain ⟨rfl, hs⟩ := pure_ok h₄
    subst s₄
    obtain ⟨a, s₂, h₂, h⟩ := bind_ok h
    obtain ⟨u, s₃, h₃, h⟩ := bind_ok h
    obtain ⟨rfl, rfl⟩ := pure_ok h
    exact ⟨address, offset, s₁, a, s₂, u, .inr ⟨r, s₀, rfl, h₀, h₁⟩, h₂, h₃, rfl⟩

theorem objectValue_steps' {cls : DefId} {ty span}
    (h : lowerKind (.objectValue cls) ty span ctx s = .ok (v, s')) :
    objectValue cls span ctx s = .ok (v, s') := by
  simpa only [lowerKind] using h

theorem unsupported_steps {k : ExprKind} {ty span}
    (hk : (∃ args, k = .stringConcat args) ∨ (∃ cls, k = .classReference cls) ∨
      (∃ fn, k = .functionReference fn) ∨ (∃ cls name, k = .enumEntry cls name))
    (h : lowerKind k ty span ctx s = .ok (v, s')) :
    ∃ what, unsupportedNode what span ctx s = .ok (v, s') := by
  rcases hk with ⟨args, rfl⟩ | ⟨cls, rfl⟩ | ⟨fn, rfl⟩ | ⟨cls, name, rfl⟩ <;>
    simp only [lowerKind] at h <;> exact ⟨_, h⟩

/-! ## Sequences -/

theorem lowerExpr_node {k : ExprKind} {ty span} :
    lowerExpr (.node k ty span) ctx s = lowerKind k ty span ctx s := by
  simp only [lowerExpr]

theorem lowerOpt_none_steps {o : Option Operand} (h : lowerOpt none ctx s = .ok (o, s')) :
    o = none ∧ s' = s := by
  simp only [lowerOpt] at h
  exact pure_ok h

theorem lowerOpt_some_steps {e : Expr} {o : Option Operand}
    (h : lowerOpt (some e) ctx s = .ok (o, s')) :
    ∃ a, lowerExpr e ctx s = .ok (a, s') ∧ o = some a := by
  simp only [lowerOpt, map_run] at h
  cases he : lowerExpr e ctx s with
  | error => simp [he] at h
  | ok r =>
    simp only [he, Except.ok.injEq, Prod.mk.injEq] at h
    obtain ⟨rfl, rfl⟩ := h
    exact ⟨r.1, rfl, rfl⟩

theorem lowerList_nil_steps {vs : List Operand} (h : lowerList [] ctx s = .ok (vs, s')) :
    vs = [] ∧ s' = s := by
  simp only [lowerList] at h
  exact pure_ok h

theorem lowerList_cons_steps {e : Expr} {es : List Expr} {vs : List Operand}
    (h : lowerList (e :: es) ctx s = .ok (vs, s')) :
    ∃ a s₁ as, lowerExpr e ctx s = .ok (a, s₁) ∧ lowerList es ctx s₁ = .ok (as, s') ∧
      vs = a :: as := by
  simp only [lowerList] at h
  obtain ⟨a, s₁, h₁, h⟩ := bind_ok h
  obtain ⟨as, s₂, h₂, h⟩ := bind_ok h
  obtain ⟨rfl, rfl⟩ := pure_ok h
  exact ⟨a, s₁, as, h₁, h₂, rfl⟩

theorem lowerBlock_nil_steps (h : lowerBlock [] ctx s = .ok (v, s')) : v = .unit ∧ s' = s := by
  simp only [lowerBlock] at h
  exact pure_ok h

theorem lowerBlock_single {e : Expr} : lowerBlock [e] ctx s = lowerExpr e ctx s := by
  simp only [lowerBlock]

theorem lowerBlock_cons_steps {e e' : Expr} {es : List Expr}
    (h : lowerBlock (e :: e' :: es) ctx s = .ok (v, s')) :
    ∃ a s₁, lowerExpr e ctx s = .ok (a, s₁) ∧ lowerBlock (e' :: es) ctx s₁ = .ok (v, s') := by
  simp only [lowerBlock] at h
  obtain ⟨a, s₁, h₁, h⟩ := bind_ok h
  exact ⟨a, s₁, h₁, h⟩

theorem lowerVararg_nil_steps {vs : List Operand} (h : lowerVararg [] ctx s = .ok (vs, s')) :
    vs = [] ∧ s' = s := by
  simp only [lowerVararg] at h
  exact pure_ok h

theorem lowerVararg_value_steps {e : Expr} {rest : List VarargElem} {vs : List Operand}
    (h : lowerVararg (.value e :: rest) ctx s = .ok (vs, s')) :
    ∃ a s₁ as, lowerExpr e ctx s = .ok (a, s₁) ∧ lowerVararg rest ctx s₁ = .ok (as, s') ∧
      vs = a :: as := by
  simp only [lowerVararg] at h
  obtain ⟨a, s₁, h₁, h⟩ := bind_ok h
  obtain ⟨as, s₂, h₂, h⟩ := bind_ok h
  obtain ⟨rfl, rfl⟩ := pure_ok h
  exact ⟨a, s₁, as, h₁, h₂, rfl⟩

theorem lowerVararg_spread {e : Expr} {rest : List VarargElem} {vs : List Operand}
    (h : lowerVararg (.spread e :: rest) ctx s = .ok (vs, s')) : False := by
  simp only [lowerVararg] at h
  exact throw_ok h

/-! ## Arms and handlers -/

theorem lowerArms_nil_steps {result : Option Var} {exit : Nat}
    (h : lowerArms [] result exit ctx s = .ok ((), s')) : s' = s := by
  simp only [lowerArms] at h
  exact (pure_ok h).2

theorem lowerArms_true_steps {cond res : Expr} {rest : List Arm} {result : Option Var} {exit : Nat}
    (hc : cond.isTrueLiteral = true)
    (h : lowerArms (.mk cond res :: rest) result exit ctx s = .ok ((), s')) :
    ∃ a s₁, lowerExpr res ctx s = .ok (a, s₁) ∧ finishArm a result exit ctx s₁ = .ok ((), s') := by
  simp only [lowerArms, hc, ite_true] at h
  obtain ⟨a, s₁, h₁, h⟩ := bind_ok h
  exact ⟨a, s₁, h₁, h⟩

theorem lowerArms_test_steps {cond res : Expr} {rest : List Arm} {result : Option Var} {exit : Nat}
    (hc : cond.isTrueLiteral = false)
    (h : lowerArms (.mk cond res :: rest) result exit ctx s = .ok ((), s')) :
    ∃ c s₁ arm s₂ next s₃ u s₄ a s₅ s₆, lowerExpr cond ctx s = .ok (c, s₁) ∧
      newBlock "when.arm" ctx s₁ = .ok (arm, s₂) ∧
      (rest = [] ∧ next = exit ∧ s₃ = s₂ ∨ rest ≠ [] ∧ newBlock "when.next" ctx s₂ = .ok (next, s₃)) ∧
      emit (.condBr c arm next) ctx s₃ = .ok (u, s₄) ∧
      lowerExpr res ctx (s₄.moveTo arm) = .ok (a, s₅) ∧
      finishArm a result exit ctx s₅ = .ok ((), s₆) ∧
      lowerArms rest result exit ctx (s₆.moveTo next) = .ok ((), s') := by
  simp only [lowerArms, hc, Bool.false_eq_true, ite_false] at h
  obtain ⟨c, s₁, h₁, h⟩ := bind_ok h
  obtain ⟨arm, s₂, h₂, h⟩ := bind_ok h
  -- From the test on, the two ways of choosing the next block go the same way.
  have tail : ∀ next s₃, (do
      let _ ← emit (.condBr c arm next)
      switchTo arm
      let v ← lowerExpr res
      finishArm v result exit
      switchTo next
      lowerArms rest result exit : LowerM Unit) ctx s₃ = .ok ((), s') →
      ∃ u s₄ a s₅ s₆, emit (.condBr c arm next) ctx s₃ = .ok (u, s₄) ∧
        lowerExpr res ctx (s₄.moveTo arm) = .ok (a, s₅) ∧
        finishArm a result exit ctx s₅ = .ok ((), s₆) ∧
        lowerArms rest result exit ctx (s₆.moveTo next) = .ok ((), s') := by
    intro next s₃ h
    obtain ⟨u, s₄, h₄, h⟩ := bind_ok h
    obtain ⟨_, _, h₅, h⟩ := bind_ok h
    rw [switchTo_run] at h₅; cases h₅
    obtain ⟨a, s₅, h₆, h⟩ := bind_ok h
    obtain ⟨_, s₆, h₇, h⟩ := bind_ok h
    obtain ⟨_, _, h₈, h⟩ := bind_ok h
    rw [switchTo_run] at h₈; cases h₈
    exact ⟨u, s₄, a, s₅, s₆, h₄, h₆, h₇, h⟩
  cases rest with
  | nil =>
    simp only [List.isEmpty_nil, ite_true] at h
    obtain ⟨next, s₃, h₃, h⟩ := bind_ok h
    obtain ⟨hn, hs⟩ := pure_ok h₃
    subst next s₃
    obtain ⟨u, s₄, a, s₅, s₆, h₄, h₆, h₇, h⟩ := tail exit s₂ h
    exact ⟨c, s₁, arm, s₂, exit, s₂, u, s₄, a, s₅, s₆, h₁, h₂, .inl ⟨rfl, rfl, rfl⟩, h₄, h₆, h₇, h⟩
  | cons a' as =>
    simp only [List.isEmpty_cons, Bool.false_eq_true, ite_false] at h
    obtain ⟨next, s₃, h₃, h⟩ := bind_ok h
    obtain ⟨u, s₄, a, s₅, s₆, h₄, h₆, h₇, h⟩ := tail next s₃ h
    exact ⟨c, s₁, arm, s₂, next, s₃, u, s₄, a, s₅, s₆, h₁, h₂,
      .inr ⟨List.cons_ne_nil a' as, h₃⟩, h₄, h₆, h₇, h⟩

theorem lowerHandlers_nil_steps {exn : Operand} {result : Option Var} {exit : Nat}
    (h : lowerHandlers [] exn result exit ctx s = .ok ((), s')) : s' = s := by
  simp only [lowerHandlers] at h
  exact (pure_ok h).2

theorem lowerHandlers_last_steps {c : Catch} {exn : Operand} {result : Option Var} {exit : Nat}
    (h : lowerHandlers [c] exn result exit ctx s = .ok ((), s')) :
    ∃ a s₁, lowerExpr c.result ctx s = .ok (a, s₁) ∧
      finishArm a result exit ctx s₁ = .ok ((), s') := by
  cases c with
  | mk param name ty res =>
    simp only [lowerHandlers] at h
    obtain ⟨a, s₁, h₁, h⟩ := bind_ok h
    exact ⟨a, s₁, h₁, h⟩

theorem lowerHandlers_test_steps {c c' : Catch} {rest : List Catch} {exn : Operand}
    {result : Option Var} {exit : Nat}
    (h : lowerHandlers (c :: c' :: rest) exn result exit ctx s = .ok ((), s')) :
    ∃ t s₁ caught s₂ u₁ s₃ body s₄ next s₅ u₂ s₆ a s₇ s₈,
      lowerType c.ty ctx s = .ok (t, s₁) ∧ freshVar .boolean ctx s₁ = .ok (caught, s₂) ∧
      emit (.typeTest .isInstance caught exn t) ctx s₂ = .ok (u₁, s₃) ∧
      newBlock "catch.body" ctx s₃ = .ok (body, s₄) ∧ newBlock "catch.next" ctx s₄ = .ok (next, s₅) ∧
      emit (.condBr (.var caught) body next) ctx s₅ = .ok (u₂, s₆) ∧
      lowerExpr c.result ctx (s₆.moveTo body) = .ok (a, s₇) ∧
      finishArm a result exit ctx s₇ = .ok ((), s₈) ∧
      lowerHandlers (c' :: rest) exn result exit ctx (s₈.moveTo next) = .ok ((), s') := by
  cases c with
  | mk param name ty res =>
    simp only [lowerHandlers] at h
    obtain ⟨t, s₁, h₁, h⟩ := bind_ok h
    obtain ⟨caught, s₂, h₂, h⟩ := bind_ok h
    obtain ⟨u₁, s₃, h₃, h⟩ := bind_ok h
    obtain ⟨body, s₄, h₄, h⟩ := bind_ok h
    obtain ⟨next, s₅, h₅, h⟩ := bind_ok h
    obtain ⟨u₂, s₆, h₆, h⟩ := bind_ok h
    obtain ⟨_, _, h₇, h⟩ := bind_ok h
    rw [switchTo_run] at h₇; cases h₇
    obtain ⟨a, s₇, h₈, h⟩ := bind_ok h
    obtain ⟨_, s₈, h₉, h⟩ := bind_ok h
    obtain ⟨_, _, h₁₀, h⟩ := bind_ok h
    rw [switchTo_run] at h₁₀; cases h₁₀
    exact ⟨t, s₁, caught, s₂, u₁, s₃, body, s₄, next, s₅, u₂, s₆, a, s₇, s₈,
      h₁, h₂, h₃, h₄, h₅, h₆, h₈, h₉, h⟩

/-! ## The helpers of lowering -/

theorem finishArm_steps {a : Operand} {result : Option Var} {exit : Nat}
    (h : finishArm a result exit ctx s = .ok ((), s')) :
    (s.curBlock.isTerminal = true ∧ s' = s) ∨
      (s.curBlock.isTerminal = false ∧ ∃ s₁ u, (result = none ∧ s₁ = s ∨
        ∃ r u₀, result = some r ∧ emit (.mov r a) ctx s = .ok (u₀, s₁)) ∧
        emit (.br exit) ctx s₁ = .ok (u, s')) := by
  simp only [finishArm] at h
  obtain ⟨b, s₀, h₀, h⟩ := bind_ok h
  obtain ⟨-, rfl, hs⟩ := isTerminated_ok h₀
  subst s₀
  cases ht : s.curBlock.isTerminal with
  | true =>
    simp only [ht] at h
    exact .inl ⟨rfl, (pure_ok h).2⟩
  | false =>
    simp only [ht] at h
    refine .inr ⟨rfl, ?_⟩
    cases result with
    | none =>
      simp only at h
      obtain ⟨u, s₁, h₁, h⟩ := bind_ok h
      obtain ⟨-, rfl⟩ := pure_ok h
      exact ⟨s, u, .inl ⟨rfl, rfl⟩, h₁⟩
    | some r =>
      simp only at h
      obtain ⟨u₀, s₁, h₁, h⟩ := bind_ok h
      obtain ⟨u, s₂, h₂, h⟩ := bind_ok h
      obtain ⟨-, rfl⟩ := pure_ok h
      exact ⟨s₁, u, .inr ⟨r, u₀, rfl, h₁⟩, h₂⟩

theorem generateCall_steps {callee : Nat} {ret : Graph.Ty} {args : List Operand}
    (h : generateCall callee ret args ctx s = .ok (v, s')) :
    ∃ dst s₁, (ret = .void ∧ dst = none ∧ s₁ = s ∨
        ret ≠ .void ∧ ∃ d, freshVar ret ctx s = .ok (d, s₁) ∧ dst = some d) ∧
      v = (dst.map Operand.var).getD .unit ∧
      ((s₁.landing = none ∧ ∃ u, emit (.call callee dst args) ctx s₁ = .ok (u, s')) ∨
        ∃ l normal s₂ u s₃, s₁.landing = some l ∧ newBlock "invoke.cont" ctx s₁ = .ok (normal, s₂) ∧
          emit (.invoke callee dst args normal l) ctx s₂ = .ok (u, s₃) ∧ s' = s₃.moveTo normal) := by
  simp only [generateCall] at h
  -- The destination, then the landing block, decide the shape: four cases.
  by_cases hv : ret = .void
  · simp only [hv, beq_self_eq_true, ite_true] at h
    obtain ⟨dst, s₁, h₁, h⟩ := bind_ok h
    obtain ⟨hd, hs⟩ := pure_ok h₁
    subst dst s₁
    simp only [bind_run, get_run] at h
    cases hl : s.landing with
    | none =>
      simp only [hl] at h
      obtain ⟨u, s₂, h₂, h⟩ := bind_ok h
      obtain ⟨rfl, rfl⟩ := pure_ok h
      exact ⟨none, s, .inl ⟨hv, rfl, rfl⟩, rfl, .inl ⟨hl, u, h₂⟩⟩
    | some l =>
      simp only [hl] at h
      obtain ⟨normal, s₂, h₂, h⟩ := bind_ok h
      obtain ⟨u, s₃, h₃, h⟩ := bind_ok h
      obtain ⟨_, _, h₄, h⟩ := bind_ok h
      rw [switchTo_run] at h₄; cases h₄
      obtain ⟨rfl, rfl⟩ := pure_ok h
      exact ⟨none, s, .inl ⟨hv, rfl, rfl⟩, rfl, .inr ⟨l, normal, s₂, u, s₃, hl, h₂, h₃, rfl⟩⟩
  · simp only [beq_iff_eq, hv, ite_false] at h
    obtain ⟨dst, s₁, h₁, h⟩ := bind_ok h
    obtain ⟨d, hd, rfl⟩ := map_ok h₁
    simp only [bind_run, get_run] at h
    cases hl : s₁.landing with
    | none =>
      simp only [hl] at h
      obtain ⟨u, s₂, h₂, h⟩ := bind_ok h
      obtain ⟨rfl, rfl⟩ := pure_ok h
      exact ⟨_, _, .inr ⟨hv, _, hd, rfl⟩, rfl, .inl ⟨hl, u, h₂⟩⟩
    | some l =>
      simp only [hl] at h
      obtain ⟨normal, s₂, h₂, h⟩ := bind_ok h
      obtain ⟨u, s₃, h₃, h⟩ := bind_ok h
      obtain ⟨_, _, h₄, h⟩ := bind_ok h
      rw [switchTo_run] at h₄; cases h₄
      obtain ⟨rfl, rfl⟩ := pure_ok h
      exact ⟨_, _, .inr ⟨hv, _, hd, rfl⟩, rfl, .inr ⟨l, normal, s₂, u, s₃, hl, h₂, h₃, rfl⟩⟩

theorem resultVar_steps {ty : Tree.Ty} {r : Option Var} (h : resultVar ty ctx s = .ok (r, s')) :
    (ty = .unit ∨ ty = .nothing) ∧ r = none ∧ s' = s ∨
      ty ≠ .unit ∧ ty ≠ .nothing ∧ ∃ t s₁ d, lowerType ty ctx s = .ok (t, s₁) ∧
        freshVar t ctx s₁ = .ok (d, s') ∧ r = some d := by
  simp only [resultVar] at h
  by_cases hu : ty = .unit ∨ ty = .nothing
  · have : (ty == .unit || ty == .nothing) = true := by
      rcases hu with rfl | rfl <;> rfl
    simp only [this, ite_true] at h
    obtain ⟨rfl, rfl⟩ := pure_ok h
    exact .inl ⟨hu, rfl, rfl⟩
  · have : (ty == .unit || ty == .nothing) = false := by
      simpa [not_or] using hu
    simp only [this, Bool.false_eq_true, ite_false] at h
    obtain ⟨t, s₁, h₁, h⟩ := bind_ok h
    obtain ⟨d, hd, rfl⟩ := map_ok h
    rw [not_or] at hu
    exact .inr ⟨hu.1, hu.2, t, s₁, d, h₁, hd, rfl⟩

theorem coerceInteger_steps {value : Operand} {target : Tree.Ty}
    (h : coerceInteger value target ctx s = .ok (v, s')) :
    value.ty.isInteger = false ∧ v = value ∧ s' = s ∨
      value.ty.isInteger = true ∧ ∃ t s₁, lowerType target ctx s = .ok (t, s₁) ∧
        (value.ty.byteSize ctx.pointerSize = t.byteSize ctx.pointerSize ∧ v = value ∧ s' = s₁ ∨
          value.ty.byteSize ctx.pointerSize ≠ t.byteSize ctx.pointerSize ∧ ∃ dst s₂,
            freshVar t ctx s₁ = .ok (dst, s₂) ∧
            emit (if t.byteSize ctx.pointerSize < value.ty.byteSize ctx.pointerSize then
              .trunc dst value else .sext dst value) ctx s₂ = .ok (v, s')) := by
  simp only [coerceInteger] at h
  cases hi : value.ty.isInteger with
  | false =>
    simp only [hi, Bool.not_false, ite_true] at h
    obtain ⟨rfl, rfl⟩ := pure_ok h
    exact .inl ⟨rfl, rfl, rfl⟩
  | true =>
    simp only [hi, Bool.not_true, Bool.false_eq_true, ite_false] at h
    obtain ⟨t, s₁, h₁, h⟩ := bind_ok h
    simp only [bind_run, read_run] at h
    refine .inr ⟨rfl, t, s₁, h₁, ?_⟩
    by_cases hw : value.ty.byteSize ctx.pointerSize = t.byteSize ctx.pointerSize
    · simp only [hw, beq_self_eq_true, ite_true] at h
      obtain ⟨rfl, rfl⟩ := pure_ok h
      exact .inl ⟨hw, rfl, rfl⟩
    · simp only [beq_iff_eq, hw, ite_false] at h
      obtain ⟨dst, s₂, h₂, h⟩ := bind_ok h
      exact .inr ⟨hw, dst, s₂, h₂, h⟩

theorem applyIntrinsic_steps {intr : Intrinsic} {name : String} {args : List Operand} {ty span}
    (h : applyIntrinsic intr name args ty span ctx s = .ok (v, s')) :
    (s' = s ∧ (v = .unit ∨ v = args.getD 0 .unit ∨ v = .const .ptr .null ∨
        v = Operand.int .int ctx.pointerSize)) ∨
      (∃ t dst s₁, freshVar t ctx s = .ok (dst, s₁) ∧
        emit (if intr = .areEqualByValue then
          .compare (if (args.getD 0 .unit).ty.isFloating then .fcmpEq else .icmpEq) dst
            (args.getD 0 .unit) (args.getD 1 .unit)
        else .gep dst (args.getD 0 .unit) (args.getD 1 .unit)) ctx s₁ = .ok (v, s')) ∨
      (∃ t s₁ p s₂ u s₃ dst s₄, lowerType ty ctx s = .ok (t, s₁) ∧
        freshVar .ptr ctx s₁ = .ok (p, s₂) ∧ emit (.bitcast p (args.getD 1 .unit)) ctx s₂ = .ok (u, s₃) ∧
        freshVar t ctx s₃ = .ok (dst, s₄) ∧ emit (.load dst (.var p) 0) ctx s₄ = .ok (v, s')) ∨
      (∃ p s₁ u s₂ u', freshVar .ptr ctx s = .ok (p, s₁) ∧
        emit (.bitcast p (args.getD 1 .unit)) ctx s₁ = .ok (u, s₂) ∧
        emit (.store (args.getD 2 .unit) (.var p) 0) ctx s₂ = .ok (u', s') ∧ v = .unit) ∨
      (∃ t s₁, lowerType ty ctx s = .ok (t, s₁) ∧
        ((args.getD 0 .unit).ty = t ∧ v = args.getD 0 .unit ∧ s' = s₁ ∨
          ∃ dst s₂, freshVar t ctx s₁ = .ok (dst, s₂) ∧
            emit (.sext dst (args.getD 0 .unit)) ctx s₂ = .ok (v, s'))) := by
  -- The arity check either fails or goes on with the same state.
  have guard : ∀ {n : Nat} {k : LowerM Operand},
      (if (args.length != n) = true then
        (throw (.lowering (.intrinsicArity name n args.length span)) >>= fun (_ : PUnit) => k) else k) ctx s =
        .ok (v, s') → k ctx s = .ok (v, s') := by
    intro n k h
    split at h
    · obtain ⟨_, _, h₀, -⟩ := bind_ok h
      exact (throw_ok h₀).elim
    · exact h
  cases intr with
  | areEqualByValue =>
    simp only [applyIntrinsic, Intrinsic.arity] at h
    obtain ⟨dst, s₁, h₁, h⟩ := bind_ok (guard h)
    exact .inr (.inl ⟨_, dst, s₁, h₁, by simpa using h⟩)
  | getContinuation =>
    simp only [applyIntrinsic, Intrinsic.arity] at h
    exact .inl ⟨(pure_ok h).2, .inl (pure_ok h).1⟩
  | interpretPointer =>
    simp only [applyIntrinsic, Intrinsic.arity] at h
    have h := guard h
    exact .inl ⟨(pure_ok h).2, .inr (.inl (pure_ok h).1)⟩
  | rawValue =>
    simp only [applyIntrinsic, Intrinsic.arity] at h
    have h := guard h
    exact .inl ⟨(pure_ok h).2, .inr (.inl (pure_ok h).1)⟩
  | readPrimitive =>
    simp only [applyIntrinsic, Intrinsic.arity] at h
    obtain ⟨t, s₁, h₁, h⟩ := bind_ok (guard h)
    obtain ⟨p, s₂, h₂, h⟩ := bind_ok h
    obtain ⟨u, s₃, h₃, h⟩ := bind_ok h
    obtain ⟨dst, s₄, h₄, h⟩ := bind_ok h
    obtain ⟨-, rfl, -⟩ := emit_ok h₃
    exact .inr (.inr (.inl ⟨t, s₁, p, s₂, _, s₃, dst, s₄, h₁, h₂, h₃, h₄, h⟩))
  | writePrimitive =>
    simp only [applyIntrinsic, Intrinsic.arity] at h
    obtain ⟨p, s₁, h₁, h⟩ := bind_ok (guard h)
    obtain ⟨u, s₂, h₂, h⟩ := bind_ok h
    obtain ⟨u', s₃, h₃, h⟩ := bind_ok h
    obtain ⟨rfl, rfl⟩ := pure_ok h
    obtain ⟨-, rfl, -⟩ := emit_ok h₂
    exact .inr (.inr (.inr (.inl ⟨p, s₁, _, s₂, u', h₁, h₂, h₃, rfl⟩)))
  | ptrPlusLong =>
    simp only [applyIntrinsic, Intrinsic.arity] at h
    obtain ⟨dst, s₁, h₁, h⟩ := bind_ok (guard h)
    exact .inr (.inl ⟨_, dst, s₁, h₁, by simpa using h⟩)
  | nullPtr =>
    simp only [applyIntrinsic, Intrinsic.arity] at h
    have h := guard h
    exact .inl ⟨(pure_ok h).2, .inr (.inr (.inl (pure_ok h).1))⟩
  | pointerSize =>
    simp only [applyIntrinsic, Intrinsic.arity] at h
    have h := guard h
    simp only [bind_run, read_run] at h
    exact .inl ⟨(pure_ok h).2, .inr (.inr (.inr (pure_ok h).1))⟩
  | ptrToLong =>
    simp only [applyIntrinsic, Intrinsic.arity] at h
    obtain ⟨t, s₁, h₁, h⟩ := bind_ok (guard h)
    refine .inr (.inr (.inr (.inr ⟨t, s₁, h₁, ?_⟩)))
    by_cases ht : (args.getD 0 .unit).ty = t
    · simp only [ht, beq_self_eq_true, ite_true] at h
      obtain ⟨rfl, rfl⟩ := pure_ok h
      exact .inl ⟨ht, rfl, rfl⟩
    · simp only [beq_iff_eq, ht, ite_false] at h
      obtain ⟨dst, s₂, h₂, h⟩ := bind_ok h
      exact .inr ⟨dst, s₂, h₂, h⟩

theorem fieldOffset_steps {field : FieldRef} {receiverTy : Tree.Ty} {span} {off : Nat}
    (h : fieldOffset field receiverTy span ctx s = .ok (off, s')) :
    ∃ cls k, receiverTy.classOf? = some cls ∧ klassId cls ctx s = .ok (k, s') ∧
      (s'.program.klasses[k]?).bind (·.layout.offsetOf? field.name) = some off := by
  simp only [fieldOffset] at h
  cases hc : receiverTy.classOf? with
  | none =>
    simp only [hc] at h
    exact (throw_ok h).elim
  | some cls =>
    simp only [hc] at h
    obtain ⟨k, s₁, h₁, h⟩ := bind_ok h
    simp only [bind_run, get_run] at h
    cases ho : (s₁.program.klasses[k]?).bind (·.layout.offsetOf? field.name) with
    | none =>
      simp only [ho] at h
      obtain ⟨_, _, _, h⟩ := bind_ok h
      exact (throw_ok h).elim
    | some o =>
      simp only [ho] at h
      obtain ⟨rfl, rfl⟩ := pure_ok h
      exact ⟨cls, k, rfl, h₁, ho⟩

theorem objectValue_cases {cls : DefId} {span}
    (h : objectValue cls span ctx s = .ok (v, s')) :
    (((ctx.classInfo? cls).map (·.isSingleton)).getD false = true ∧ v = .unit ∧ s' = s) ∨
      (((ctx.classInfo? cls).map (·.isSingleton)).getD false = false ∧
      ∃ k s₁ inst s₂ u₁ s₃ ok s₄ u₂ s₅ cont s₆ init s₇ u₃ s₈ u₄ s₉,
          klassId cls ctx s = .ok (k, s₁) ∧ freshVar (.klassPtr k) ctx s₁ = .ok (inst, s₂) ∧
          emit (.load inst (Operand.symbol (ctx.className cls ++ ".instance")) 0) ctx s₂ = .ok (u₁, s₃) ∧
          freshVar .boolean ctx s₃ = .ok (ok, s₄) ∧
          emit (.compare .icmpNe ok (.var inst) .null) ctx s₄ = .ok (u₂, s₅) ∧
          newBlock "object.continue" ctx s₅ = .ok (cont, s₆) ∧
          newBlock "object.init" ctx s₆ = .ok (init, s₇) ∧
          emit (.condBr (.var ok) cont init) ctx s₇ = .ok (u₃, s₈) ∧
          emit (.br cont) ctx ((s₈.moveTo init).warn .singletonInit
            ("initialization of singleton `" ++ ctx.className cls ++ "` is not generated") span) =
            .ok (u₄, s₉) ∧
          s' = s₉.moveTo cont ∧ v = .var inst) := by
  simp only [objectValue, bind_run, classInfo?_run] at h
  by_cases hu : ((ctx.classInfo? cls).map (·.isSingleton)).getD false = true
  · simp only [hu, ite_true] at h
    exact .inl ⟨hu, pure_ok h⟩
  · simp only [hu, Bool.false_eq_true, ite_false] at h
    obtain ⟨k, s₁, h₁, h⟩ := bind_ok h
    obtain ⟨_, _, h₂, h⟩ := bind_ok h
    rw [className_run] at h₂; cases h₂
    obtain ⟨inst, s₂, h₃, h⟩ := bind_ok h
    obtain ⟨u₁, s₃, h₄, h⟩ := bind_ok h
    obtain ⟨ok, s₄, h₅, h⟩ := bind_ok h
    obtain ⟨u₂, s₅, h₆, h⟩ := bind_ok h
    obtain ⟨cont, s₆, h₇, h⟩ := bind_ok h
    obtain ⟨init, s₇, h₈, h⟩ := bind_ok h
    obtain ⟨u₃, s₈, h₉, h⟩ := bind_ok h
    obtain ⟨_, _, h₁₀, h⟩ := bind_ok h
    rw [switchTo_run] at h₁₀; cases h₁₀
    obtain ⟨_, _, h₁₁, h⟩ := bind_ok h
    rw [softFailure_run] at h₁₁; cases h₁₁
    obtain ⟨u₄, s₉, h₁₂, h⟩ := bind_ok h
    obtain ⟨_, _, h₁₃, h⟩ := bind_ok h
    rw [switchTo_run] at h₁₃; cases h₁₃
    obtain ⟨rfl, rfl⟩ := pure_ok h
    exact .inr ⟨by simpa using hu, k, s₁, inst, s₂, u₁, s₃, ok, s₄, u₂, s₅, cont, s₆, init, s₇,
      u₃, s₈, u₄, s₉, h₁, h₃, h₄, h₅, h₆, h₇, h₈, h₉, h₁₂, rfl, rfl⟩

theorem objectValue_steps {cls : DefId} {span}
    (h : objectValue cls span ctx s = .ok (v, s')) :
    (v = .unit ∧ s' = s) ∨
      ∃ k s₁ inst s₂ u₁ s₃ ok s₄ u₂ s₅ cont s₆ init s₇ u₃ s₈ u₄ s₉,
        klassId cls ctx s = .ok (k, s₁) ∧ freshVar (.klassPtr k) ctx s₁ = .ok (inst, s₂) ∧
        emit (.load inst (Operand.symbol (ctx.className cls ++ ".instance")) 0) ctx s₂ = .ok (u₁, s₃) ∧
        freshVar .boolean ctx s₃ = .ok (ok, s₄) ∧
        emit (.compare .icmpNe ok (.var inst) .null) ctx s₄ = .ok (u₂, s₅) ∧
        newBlock "object.continue" ctx s₅ = .ok (cont, s₆) ∧
        newBlock "object.init" ctx s₆ = .ok (init, s₇) ∧
        emit (.condBr (.var ok) cont init) ctx s₇ = .ok (u₃, s₈) ∧
        emit (.br cont) ctx ((s₈.moveTo init).warn .singletonInit
          ("initialization of singleton `" ++ ctx.className cls ++ "` is not generated") span) =
          .ok (u₄, s₉) ∧
        s' = s₉.moveTo cont ∧ v = .var inst := by
  rcases objectValue_cases h with ⟨-, h⟩ | ⟨-, h⟩
  · exact .inl h
  · exact .inr h

theorem unsupportedNode_run (what : String) (span : Span) :
    unsupportedNode what span ctx s =
      .ok (.null, s.warn .unsupportedNode ("no selection routine for " ++ what) span) := rfl

end Isel.Lower
