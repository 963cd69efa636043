import Isel.Proofs.Built
import Isel.Proofs.Declarations

/-!
# Selection closes every block

Each construct of the tree keeps `Built`: the blocks it makes stay pending while it works, and
each is closed by a branch or entered before it returns. By induction over the tree, every
lowering keeps `Built`, whatever blocks the enclosing constructs hold pending.

Between declarations only the end of the global initializer is open, and the closing `ret`
ends it, so a selected program is well formed and the validator reports nothing about it
(`selectModule_wellFormed`).
-/

namespace Isel.Lower

open Isel.Graph (Operand Instr Var Block PadAt BlocksGrow)
open Isel.Tree (Expr ExprKind Arm Catch VarargElem LoopId)

/-! ## Loops -/

section Loops

variable {ctx : Context}

theorem whileLoop_built {loop : LoopId} {cond : Expr} {body : Option Expr} {ty span}
    (hc : KeepsBuilt (lowerExpr cond) ctx) (hbody : KeepsBuilt (lowerOpt body) ctx) :
    KeepsBuilt (lowerKind (.whileLoop loop cond body) ty span) ctx := by
  intro P s s' v hb h
  obtain ⟨check, s₁, bodyB, s₂, exit, s₃, u₁, s₄, c, s₅, u₂, s₆, b, s₇, s₈,
    h₁, h₂, h₃, h₄, h₅, h₆, h₇, h₈, rfl, -⟩ := whileLoop_steps h
  have j₂ := newBlock_keeps h₂
  have j₃ := newBlock_keeps h₃
  have j₄ := (emit_keeps h₄).moveTo check
  have j₅ := lowerExpr_keeps cond h₅
  have j₆ := emit_keeps h₆
  have j₇ := lowerOpt_keeps body h₇
  have j₈ := jumpIfOpen_keeps h₈
  have k₃ : Keeps s s₃ := (newBlock_keeps h₁).trans (j₂.trans j₃)
  have k₆ : Keeps s s₆ := k₃.trans (j₄.trans (j₅.trans j₆))
  obtain ⟨b₁, l₁⟩ := newBlock_built hb rfl h₁
  obtain ⟨b₂, l₂⟩ := newBlock_built b₁ (newBlock_keeps h₁).fn h₂
  obtain ⟨b₃, l₃⟩ := newBlock_built b₂ ((newBlock_keeps h₁).trans j₂).fn h₃
  obtain ⟨b₄, t₄⟩ := emit_built b₃ (Instr.Sound.br ((j₂.trans j₃).lt l₁)) h₄
  -- the test, with the body and the exit pending
  have e₄ : Built (fun d => (P d ∨ d = ⟨s.cursor.fn, bodyB⟩) ∨ d = ⟨s.cursor.fn, exit⟩)
      (s₄.moveTo check) := by
    refine b₄.enter (k₃.trans (emit_keeps h₄)).fn ((j₂.trans (j₃.trans (emit_keeps h₄))).lt l₁)
      (.inl t₄) fun d hd => ?_
    rcases hd with ((hd | hd) | hd) | hd
    · exact .inl (.inl (.inl hd))
    · exact .inr hd
    · exact .inl (.inl (.inr hd))
    · exact .inl (.inr hd)
  obtain ⟨b₆, t₆⟩ := emit_built (hc e₄ h₅)
    (Instr.Sound.condBr ((j₃.trans (j₄.trans j₅)).lt l₂) ((j₄.trans j₅).lt l₃)) h₆
  have lc : check < s₆.curFn.blocks.length := ((j₂.trans j₃).trans (j₄.trans (j₅.trans j₆))).lt l₁
  have le : exit < s₆.curFn.blocks.length := (j₄.trans (j₅.trans j₆)).lt l₃
  -- the body, inside the loop, with the exit pending
  have e₆ : Built (fun d => P d ∨ d = ⟨s.cursor.fn, exit⟩)
      ({ s₆ with loops := ⟨loop, check, exit⟩ :: s₆.loops }.moveTo bodyB) := by
    refine (b₆.pushLoop lc le).enter k₆.fn ((j₃.trans (j₄.trans (j₅.trans j₆))).lt l₂) (.inl t₆)
      fun d hd => ?_
    rcases hd with (hd | hd) | hd
    · exact .inl (.inl hd)
    · exact .inr hd
    · exact .inl (.inr hd)
  obtain ⟨b₈, t₈⟩ := jumpIfOpen_built (hbody e₆ h₇) (j₇.lt lc) h₈
  exact b₈.popLoop.enter ((j₇.trans j₈).fn.trans k₆.fn) ((j₇.trans j₈).lt le) (.inl t₈)
    fun d hd => hd

theorem doWhile_built {loop : LoopId} {cond : Expr} {body : Option Expr} {ty span}
    (hc : KeepsBuilt (lowerExpr cond) ctx) (hbody : KeepsBuilt (lowerOpt body) ctx) :
    KeepsBuilt (lowerKind (.doWhile loop cond body) ty span) ctx := by
  intro P s s' v hb h
  obtain ⟨check, s₁, bodyB, s₂, exit, s₃, u₁, s₄, b, s₅, s₆, c, s₇, u₂, s₈,
    h₁, h₂, h₃, h₄, h₅, h₆, h₇, h₈, rfl, -⟩ := doWhile_steps h
  have j₁ := newBlock_keeps h₁
  have j₂ := newBlock_keeps h₂
  have j₃ := newBlock_keeps h₃
  have j₄ := emit_keeps h₄
  have j₅ := lowerOpt_keeps body h₅
  have j₆ := (jumpIfOpen_keeps h₆).moveTo check
  have j₇ := lowerExpr_keeps cond h₇
  have j₈ := emit_keeps h₈
  have k₄ : Keeps s s₄ := j₁.trans (j₂.trans (j₃.trans j₄))
  obtain ⟨b₁, l₁⟩ := newBlock_built hb rfl h₁
  obtain ⟨b₂, l₂⟩ := newBlock_built b₁ j₁.fn h₂
  obtain ⟨b₃, l₃⟩ := newBlock_built b₂ (j₁.trans j₂).fn h₃
  obtain ⟨b₄, t₄⟩ := emit_built b₃ (Instr.Sound.br (j₃.lt l₂)) h₄
  have lc : check < s₄.curFn.blocks.length := (j₂.trans (j₃.trans j₄)).lt l₁
  have le : exit < s₄.curFn.blocks.length := j₄.lt l₃
  -- the body, inside the loop, with the test and the exit pending
  have e₄ : Built (fun d => (P d ∨ d = ⟨s.cursor.fn, check⟩) ∨ d = ⟨s.cursor.fn, exit⟩)
      ({ s₄ with loops := ⟨loop, check, exit⟩ :: s₄.loops }.moveTo bodyB) := by
    refine (b₄.pushLoop lc le).enter k₄.fn ((j₃.trans j₄).lt l₂) (.inl t₄) fun d hd => ?_
    rcases hd with ((hd | hd) | hd) | hd
    · exact .inl (.inl (.inl hd))
    · exact .inl (.inl (.inr hd))
    · exact .inr hd
    · exact .inl (.inr hd)
  obtain ⟨b₆, t₆⟩ := jumpIfOpen_built (hbody e₄ h₅) (j₅.lt lc) h₆
  -- the test, with the exit pending
  have e₆ : Built (fun d => P d ∨ d = ⟨s.cursor.fn, exit⟩) (s₆.moveTo check) := by
    refine b₆.enter ((j₅.trans (jumpIfOpen_keeps h₆)).fn.trans k₄.fn)
      ((j₅.trans (jumpIfOpen_keeps h₆)).lt lc) (.inl t₆) fun d hd => ?_
    rcases hd with (hd | hd) | hd
    · exact .inl (.inl hd)
    · exact .inr hd
    · exact .inl (.inr hd)
  have k₇ := j₅.trans (j₆.trans j₇)
  obtain ⟨b₈, t₈⟩ := emit_built (hc e₆ h₇)
    (Instr.Sound.condBr (k₇.lt ((j₃.trans j₄).lt l₂)) (k₇.lt le)) h₈
  exact b₈.popLoop.enter ((k₇.trans j₈).fn.trans k₄.fn) ((k₇.trans j₈).lt le) (.inl t₈)
    fun d hd => hd

end Loops

/-! ## Conditionals and handlers -/

section Branches

variable {ctx : Context}

def ArmsBuilt (arms : List Arm) (result : Option Var) (exit : Nat) (ctx : Context) : Prop :=
  ∀ {P : Cursor → Prop} {s s' : State}, Built P s → exit < s.curFn.blocks.length →
    lowerArms arms result exit ctx s = .ok ((), s') → Built P s'

theorem lowerArms_test_built {cond res : Expr} {rest : List Arm} {result : Option Var}
    {exit arm next : Nat} {c u a : Operand} {s s₁ s₂ s₃ s₄ s₅ s₆ : State}
    (hc : KeepsBuilt (lowerExpr cond) ctx) (hr : KeepsBuilt (lowerExpr res) ctx)
    (hb : Built P s) (he : exit < s.curFn.blocks.length)
    (h₁ : lowerExpr cond ctx s = .ok (c, s₁)) (h₂ : newBlock "when.arm" ctx s₁ = .ok (arm, s₂))
    (h₃ : rest = [] ∧ next = exit ∧ s₃ = s₂ ∨ rest ≠ [] ∧ newBlock "when.next" ctx s₂ = .ok (next, s₃))
    (h₄ : emit (.condBr c arm next) ctx s₃ = .ok (u, s₄))
    (h₅ : lowerExpr res ctx (s₄.moveTo arm) = .ok (a, s₅))
    (h₆ : finishArm a result exit ctx s₅ = .ok ((), s₆)) :
    Built (fun d => P d ∨ d = ⟨s.cursor.fn, next⟩) (s₄.moveTo arm) ∧ Built P (s₆.moveTo next) ∧
      exit < s₆.curFn.blocks.length := by
  have j₁ := lowerExpr_keeps cond h₁
  have j₂ := newBlock_keeps h₂
  obtain ⟨b₂, l₂⟩ := newBlock_built (hc hb h₁) j₁.fn h₂
  -- the next test is a new block, or the exit after the last arm
  have n₃ : Built (fun d => (P d ∨ d = ⟨s.cursor.fn, arm⟩) ∨ d = ⟨s.cursor.fn, next⟩) s₃ ∧
      Keeps s₂ s₃ ∧ next < s₃.curFn.blocks.length := by
    rcases h₃ with ⟨-, rfl, rfl⟩ | ⟨-, h₃⟩
    · exact ⟨b₂.pending fun _ => Or.inl, Keeps.refl _, (j₁.trans j₂).lt he⟩
    · obtain ⟨b₃, l₃⟩ := newBlock_built b₂ (j₁.trans j₂).fn h₃
      exact ⟨b₃, newBlock_keeps h₃, l₃⟩
  obtain ⟨b₃, j₃, l₃⟩ := n₃
  have j₄ := emit_keeps h₄
  have k₄ : Keeps s s₄ := j₁.trans (j₂.trans (j₃.trans j₄))
  obtain ⟨b₄, t₄⟩ := emit_built b₃ (Instr.Sound.condBr (j₃.lt l₂) l₃) h₄
  have e₄ : Built (fun d => P d ∨ d = ⟨s.cursor.fn, next⟩) (s₄.moveTo arm) := by
    refine b₄.enter k₄.fn ((j₃.trans j₄).lt l₂) (.inl t₄) fun d hd => ?_
    rcases hd with (hd | hd) | hd
    · exact .inl (.inl hd)
    · exact .inr hd
    · exact .inl (.inr hd)
  have j₅ := lowerExpr_keeps res h₅
  obtain ⟨b₆, t₆⟩ := finishArm_built (hr e₄ h₅) (((j₁.trans j₂).trans (j₃.trans j₄)).moveTo arm
    |>.trans j₅ |>.lt he) h₆
  have k₆ : Keeps s s₆ := (k₄.moveTo arm).trans (j₅.trans (finishArm_keeps h₆))
  refine ⟨e₄, b₆.enter k₆.fn ((j₅.trans (finishArm_keeps h₆)).lt (j₄.lt l₃)) (.inl t₆)
    fun d hd => hd, ?_⟩
  exact ((j₁.trans j₂).trans (j₃.trans ((j₄.moveTo arm).trans (j₅.trans
    (finishArm_keeps h₆))))).lt he

theorem lowerArms_cons_built {cond res : Expr} {rest : List Arm} {result : Option Var}
    {exit : Nat} (hc : KeepsBuilt (lowerExpr cond) ctx) (hr : KeepsBuilt (lowerExpr res) ctx)
    (hrest : ArmsBuilt rest result exit ctx) : ArmsBuilt (.mk cond res :: rest) result exit ctx := by
  intro P s s' hb he h
  cases ht : cond.isTrueLiteral with
  | true =>
    obtain ⟨a, s₁, h₁, h₂⟩ := lowerArms_true_steps ht h
    exact (finishArm_built (hr hb h₁) ((lowerExpr_keeps res h₁).lt he) h₂).1
  | false =>
    obtain ⟨c, s₁, arm, s₂, next, s₃, u, s₄, a, s₅, s₆, h₁, h₂, h₃, h₄, h₅, h₆, h₇⟩ :=
      lowerArms_test_steps ht h
    obtain ⟨-, b₆, l₆⟩ := lowerArms_test_built hc hr hb he h₁ h₂ h₃ h₄ h₅ h₆
    exact hrest b₆ l₆ h₇

theorem whenArms_built {arms : List Arm} {ty span}
    (harms : ∀ result exit, ArmsBuilt arms result exit ctx) :
    KeepsBuilt (lowerKind (.whenArms arms) ty span) ctx := by
  intro P s s' v hb h
  obtain ⟨result, s₁, exit, s₂, s₃, s₄, h₁, h₂, h₃, h₄, h₅, rfl, -⟩ := whenArms_steps h
  have j₁ := resultVar_keeps h₁
  obtain ⟨b₂, l₂⟩ := newBlock_built (resultVar_built hb h₁) j₁.fn h₂
  have k₂ : Keeps s s₂ := j₁.trans (newBlock_keeps h₂)
  have b₃ := harms result exit b₂ l₂ h₃
  have j₃ := lowerArms_keeps arms h₃
  -- the block the arms end in branches to the exit, unless it is the exit
  have n₄ : Built (fun d => P d ∨ d = ⟨s.cursor.fn, exit⟩) s₄ ∧ Keeps s₃ s₄ ∧
      (s₄.curBlock.isTerminal = true ∨ s₄.cursor.block = exit) := by
    by_cases hx : s₃.cursor.block = exit
    · rw [h₅ hx]
      exact ⟨b₃, Keeps.refl _, .inr hx⟩
    · obtain ⟨b₄, t₄⟩ := jumpIfOpen_built b₃ (j₃.lt l₂) (h₄ hx)
      exact ⟨b₄, jumpIfOpen_keeps (h₄ hx), .inl t₄⟩
  obtain ⟨b₄, j₄, t₄⟩ := n₄
  exact b₄.enter ((k₂.trans (j₃.trans j₄)).fn) ((j₃.trans j₄).lt l₂) (t₄.imp_right .inl)
    fun d hd => hd

/-- What lowering the handlers of a `try` keeps, given that the exit exists: after at least one
handler the block at the cursor ends. -/
def HandlersBuilt (cs : List Catch) (exn : Operand) (result : Option Var) (exit : Nat)
    (ctx : Context) : Prop :=
  ∀ {P : Cursor → Prop} {s s' : State}, Built P s → exit < s.curFn.blocks.length →
    lowerHandlers cs exn result exit ctx s = .ok ((), s') →
      Built P s' ∧ (cs ≠ [] → s'.curBlock.isTerminal = true)

theorem lowerHandlers_last_built {c : Catch} {exn : Operand} {result : Option Var} {exit : Nat}
    (hr : KeepsBuilt (lowerExpr c.result) ctx) : HandlersBuilt [c] exn result exit ctx := by
  intro P s s' hb he h
  obtain ⟨a, s₁, h₁, h₂⟩ := lowerHandlers_last_steps h
  obtain ⟨b₂, t₂⟩ := finishArm_built (hr hb h₁) ((lowerExpr_keeps c.result h₁).lt he) h₂
  exact ⟨b₂, fun _ => t₂⟩

theorem lowerHandlers_test_states {c : Catch} {exn : Operand} {result : Option Var}
    {exit body next : Nat} {t : Graph.Ty} {caught : Var} {u₁ u₂ a : Operand}
    {s s₁ s₂ s₃ s₄ s₅ s₆ s₇ s₈ : State} (hr : KeepsBuilt (lowerExpr c.result) ctx)
    (hb : Built P s) (he : exit < s.curFn.blocks.length)
    (h₁ : lowerType c.ty ctx s = .ok (t, s₁)) (h₂ : freshVar .boolean ctx s₁ = .ok (caught, s₂))
    (h₃ : emit (.typeTest .isInstance caught exn t) ctx s₂ = .ok (u₁, s₃))
    (h₄ : newBlock "catch.body" ctx s₃ = .ok (body, s₄))
    (h₅ : newBlock "catch.next" ctx s₄ = .ok (next, s₅))
    (h₆ : emit (.condBr (.var caught) body next) ctx s₅ = .ok (u₂, s₆))
    (h₇ : lowerExpr c.result ctx (s₆.moveTo body) = .ok (a, s₇))
    (h₈ : finishArm a result exit ctx s₇ = .ok ((), s₈)) :
    Built P s₃ ∧ Built (fun d => P d ∨ d = ⟨s.cursor.fn, next⟩) (s₆.moveTo body) ∧
      Built P (s₈.moveTo next) ∧ exit < s₈.curFn.blocks.length := by
  have j₃ : Keeps s s₃ := (lowerType_keeps h₁).trans ((freshVar_keeps h₂).trans (emit_keeps h₃))
  have b₃ := emit_plain_built (freshVar_built (lowerType_built hb h₁) h₂) rfl rfl h₃
  have j₄ := newBlock_keeps h₄
  have j₅ := newBlock_keeps h₅
  have j₆ := emit_keeps h₆
  obtain ⟨b₄, l₄⟩ := newBlock_built b₃ j₃.fn h₄
  obtain ⟨b₅, l₅⟩ := newBlock_built b₄ (j₃.trans j₄).fn h₅
  obtain ⟨b₆, t₆⟩ := emit_built b₅ (Instr.Sound.condBr (j₅.lt l₄) l₅) h₆
  have k₆ : Keeps s s₆ := j₃.trans (j₄.trans (j₅.trans j₆))
  have e₆ : Built (fun d => P d ∨ d = ⟨s.cursor.fn, next⟩) (s₆.moveTo body) := by
    refine b₆.enter k₆.fn ((j₅.trans j₆).lt l₄) (.inl t₆) fun d hd => ?_
    rcases hd with (hd | hd) | hd
    · exact .inl (.inl hd)
    · exact .inr hd
    · exact .inl (.inr hd)
  have j₇ := lowerExpr_keeps c.result h₇
  have j₈ := finishArm_keeps h₈
  have k₈ : Keeps s s₈ := (k₆.moveTo body).trans (j₇.trans j₈)
  obtain ⟨b₈, t₈⟩ := finishArm_built (hr e₆ h₇) (k₆.moveTo body |>.trans j₇ |>.lt he) h₈
  exact ⟨b₃, e₆, b₈.enter k₈.fn ((j₆.moveTo body |>.trans (j₇.trans j₈)).lt l₅) (.inl t₈)
    fun d hd => hd, k₈.lt he⟩

theorem lowerHandlers_test_built {c c' : Catch} {rest : List Catch} {exn : Operand}
    {result : Option Var} {exit : Nat} (hr : KeepsBuilt (lowerExpr c.result) ctx)
    (hrest : HandlersBuilt (c' :: rest) exn result exit ctx) :
    HandlersBuilt (c :: c' :: rest) exn result exit ctx := by
  intro P s s' hb he h
  obtain ⟨t, s₁, caught, s₂, u₁, s₃, body, s₄, next, s₅, u₂, s₆, a, s₇, s₈,
    h₁, h₂, h₃, h₄, h₅, h₆, h₇, h₈, h₉⟩ := lowerHandlers_test_steps h
  obtain ⟨-, -, b₈, l₈⟩ := lowerHandlers_test_states hr hb he h₁ h₂ h₃ h₄ h₅ h₆ h₇ h₈
  obtain ⟨b₉, t₉⟩ := hrest b₈ l₈ h₉
  exact ⟨b₉, fun _ => t₉ (List.cons_ne_nil _ _)⟩

/-- Where the body of a `try` starts: at the block of the `try`, after the landing pad and the
handlers when there are any, with the landing block of the handlers. The handlers are lowered
from a new block that starts with the landing pad, while the block of the `try` stays pending. -/
theorem tryStart_built {P : Cursor → Prop} {catches : List Catch} {result : Option Var}
    {exit : Nat} {s₂ s₃ : State} (hcs : ∀ exn, HandlersBuilt catches exn result exit ctx)
    (b₂ : Built P s₂) (l₂ : exit < s₂.curFn.blocks.length)
    (h₃ : catches = [] ∧ s₃ = s₂ ∨
      catches ≠ [] ∧ ∃ header s₆ exn s₇ u s₈ s₉,
        newBlock "catch.header" ctx s₂ = .ok (header, s₆) ∧
        freshVar .ptr ctx (s₆.moveTo header) = .ok (exn, s₇) ∧
        emit (.landingPad exn) ctx s₇ = .ok (u, s₈) ∧
        lowerHandlers catches (.var exn) result exit ctx
          { s₈ with env := (catches.map fun c => (c.param, .var exn)).reverse ++ s₈.env } =
          .ok ((), s₉) ∧
        s₃ = { s₉ with cursor := s₂.cursor, landing := some header }) :
    Built P s₃ ∧ BlocksGrow s₂.curFn.blocks s₃.curFn.blocks ∧ s₃.cursor.fn = s₂.cursor.fn := by
  rcases h₃ with ⟨-, rfl⟩ | ⟨hne, header, s₆, exn, s₇, u, s₈, s₉, h₆, h₇, h₈, h₉, rfl⟩
  · exact ⟨b₂, BlocksGrow.refl _, rfl⟩
  · have j₆ := newBlock_keeps h₆
    obtain ⟨b₆, l₆⟩ := newBlock_built b₂ rfl h₆
    have e₆ : Built (fun d => P d ∨ d = s₂.cursor) (s₆.moveTo header) :=
      b₆.enter j₆.fn l₆ (.inr (.inr (.inr (newBlock_cursor h₆))))
        fun d hd => hd.elim (fun hd => .inl (.inl hd)) .inr
    have j₇ := freshVar_keeps h₇
    have b₈ := emit_plain_built (freshVar_built e₆ h₇) rfl rfl h₈
    have pad : PadAt s₈.curFn.blocks header := by
      have hnew : s₇.curBlock.instrs = [] := by
        rw [freshVar_curBlock h₇, newBlock_entered b₂ h₆]
      have hc₇ : s₇.cursor.block = header := by
        obtain ⟨-, rfl, rfl⟩ := freshVar_ok h₇
        rfl
      exact hc₇ ▸ landingPad_padAt (freshVar_built e₆ h₇) hnew h₈
    have j₉ := lowerHandlers_keeps catches h₉
    have k₉ : Keeps s₂ s₉ := (j₆.moveTo header).trans (j₇.trans ((emit_keeps h₈).bind _ |>.trans j₉))
    obtain ⟨b₉, t₉⟩ := hcs (.var exn)
      (b₈.bind ((catches.map fun c => (c.param, .var exn)).reverse ++ s₈.env))
      ((j₆.moveTo header |>.trans (j₇.trans (emit_keeps h₈))).lt l₂) h₉
    -- back at the block of the `try`, which the handlers' last branch has left
    have back := b₉.setCursor (c := s₂.cursor) k₉.fn.symm (k₉.lt b₂.cursor.2) (.inl (t₉ hne))
      fun d hd => hd
    refine ⟨back.setLanding fun k hk => ?_, (k₉.restore rfl).blocks, rfl⟩
    cases hk
    exact pad.grow (j₉.restore (k₉.fn.symm.trans j₉.fn)).blocks

/-- A `try`: with handlers, the landing block and its handlers are lowered first, from a new
block that starts with the landing pad, while the block of the `try` stays pending; the body
is then lowered with that landing block, and lowering goes on at the exit. -/
theorem tryCatch_built {body : Expr} {catches : List Catch} {ty span}
    (hbody : KeepsBuilt (lowerExpr body) ctx)
    (hcs : ∀ exn result exit, HandlersBuilt catches exn result exit ctx) :
    KeepsBuilt (lowerKind (.tryCatch body catches) ty span) ctx := by
  intro P s s' v hb h
  obtain ⟨result, s₁, exit, s₂, s₃, b, s₄, s₅, h₁, h₂, h₃, h₄, h₅, rfl, -⟩ := tryCatch_steps h
  have j₁ := resultVar_keeps h₁
  have k₂ : Keeps s s₂ := j₁.trans (newBlock_keeps h₂)
  obtain ⟨b₂, l₂⟩ := newBlock_built (resultVar_built hb h₁) j₁.fn h₂
  -- where the body starts: the block of the `try`, with the landing block of the handlers
  obtain ⟨b₃, g₃, f₃⟩ := tryStart_built (fun exn => hcs exn result exit) b₂ l₂ h₃
  have j₄ := lowerExpr_keeps body h₄
  have j₅ := finishArm_keeps h₅
  obtain ⟨b₅, t₅⟩ := finishArm_built (hbody b₃ h₄) (j₄.lt (Nat.lt_of_lt_of_le l₂ g₃.1)) h₅
  -- the landing block outside the `try` is restored
  have outer : Built (fun d => P d ∨ d = ⟨s.cursor.fn, exit⟩) { s₅ with landing := s₂.landing } :=
    b₅.setLanding fun k hk => (b₂.landing k hk).grow (g₃.trans (j₄.trans j₅).blocks)
  have hl : exit < s₅.curFn.blocks.length :=
    Nat.lt_of_lt_of_le l₂ (g₃.trans (j₄.trans j₅).blocks).1
  exact outer.enter (((j₄.trans j₅).fn.trans f₃).trans k₂.fn) hl (.inl t₅) fun d hd => hd

end Branches

/-! ## Every lowering -/

section Lowering

variable {ctx : Context}

theorem objectValue_built {cls : Tree.DefId} {span} : KeepsBuilt (objectValue cls span) ctx := by
  intro P s s' v hb h
  rcases objectValue_steps h with ⟨-, rfl⟩ |
    ⟨k, s₁, inst, s₂, u₁, s₃, ok, s₄, u₂, s₅, cont, s₆, init, s₇, u₃, s₈, u₄, s₉,
      h₁, h₂, h₃, h₄, h₅, h₆, h₇, h₈, h₉, rfl, -⟩
  · exact hb
  · have b₅ := emit_plain_built (freshVar_built (emit_plain_built
      (freshVar_built (klassId_built hb h₁) h₂) rfl rfl h₃) h₄) rfl rfl h₅
    have k₅ : Keeps s s₅ := (klassId_keeps h₁).trans ((freshVar_keeps h₂).trans
      ((emit_keeps h₃).trans ((freshVar_keeps h₄).trans (emit_keeps h₅))))
    have j₆ := newBlock_keeps h₆
    have j₇ := newBlock_keeps h₇
    have j₈ := emit_keeps h₈
    have j₉ := emit_keeps h₉
    obtain ⟨b₆, l₆⟩ := newBlock_built b₅ k₅.fn h₆
    obtain ⟨b₇, l₇⟩ := newBlock_built b₆ (k₅.trans j₆).fn h₇
    obtain ⟨b₈, t₈⟩ := emit_built b₇ (Instr.Sound.condBr (j₇.lt l₆) l₇) h₈
    have k₈ : Keeps s s₈ := k₅.trans (j₆.trans (j₇.trans j₈))
    -- the initialization block, with the continuation pending
    have e₈ := (b₈.enter k₈.fn (j₈.lt l₇) (.inl t₈) fun d hd => hd).warn .singletonInit
      ("initialization of singleton `" ++ ctx.className cls ++ "` is not generated") span
    obtain ⟨b₉, t₉⟩ := emit_built e₈ (Instr.Sound.br ((j₇.trans j₈).lt l₆)) h₉
    exact b₉.enter (((k₈.moveTo init).warn _ _ _).trans j₉).fn (j₉.lt ((j₇.trans j₈).lt l₆))
      (.inl t₉) fun d hd => hd

theorem unsupported_built {k : ExprKind} {ty span}
    (hk : (∃ args, k = .stringConcat args) ∨ (∃ cls, k = .classReference cls) ∨
      (∃ fn, k = .functionReference fn) ∨ (∃ cls name, k = .enumEntry cls name)) :
    KeepsBuilt (lowerKind k ty span) ctx := fun hb h => by
  obtain ⟨what, h⟩ := unsupported_steps hk h
  rw [unsupportedNode_run] at h; cases h
  exact hb.warn _ _ _

mutual

theorem lowerExpr_built : ∀ (e : Expr), KeepsBuilt (lowerExpr e) ctx
  | .node k ty span => fun hb h => lowerKind_built k ty span hb (by rwa [lowerExpr_node] at h)

theorem lowerKind_built : ∀ (k : ExprKind) (ty : Tree.Ty) (span : Span),
    KeepsBuilt (lowerKind k ty span) ctx
  | .literal l, ty, span => fun hb h => by
    obtain ⟨-, rfl⟩ := literal_steps h
    exact hb
  | .typeOp op arg operand, ty, span => fun hb h => by
    cases op with
    | cast | safeCast =>
      obtain ⟨a, s₁, t, s₂, dst, s₃, h₁, h₂, h₃, h₄⟩ := cast_steps (by simp) h
      exact emit_plain_built (freshVar_built (lowerType_built (lowerExpr_built arg hb h₁) h₂) h₃)
        rfl rfl h₄
    | implicitCast => exact lowerExpr_built arg hb (implicitCast_steps h)
    | implicitNotNull =>
      obtain ⟨a, s₁, h₁, rfl, -⟩ := implicitNotNull_steps h
      exact (lowerExpr_built arg hb h₁).warn _ _ _
    | coercionToUnit =>
      obtain ⟨a, h₁, -⟩ := coercionToUnit_steps h
      exact lowerExpr_built arg hb h₁
    | integerCoercion =>
      obtain ⟨a, s₁, -, h₁, h₂⟩ := integerCoercion_steps h
      exact coerceInteger_built (lowerExpr_built arg hb h₁) h₂
    | instanceOf | notInstanceOf =>
      obtain ⟨a, s₁, t, s₂, dst, s₃, h₁, h₂, h₃, h₄⟩ := typeTest_steps (by simp) h
      exact emit_plain_built (freshVar_built (lowerType_built (lowerExpr_built arg hb h₁) h₂) h₃)
        rfl rfl h₄
  | .call callee dispatch extension args, ty, span => fun hb h => by
    -- every shape lowers the receivers and the arguments in the same order
    have ops : ∀ {P s₀ d s₁ e s₂ a s₃}, Built P s₀ → lowerOpt dispatch ctx s₀ = .ok (d, s₁) →
        lowerOpt extension ctx s₁ = .ok (e, s₂) → lowerList args ctx s₂ = .ok (a, s₃) →
        Built P s₃ := fun hb h₁ h₂ h₃ =>
      lowerList_built args (lowerOpt_built extension (lowerOpt_built dispatch hb h₁) h₂) h₃
    cases hs : CallShape.of callee dispatch extension args with
    | intrinsic =>
      obtain ⟨intr, d, s₁, e, s₂, a, s₃, -, h₁, h₂, h₃, h₄⟩ := intrinsicCall_steps hs h
      exact applyIntrinsic_built (ops hb h₁ h₂ h₃) h₄
    | arithmetic op =>
      obtain ⟨d, s₁, e, s₂, a, s₃, t, s₄, dst, s₅, h₁, h₂, h₃, h₄, h₅, h₆⟩ :=
        arithmeticCall_steps hs h
      exact emit_plain_built (freshVar_built (lowerType_built (ops hb h₁ h₂ h₃) h₄) h₅) rfl rfl h₆
    | construct cls =>
      obtain ⟨k, s₁, obj, s₂, u, s₃, d, s₄, e, s₅, a, s₆, fn, s₇, r,
        h₁, h₂, h₃, h₄, h₅, h₆, h₇, h₈, -⟩ := constructCall_steps hs h
      have b₆ := ops (emit_plain_built (freshVar_built (klassId_built hb h₁) h₂) rfl rfl h₃) h₄ h₅ h₆
      exact generateCall_built (calleeFor_built b₆ h₇) (calleeFor_lt b₆ h₇) h₈
    | plain =>
      obtain ⟨d, s₁, e, s₂, a, s₃, ret, s₄, fn, s₅, h₁, h₂, h₃, h₄, h₅, h₆⟩ :=
        plainCall_steps hs h
      have b₄ := lowerType_built (ops hb h₁ h₂ h₃) h₄
      exact generateCall_built (calleeFor_built b₄ h₅) (calleeFor_lt b₄ h₅) h₆
  | .delegatingCall callee args, ty, span => fun hb h => by
    obtain ⟨receiver, a, s₁, fn, s₂, -, h₁, h₂, h₃⟩ := delegatingCall_steps h
    have b₁ := lowerList_built args hb h₁
    exact generateCall_built (calleeFor_built b₁ h₂) (calleeFor_lt b₁ h₂) h₃
  | .instanceInit cls, ty, span => fun hb h => by
    obtain ⟨-, rfl⟩ := instanceInit_steps h
    exact hb
  | .block stmts, ty, span => fun hb h => lowerBlock_built stmts hb (block_steps h)
  | .whileLoop loop cond body, ty, span =>
    whileLoop_built (lowerExpr_built cond) (lowerOpt_built body)
  | .doWhile loop cond body, ty, span =>
    doWhile_built (lowerExpr_built cond) (lowerOpt_built body)
  | .breakLoop loop, ty, span => fun hb h => by
    obtain ⟨fr, u, h₁, h₂, -⟩ := breakLoop_steps h
    exact (emit_built hb (Instr.Sound.br (hb.loops fr (findLoop_mem h₁).1).2) h₂).1
  | .continueLoop loop, ty, span => fun hb h => by
    obtain ⟨fr, u, h₁, h₂, -⟩ := continueLoop_steps h
    exact (emit_built hb (Instr.Sound.br (hb.loops fr (findLoop_mem h₁).1).1) h₂).1
  | .ret target value, ty, span => fun hb h => by
    obtain ⟨a, s₁, u, h₁, h₂, -⟩ := ret_steps h
    exact emit_plain_built (lowerExpr_built value hb h₁) rfl rfl h₂
  | .whenArms arms, ty, span => whenArms_built (lowerArms_built arms)
  | .declare var name varTy init, ty, span => fun hb h => by
    obtain ⟨o, s₁, h₁, rfl, -⟩ := declare_steps h
    exact (lowerOpt_built init hb h₁).bind _
  | .assign var name value, ty, span => fun hb h => by
    obtain ⟨a, s₁, u, s₂, h₁, h₂, rfl, -⟩ := assign_steps h
    exact (emit_plain_built (lowerExpr_built value hb h₁) rfl rfl h₂).bind _
  | .read var name, ty, span => fun hb h => by
    rcases read_steps h with ⟨-, rfl⟩ | ⟨-, -, rfl⟩
    · exact hb
    · exact hb.warn _ _ _
  | .vararg elems, ty, span => fun hb h => by
    obtain ⟨vs, s₁, t, h₁, h₂, -⟩ := vararg_steps h
    exact lowerType_built (lowerVararg_built elems hb h₁) h₂
  | .throw value, ty, span => fun hb h => by
    obtain ⟨a, s₁, h₁, rfl, -⟩ := throw_steps h
    exact (lowerExpr_built value hb h₁).warn _ _ _
  | .tryCatch body catches, ty, span =>
    tryCatch_built (lowerExpr_built body) (lowerHandlers_built catches)
  | .getField field none, ty, span => fun hb h => by
    obtain ⟨address, offset, s₁, t, s₂, dst, s₃, hr, h₂, h₃, h₄⟩ := getField_steps h
    obtain ⟨-, -, -, rfl⟩ | ⟨r, s₀, hr, -⟩ := hr
    · exact emit_plain_built (freshVar_built (lowerType_built hb h₂) h₃) rfl rfl h₄
    · cases hr
  | .getField field (some r), ty, span => fun hb h => by
    obtain ⟨address, offset, s₁, t, s₂, dst, s₃, hr, h₂, h₃, h₄⟩ := getField_steps h
    obtain ⟨hr, -⟩ | ⟨r', s₀, hr, h₀, h₁⟩ := hr
    · cases hr
    · cases hr
      exact emit_plain_built (freshVar_built (lowerType_built (lowerExpr_built r
        (fieldOffset_built hb h₀) h₁) h₂) h₃) rfl rfl h₄
  | .setField field none value, ty, span => fun hb h => by
    obtain ⟨address, offset, s₁, a, s₂, u, hr, h₂, h₃, -⟩ := setField_steps h
    obtain ⟨-, -, -, rfl⟩ | ⟨r, s₀, hr, -⟩ := hr
    · exact emit_plain_built (lowerExpr_built value hb h₂) rfl rfl h₃
    · cases hr
  | .setField field (some r) value, ty, span => fun hb h => by
    obtain ⟨address, offset, s₁, a, s₂, u, hr, h₂, h₃, -⟩ := setField_steps h
    obtain ⟨hr, -⟩ | ⟨r', s₀, hr, h₀, h₁⟩ := hr
    · cases hr
    · cases hr
      exact emit_plain_built (lowerExpr_built value (lowerExpr_built r (fieldOffset_built hb h₀) h₁)
        h₂) rfl rfl h₃
  | .objectValue cls, ty, span => fun hb h => objectValue_built hb (objectValue_steps' h)
  | .stringConcat args, ty, span => unsupported_built (.inl ⟨args, rfl⟩)
  | .classReference cls, ty, span => unsupported_built (.inr (.inl ⟨cls, rfl⟩))
  | .functionReference fn, ty, span => unsupported_built (.inr (.inr (.inl ⟨fn, rfl⟩)))
  | .enumEntry cls name, ty, span => unsupported_built (.inr (.inr (.inr ⟨cls, name, rfl⟩)))

theorem lowerOpt_built : ∀ (e : Option Expr), KeepsBuilt (lowerOpt e) ctx
  | none => fun hb h => by
    obtain ⟨-, rfl⟩ := lowerOpt_none_steps h
    exact hb
  | some e => fun hb h => by
    obtain ⟨a, h₁, -⟩ := lowerOpt_some_steps h
    exact lowerExpr_built e hb h₁

theorem lowerList_built : ∀ (es : List Expr), KeepsBuilt (lowerList es) ctx
  | [] => fun hb h => by
    obtain ⟨-, rfl⟩ := lowerList_nil_steps h
    exact hb
  | e :: es => fun hb h => by
    obtain ⟨a, s₁, as, h₁, h₂, -⟩ := lowerList_cons_steps h
    exact lowerList_built es (lowerExpr_built e hb h₁) h₂

theorem lowerBlock_built : ∀ (es : List Expr), KeepsBuilt (lowerBlock es) ctx
  | [] => fun hb h => by
    obtain ⟨-, rfl⟩ := lowerBlock_nil_steps h
    exact hb
  | [e] => fun hb h => lowerExpr_built e hb (by rwa [lowerBlock_single] at h)
  | e :: e' :: es => fun hb h => by
    obtain ⟨a, s₁, h₁, h₂⟩ := lowerBlock_cons_steps h
    exact lowerBlock_built (e' :: es) (lowerExpr_built e hb h₁) h₂

theorem lowerArms_built : ∀ (arms : List Arm) (result : Option Var) (exit : Nat),
    ArmsBuilt arms result exit ctx
  | [], result, exit => fun hb _ h => by
    rw [lowerArms_nil_steps h]
    exact hb
  | .mk cond res :: rest, result, exit =>
    lowerArms_cons_built (lowerExpr_built cond) (lowerExpr_built res)
      (lowerArms_built rest result exit)

theorem lowerHandlers_built : ∀ (cs : List Catch) (exn : Operand) (result : Option Var)
    (exit : Nat), HandlersBuilt cs exn result exit ctx
  | [], exn, result, exit => fun hb _ h => by
    rw [lowerHandlers_nil_steps h]
    exact ⟨hb, fun hne => absurd rfl hne⟩
  | [.mk param name ty res], exn, result, exit => lowerHandlers_last_built (lowerExpr_built res)
  | .mk param name ty res :: c' :: rest, exn, result, exit =>
    lowerHandlers_test_built (lowerExpr_built res) (lowerHandlers_built (c' :: rest) exn result exit)

theorem lowerVararg_built : ∀ (elems : List VarargElem), KeepsBuilt (lowerVararg elems) ctx
  | [] => fun hb h => by
    obtain ⟨-, rfl⟩ := lowerVararg_nil_steps h
    exact hb
  | .value e :: rest => fun hb h => by
    obtain ⟨a, s₁, as, h₁, h₂, -⟩ := lowerVararg_value_steps h
    exact lowerVararg_built rest (lowerExpr_built e hb h₁) h₂
  | .spread e :: rest => fun _ h => (lowerVararg_spread h).elim

end

end Lowering

/-! ## Declarations -/

/-- Selection between declarations: every block ends but the block where the global initializer
goes on, the cursor is at an ended block or there, and no loop or protected region is open. -/
structure Ready (s : State) : Prop where
  built : Built (· = s.globalCursor) s
  cursor : s.curBlock.isTerminal = true ∨ s.cursor = s.globalCursor
  global : s.globalCursor.fn < s.program.functions.length ∧
    s.globalCursor.block < (s.fn s.globalCursor.fn).blocks.length
  loops : s.loops = []
  landing : s.landing = none
  globalInit : s.program.globalInit = 0

section Declarations

variable {ctx : Context} {s s' : State}

theorem State.block?_start {name : String} {c : Cursor} {b : Block}
    (h : (State.start name).block? c = some b) : c = ⟨0, 0⟩ ∧ b = ⟨"entry", []⟩ := by
  obtain ⟨f, k⟩ := c
  simp only [State.block?, State.fn, State.start, Program.start, List.getD_eq_getElem?_getD] at h
  cases f with
  | zero =>
    cases k with
    | zero => simp_all
    | succ k => simp at h
  | succ f =>
    change ([] : List Block)[k]? = some b at h
    simp at h

theorem Ready.start (name : String) : Ready (State.start name) where
  built := by
    refine ⟨⟨by simp [State.start, Program.start], by simp [State.start, Program.start, State.curFn,
      State.fn]⟩, fun c b h => .inr (.inl (State.block?_start h).1), fun c b h => ?_,
      by simp [State.start], by simp [State.start], by simp [State.start]⟩
    obtain ⟨-, rfl⟩ := State.block?_start h
    exact ⟨fun i hi => by simp at hi, fun i hi => by simp at hi⟩
  cursor := .inr rfl
  global := ⟨by simp [State.start, Program.start], by simp [State.start, Program.start, State.fn]⟩
  loops := rfl
  landing := rfl
  globalInit := rfl

theorem Ready.registers (hr : Ready s) {t : State} (h : Registers s t) : Ready t := by
  have hb := hr.built.registers h
  obtain ⟨fs, ks, tf, tk, hfs, -, rfl⟩ := h
  have hcur : (s.extend fs ks tf tk).curBlock = s.curBlock := by
    simp only [State.curBlock, State.curFn]
    rw [State.blocks_fn_extend hfs]
    rfl
  refine ⟨hb, hcur ▸ hr.cursor, ⟨?_, ?_⟩, hr.loops, hr.landing, hr.globalInit⟩
  · exact Nat.lt_of_lt_of_le hr.global.1 (by simp [State.extend])
  · rw [State.blocks_fn_extend hfs]
    exact hr.global.2

theorem Ready.enterBody (hr : Ready s) {fn : Nat} (hfn : fn < s.program.functions.length)
    (d : Tree.FunctionDecl) :
    Built (· = s.globalCursor) (s.enterBody fn d) ∧
      ∀ i, BlocksGrow (s.fn i).blocks ((s.enterBody fn d).fn i).blocks := by
  have b₁ := hr.built.addBlockAt hfn "entry"
  have hsame : ∀ i, (((s.mapFn fn (·.addBlock "entry")).mapFn fn
      fun f => { f with span := d.span }).fn i).blocks = ((s.mapFn fn (·.addBlock "entry")).fn i).blocks :=
    fun i => by
      rw [State.fn_mapFn_at (by rw [State.length_mapFn]; exact hfn)]
      split <;> rfl
  have b₂ := b₁.of_blocks hsame (Nat.le_of_eq (State.length_mapFn _ _ _).symm) rfl rfl rfl
    (fun e he => by rw [State.length_mapFn]; exact b₁.table e he)
  have hlen : ((s.mapFn fn (·.addBlock "entry")).fn fn).blocks.length =
      (s.fn fn).blocks.length + 1 := by
    rw [State.fn_mapFn_at hfn, if_pos rfl, Graph.Function.addBlock_blocks, List.length_append,
      List.length_singleton]
  have hcb : ((s.mapFn fn (·.addBlock "entry")).mapFn fn
      fun f => { f with span := d.span }).curBlock = s.curBlock := by
    unfold State.curBlock State.curFn
    rw [hsame]
    exact State.curBlock_addBlockAt hfn hr.built.cursor.2 "entry"
  -- the new entry block is entered, the end of the global initializer stays pending
  have b₃ := b₂.jump (c := ⟨fn, (s.fn fn).blocks.length⟩)
    (by rw [State.length_mapFn, State.length_mapFn]; exact hfn)
    (by simp only [hsame, hlen]; omega) (by simp [State.mapFn, hr.loops])
    (by simp [State.mapFn, hr.landing]) (hr.cursor.imp (fun ht => hcb ▸ ht) .inr) fun d hd => hd
  refine ⟨b₃.of_blocks (t := s.enterBody fn d) (fun _ => rfl) (Nat.le_refl _) rfl
    (by simp [State.enterBody, State.mapFn, hr.loops])
    (by simp [State.enterBody, State.mapFn, hr.landing]) b₃.table, fun i => ?_⟩
  show BlocksGrow (s.fn i).blocks ((((s.mapFn fn (·.addBlock "entry")).mapFn fn
      fun f => { f with span := d.span })).fn i).blocks
  rw [hsame, State.fn_mapFn_at hfn]
  split
  · rename_i hi
    rw [hi]
    exact BlocksGrow.append _ _
  · exact BlocksGrow.refl _

theorem BodyRun.built {body : Tree.Body} {v : Operand} (h : BodyRun ctx body s v s')
    {P : Cursor → Prop} (hb : Built P s) : Built P s' ∧ Keeps s s' := by
  cases h with
  | expression h => exact ⟨lowerExpr_built _ hb h, lowerExpr_keeps _ h⟩
  | block g hg h =>
    refine forM_inv (I := fun t => Built P t ∧ Keeps s t) (fun e _ t t' u ht he => ?_) ⟨hb, Keeps.refl s⟩ h
    obtain ⟨w, hw⟩ := hg e t t' u he
    exact ⟨lowerExpr_built e ht.1 hw, ht.2.trans (lowerExpr_keeps e hw)⟩

theorem selectFunction_ready {d : Tree.FunctionDecl} (hr : Ready s)
    (h : selectFunction d ctx s = .ok ((), s')) : Ready s' := by
  rcases selectFunction_steps h with ⟨-, rfl⟩ |
    ⟨-, fn, s₁, h₁, ⟨-, rfl⟩ | ⟨body, v, s₂, s₃, -, hrun, hend, rfl⟩⟩
  · exact hr
  · exact hr.registers (declaredFunction_registers h₁).1
  · have r₁ := hr.registers (declaredFunction_registers h₁).1
    obtain ⟨e₁, g₁⟩ := r₁.enterBody (declaredFunction_lt hr.built h₁) d
    obtain ⟨b₂, k₂⟩ := hrun.built e₁
    have n₃ : Built (· = s₁.globalCursor) s₃ ∧ Keeps s₂ s₃ ∧ s₃.curBlock.isTerminal = true := by
      rcases hend with ⟨ht, rfl⟩ | ⟨-, u, he⟩
      · exact ⟨b₂, Keeps.refl _, ht⟩
      · obtain ⟨b₃, t₃⟩ := emit_built b₂ (Instr.Sound.plain rfl rfl) he
        exact ⟨b₃, emit_keeps he, t₃⟩
    obtain ⟨b₃, k₃, t₃⟩ := n₃
    have k := k₂.trans k₃
    have hg : s₃.globalCursor = s₁.globalCursor := k.globalCursor
    refine ⟨?_, .inl t₃, ⟨?_, ?_⟩, k.loops, k.landing, k.globalInit.trans r₁.globalInit⟩
    · show Built (· = s₃.globalCursor) { s₃ with current := none }
      rw [hg]
      exact b₃.of_blocks (fun _ => rfl) (Nat.le_refl _) rfl rfl rfl b₃.table
    · show s₃.globalCursor.fn < s₃.program.functions.length
      rw [hg]
      exact Nat.lt_of_lt_of_le r₁.global.1 (Nat.le_trans (Nat.le_of_eq (by
        simp [State.enterBody, State.length_mapFn])) k.fnCount)
    · show s₃.globalCursor.block < (s₃.fn s₃.globalCursor.fn).blocks.length
      rw [hg]
      exact Nat.lt_of_lt_of_le r₁.global.2 ((g₁ _).trans (k.grows _)).1

theorem Ready.toGlobal (hr : Ready s) : Built (fun _ => False) { s with cursor := s.globalCursor } :=
  hr.built.jump hr.global.1 hr.global.2 (by simp [hr.loops]) (by simp [hr.landing])
    (hr.cursor.imp_right .inl) fun _ hd => .inr hd

theorem visitField_ready {f : Tree.FieldDecl} (hr : Ready s)
    (h : visitField f ctx s = .ok ((), s')) : Ready s' := by
  rcases visitField_steps h with ⟨-, rfl⟩ | ⟨init, v, s₁, u, s₂, -, -, h₁, h₂, rfl⟩
  · exact hr
  · have e₀ : Built (fun _ => False)
        { s with env := [], landing := none, current := none, cursor := s.globalCursor } :=
      hr.toGlobal.of_blocks (fun _ => rfl) (Nat.le_refl _) rfl rfl hr.landing.symm hr.toGlobal.table
    have k₂ := (lowerExpr_keeps init h₁).trans (emit_keeps h₂)
    have b₂ := emit_plain_built (lowerExpr_built init e₀ h₁) rfl rfl h₂
    have hl₂ : s₂.loops = [] := k₂.loops.trans hr.loops
    have hn₂ : s₂.landing = none := k₂.landing
    -- back at the cursor, which is at an ended block or at the old end, now left behind
    have back := b₂.jump (Q := (· = s₂.cursor)) (c := s.cursor)
      (Nat.lt_of_lt_of_le hr.built.cursor.1 k₂.fnCount)
      (Nat.lt_of_lt_of_le hr.built.cursor.2 (k₂.grows s.cursor.fn).1) (by simp [hl₂])
      (by simp [hn₂]) (.inr (.inr rfl)) fun _ hd => hd.elim
    have b' := back.of_blocks
      (t := { s₂ with
        globalCursor := s₂.cursor, cursor := s.cursor, env := s.env, landing := s.landing,
        current := s.current })
      (fun _ => rfl) (Nat.le_refl _) rfl rfl (hr.landing.trans hn₂.symm) back.table
    refine ⟨b', ?_, ⟨b₂.cursor.1, b₂.cursor.2⟩, hl₂, hr.landing, k₂.globalInit.trans hr.globalInit⟩
    have hcur := State.block?_cursor b'.cursor.2
    rcases b₂.closed _ _ hcur with ht | hc | hf
    · exact .inl ht
    · exact .inr hc
    · exact hf.elim

mutual

theorem visitDecl_ready : ∀ (d : Tree.Decl) {s s' : State}, Ready s →
    visitDecl d ctx s = .ok ((), s') → Ready s'
  | .klass c members, s, s', hr, h => by
    obtain ⟨k, s₁, h₁, h₂⟩ := visitDecl_klass_steps h
    exact visitDecls_ready members (hr.registers (klassId_registers h₁).1) h₂
  | .function f, s, s', hr, h => selectFunction_ready hr (by rwa [visitDecl_function] at h)
  | .field f, s, s', hr, h => visitField_ready hr (by rwa [visitDecl_field] at h)

theorem visitDecls_ready : ∀ (ds : List Tree.Decl) {s s' : State}, Ready s →
    visitDecls ds ctx s = .ok ((), s') → Ready s'
  | [], s, s', hr, h => by
    rw [visitDecls_nil_steps h]
    exact hr
  | d :: ds, s, s', hr, h => by
    obtain ⟨s₁, h₁, h₂⟩ := visitDecls_cons_steps h
    exact visitDecls_ready ds (visitDecl_ready d hr h₁) h₂

end

theorem finishGlobalInit_closed (hr : Ready s) (h : finishGlobalInit ctx s = .ok ((), s')) :
    Built (fun _ => False) s' ∧ s'.curBlock.isTerminal = true ∧ s'.program.globalInit = 0 := by
  rcases finishGlobalInit_steps h with ⟨ht, rfl⟩ | ⟨-, u, he⟩
  · exact ⟨hr.toGlobal, ht, hr.globalInit⟩
  · obtain ⟨b, t⟩ := emit_built hr.toGlobal (Instr.Sound.plain rfl rfl) he
    exact ⟨b, t, (emit_keeps he).globalInit.trans hr.globalInit⟩

end Declarations

/-! ## Well-formed programs -/

theorem Built.wellFormed {s : State} (hb : Built (fun _ => False) s)
    (ht : s.curBlock.isTerminal = true) (hg : s.program.globalInit = 0) : s.program.WellFormed := by
  -- every block of the program is the block of some cursor
  have named : ∀ f ∈ s.program.functions, ∀ b ∈ f.blocks, ∃ c, s.block? c = some b ∧ s.fn c.fn = f := by
    intro f hf b hb'
    obtain ⟨j, hj, rfl⟩ := List.getElem_of_mem hf
    obtain ⟨k, hk, rfl⟩ := List.getElem_of_mem hb'
    have hfj : s.fn j = s.program.functions[j] := by
      simp [State.fn, List.getD_eq_getElem?_getD, hj]
    exact ⟨⟨j, k⟩, by simp [State.block?, hfj, hk], hfj⟩
  refine ⟨hg, List.ne_nil_of_length_pos (Nat.lt_of_le_of_lt (Nat.zero_le _) hb.cursor.1), ?_, ?_⟩
  · intro f hf b hb'
    obtain ⟨c, hc, -⟩ := named f hf b hb'
    rcases hb.closed c b hc with h | rfl | h
    · exact h
    · rw [State.block?_cursor hb.cursor.2] at hc
      cases hc
      exact ht
    · exact h.elim
  · intro f hf b hb'
    obtain ⟨c, hc, rfl⟩ := named f hf b hb'
    exact hb.sound c b hc

/-- A selected program is well formed, and the validator finds nothing to report about it. -/
theorem selectModule_wellFormed {m : Tree.Module} {cfg : Config} {sel : Selection}
    (h : selectModule m cfg = .ok sel) :
    sel.program.WellFormed ∧ sel.program.check.errors = [] ∧ sel.program.check.warnings = [] := by
  obtain ⟨s₁, s, h₁, h₂, rfl⟩ := selectModule_steps h
  obtain ⟨hb, ht, hg⟩ := finishGlobalInit_closed (visitDecls_ready m.decls (Ready.start _) h₁) h₂
  have hw := hb.wellFormed ht hg
  exact ⟨hw, Graph.Program.check_empty hw⟩

/-- `fun f(n: Int): Int { while (true) { try { g(n) } catch (e: C) { break } }; return n }`: a
loop around a protected call whose handler leaves the loop. -/
def retryModule : Tree.Module :=
  let sp : Span := ⟨0, 0, 1, 1⟩
  let n : Expr := .node (.read ⟨0⟩ "n") .int sp
  let call : Expr := .node (.call ⟨⟨2⟩, "g", .function⟩ none none [n]) .unit sp
  let handler : Catch := .mk ⟨1⟩ "e" (.classRef ⟨3⟩) (.node (.breakLoop ⟨0⟩) .nothing sp)
  let loop : Expr := .node (.whileLoop ⟨0⟩ (.node (.literal (.boolean true)) .boolean sp)
    (some (.node (.tryCatch call [handler]) .unit sp))) .unit sp
  ⟨"retry", [.function ⟨⟨1⟩, "f", [⟨⟨0⟩, "n", .int⟩], .int,
    some (.block [loop, .node (.ret ⟨1⟩ n) .nothing sp]), .defined, false, none, sp⟩]⟩

theorem retryModule_wellFormed : ∃ sel, selectModule retryModule {} = .ok sel ∧
    sel.program.WellFormed ∧ sel.program.check.errors = [] ∧ sel.program.check.warnings = [] := by
  have hok : (selectModule retryModule {}).isOk = true := by decide +kernel
  cases h : selectModule retryModule {} with
  | error e =>
    rw [h] at hok
    cases hok
  | ok sel => exact ⟨sel, rfl, selectModule_wellFormed h⟩

end Isel.Lower
