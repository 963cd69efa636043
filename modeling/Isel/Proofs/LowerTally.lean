import Isel.Proofs.Tally

/-! # Every lowering tallies its escapes

Each construct's lemma takes the tallies of the lowerings it runs as premises and chains the
tallies of its steps: its own blocks come after the ones it is measured against, so its own
branches never count, and only the free jumps and the calls of the code it lowers reach
earlier blocks. `lowerExpr_tally` then follows by one mutual induction over the tree.
-/

namespace Isel.Lower

open Isel.Graph (Operand Instr Var)
open Isel.Tree (Expr ExprKind Arm Catch VarargElem LoopId TypeOp)

variable {ctx : Context}

/-! ## Calls -/

section Calls

variable {d x : Option Expr} {args : List Expr}

theorem operands_tally (hd : Tallies (lowerOpt d) (Expr.optEscapes d) ctx)
    (hx : Tallies (lowerOpt x) (Expr.optEscapes x) ctx)
    (ha : Tallies (lowerList args) (Expr.listEscapes args) ctx) {n : Nat} {s₀ s₁ s₂ s₃ : State}
    {od ox : Option Operand} {oa : List Operand} (hr : InRange s₀) (hn : n ≤ s₀.curFn.blocks.length)
    (h₁ : lowerOpt d ctx s₀ = .ok (od, s₁)) (h₂ : lowerOpt x ctx s₁ = .ok (ox, s₂))
    (h₃ : lowerList args ctx s₂ = .ok (oa, s₃)) :
    Tally n s₀.loops s₀.landing s₀ s₃
      (Expr.optEscapes d + Expr.optEscapes x + Expr.listEscapes args) :=
  ((hd hr hn h₁).seq hn hx h₂).seq hn ha h₃

theorem call_tally {callee : Tree.Callee} {ty : Tree.Ty} {span : Span}
    (hd : Tallies (lowerOpt d) (Expr.optEscapes d) ctx)
    (hx : Tallies (lowerOpt x) (Expr.optEscapes x) ctx)
    (ha : Tallies (lowerList args) (Expr.listEscapes args) ctx) :
    Tallies (lowerKind (.call callee d x args) ty span)
      (Expr.optEscapes d + Expr.optEscapes x + Expr.listEscapes args +
        (CallShape.of callee d x args).escapes) ctx := by
  intro n s s' v hr hn h
  cases hs : CallShape.of callee d x args with
  | intrinsic =>
    obtain ⟨intr, od, s₁, ox, s₂, oa, s₃, -, h₁, h₂, h₃, h₄⟩ := intrinsicCall_steps hs h
    rw [CallShape.escapes, Escapes.add_zero]
    exact (operands_tally hd hx ha hr hn h₁ h₂ h₃).seqQuiet hn applyIntrinsic_quiet h₄
  | arithmetic op =>
    obtain ⟨od, s₁, ox, s₂, oa, s₃, t, s₄, dst, s₅, h₁, h₂, h₃, h₄, h₅, h₆⟩ :=
      arithmeticCall_steps hs h
    rw [CallShape.escapes, Escapes.add_zero]
    exact (((operands_tally hd hx ha hr hn h₁ h₂ h₃).seqQuiet hn lowerType_quiet h₄).seqQuiet hn
      freshVar_quiet h₅).seqQuiet hn (emit_quiet rfl rfl rfl) h₆
  | construct cls =>
    -- the object is allocated before the operands are lowered
    obtain ⟨k, s₁, obj, s₂, u, s₃, od, s₄, ox, s₅, oa, s₆, fn, s₇, r,
      h₁, h₂, h₃, h₄, h₅, h₆, h₇, h₈, -⟩ := constructCall_steps hs h
    have t₃ : Tally n s.loops s.landing s s₃ 0 :=
      ((klassId_quiet hr hn h₁).seqQuiet hn freshVar_quiet h₂).seqQuiet hn
        (emit_quiet rfl rfl rfl) h₃
    have t₆ := t₃.zero_join
      (operands_tally hd hx ha t₃.inRange (Nat.le_trans hn t₃.grows) h₄ h₅ h₆)
    have t₇ := t₆.seqQuiet hn calleeFor_quiet h₇
    exact t₇.join (generateCall_tally t₇.inRange (Nat.le_trans hn t₇.grows) h₈)
  | plain =>
    obtain ⟨od, s₁, ox, s₂, oa, s₃, ret, s₄, fn, s₅, h₁, h₂, h₃, h₄, h₅, h₆⟩ :=
      plainCall_steps hs h
    have t₅ := ((operands_tally hd hx ha hr hn h₁ h₂ h₃).seqQuiet hn lowerType_quiet h₄).seqQuiet hn
      calleeFor_quiet h₅
    exact t₅.join (generateCall_tally t₅.inRange (Nat.le_trans hn t₅.grows) h₆)

theorem delegatingCall_tally {callee : Tree.Callee} {ty : Tree.Ty} {span : Span}
    (ha : Tallies (lowerList args) (Expr.listEscapes args) ctx) :
    Tallies (lowerKind (.delegatingCall callee args) ty span)
      (Expr.listEscapes args + Escapes.call) ctx := by
  intro n s s' v hr hn h
  obtain ⟨receiver, oa, s₁, fn, s₂, -, h₁, h₂, h₃⟩ := delegatingCall_steps h
  have t₂ := (ha hr hn h₁).seqQuiet hn calleeFor_quiet h₂
  exact t₂.join (generateCall_tally t₂.inRange (Nat.le_trans hn t₂.grows) h₃)

end Calls

/-! ## Loops and jumps -/

section Loops

variable {loop : LoopId} {cond : Expr} {body : Option Expr} {ty : Tree.Ty} {span : Span}

theorem whileLoop_tally (hc : Tallies (lowerExpr cond) cond.escapes ctx)
    (hb : Tallies (lowerOpt body) (Expr.optEscapes body) ctx) :
    Tallies (lowerKind (.whileLoop loop cond body) ty span)
      (cond.escapes + (Expr.optEscapes body).bind loop) ctx := by
  intro n s s' v hr hn h
  obtain ⟨check, s₁, bodyB, s₂, exit, s₃, u₁, s₄, c, s₅, u₂, s₆, b, s₇, s₈,
    h₁, h₂, h₃, h₄, h₅, h₆, h₇, h₈, rfl, -⟩ := whileLoop_steps h
  -- the test, the body and the exit are the next three blocks
  obtain ⟨rfl, l₁, t₁⟩ := newBlock_tally (L := s.loops) (D := s.landing) hr hn h₁
  obtain ⟨rfl, l₂, t₂⟩ :=
    newBlock_tally (n := n) (L := s.loops) (D := s.landing) t₁.inRange (by omega) h₂
  obtain ⟨rfl, l₃, t₃⟩ :=
    newBlock_tally (n := n) (L := s.loops) (D := s.landing) t₂.inRange (by omega) h₃
  have t₄ := ((t₁.zero_trans t₂).zero_trans t₃).seqEmit hn (Instr.staysAbove_br hn) h₄
  have l₄ : s₃.curFn.blocks.length ≤ s₄.curFn.blocks.length := (emit_keeps h₄).blocks.1
  -- the test is lowered before the frame is entered
  have t₆ := ((t₄.moveTo (b := s.curFn.blocks.length) (by omega) hn).zero_seq hn hc h₅).seqEmit hn
    (Instr.staysAbove_condBr (by omega) (by omega)) h₆
  have l₆ : s₄.curFn.blocks.length ≤ s₆.curFn.blocks.length :=
    Nat.le_trans (lowerExpr_keeps cond h₅).blocks.1 (emit_keeps h₆).blocks.1
  -- the body, in the frame, goes back to the test
  have tb := hb.inLoop (n := n) t₆.inRange (by omega) (by omega) h₇
  have t₈ := tb.trans_zero
    (jumpIfOpen_tally tb.inRange (Nat.le_trans (by omega : n ≤ s₆.curFn.blocks.length) tb.grows)
      hn h₈)
  have l₈ : s₆.curFn.blocks.length ≤ s₈.curFn.blocks.length :=
    Nat.le_trans tb.grows (jumpIfOpen_keeps h₈).blocks.1
  exact t₆.join (t₈.withLoop (by omega) hn (by omega : n ≤ s₂.curFn.blocks.length) (by omega)
    (by omega))

theorem doWhile_tally (hc : Tallies (lowerExpr cond) cond.escapes ctx)
    (hb : Tallies (lowerOpt body) (Expr.optEscapes body) ctx) :
    Tallies (lowerKind (.doWhile loop cond body) ty span)
      ((Expr.optEscapes body + cond.escapes).bind loop) ctx := by
  intro n s s' v hr hn h
  obtain ⟨check, s₁, bodyB, s₂, exit, s₃, u₁, s₄, b, s₅, s₆, c, s₇, u₂, s₈,
    h₁, h₂, h₃, h₄, h₅, h₆, h₇, h₈, rfl, -⟩ := doWhile_steps h
  obtain ⟨rfl, l₁, t₁⟩ := newBlock_tally (L := s.loops) (D := s.landing) hr hn h₁
  obtain ⟨rfl, l₂, t₂⟩ :=
    newBlock_tally (n := n) (L := s.loops) (D := s.landing) t₁.inRange (by omega) h₂
  obtain ⟨rfl, l₃, t₃⟩ :=
    newBlock_tally (n := n) (L := s.loops) (D := s.landing) t₂.inRange (by omega) h₃
  have t₄ := ((t₁.zero_trans t₂).zero_trans t₃).seqEmit hn (Instr.staysAbove_br (by omega)) h₄
  have l₄ : s₃.curFn.blocks.length ≤ s₄.curFn.blocks.length := (emit_keeps h₄).blocks.1
  have hn₄ : n ≤ s₄.curFn.blocks.length := by omega
  -- in the frame, the body falls through to the test, which branches back to the body
  have tb := hb.inLoop t₄.inRange hn₄ (by omega) h₅
  have t₆ := tb.trans_zero (jumpIfOpen_tally tb.inRange (Nat.le_trans hn₄ tb.grows) hn h₆)
  have l₆ : s₄.curFn.blocks.length ≤ s₆.curFn.blocks.length :=
    Nat.le_trans tb.grows (jumpIfOpen_keeps h₆).blocks.1
  have t₆' := t₆.moveTo (b := s.curFn.blocks.length) (by omega) hn
  have t₈ := (t₆'.seq hn₄ hc h₇).seqEmit hn₄ (Instr.staysAbove_condBr (by omega) (by omega)) h₈
  have l₈ : s₆.curFn.blocks.length ≤ s₈.curFn.blocks.length :=
    Nat.le_trans (lowerExpr_keeps cond h₇).blocks.1 (emit_keeps h₈).blocks.1
  exact t₄.zero_join (t₈.withLoop (by omega) hn (by omega : n ≤ s₂.curFn.blocks.length)
    (by omega) (by omega))

theorem jump_tally {k : LoopExit} {fr : LoopFrame} {u : Operand} {n : Nat} {s s' : State}
    (hr : InRange s) (hn : n ≤ s.curFn.blocks.length) (hf : s.loops.find? (·.loop == loop) = some fr)
    (h : emit (.br (k.target fr)) ctx s = .ok (u, s')) :
    Tally n s.loops s.landing s s' (Escapes.jump k loop) := by
  have hres : resolve s.loops (k, loop) = some (k.target fr) := by simp [resolve, hf]
  refine emit_tally hr hn h ?_ (fun t _ => ?_) ?_ ?_ ?_
  · simp [hres]
  · by_cases ht : k.target fr = t <;> simp [hres, ht, Instr.successors]
  · simp [Instr.isCall]
  · simp [Instr.isInvoke]
  · intro t ht _
    rw [Instr.successors, List.mem_singleton] at ht
    subst ht
    exact .inl ⟨rfl, (k, loop), by simp [Escapes.jump], hres⟩

theorem breakLoop_tally : Tallies (lowerKind (.breakLoop loop) ty span)
    (Escapes.jump .breakLoop loop) ctx := by
  intro n s s' v hr hn h
  obtain ⟨fr, u, h₁, h₂, -⟩ := breakLoop_steps h
  exact jump_tally (k := .breakLoop) hr hn (findLoop_ok h₁).1 h₂

theorem continueLoop_tally : Tallies (lowerKind (.continueLoop loop) ty span)
    (Escapes.jump .continueLoop loop) ctx := by
  intro n s s' v hr hn h
  obtain ⟨fr, u, h₁, h₂, -⟩ := continueLoop_steps h
  exact jump_tally (k := .continueLoop) hr hn (findLoop_ok h₁).1 h₂

end Loops

/-! ## Conditionals and exceptions -/

section Branching

variable {ty : Tree.Ty} {span : Span}

theorem whenArms_tally {arms : List Arm} (ha : ArmsTally arms (Arm.listEscapes arms) ctx) :
    Tallies (lowerKind (.whenArms arms) ty span) (Arm.listEscapes arms) ctx := by
  intro n s s' v hr hn h
  obtain ⟨result, s₁, exit, s₂, s₃, s₄, h₁, h₂, h₃, h₄, h₅, rfl, -⟩ := whenArms_steps h
  have t₁ : Tally n s.loops s.landing s s₁ 0 := resultVar_quiet hr hn h₁
  have hn₁ := Nat.le_trans hn t₁.grows
  obtain ⟨rfl, l₂, t₂⟩ := newBlock_tally (L := s.loops) (D := s.landing) t₁.inRange hn₁ h₂
  have ta := ha t₂.inRange hn₁ (by omega) h₃
  -- an arm still open at the end branches to the exit
  have t₄ : Tally n s.loops s.landing s₃ s₄ 0 := by
    by_cases hb : s₃.cursor.block = s₁.curFn.blocks.length
    · rw [h₅ hb]
      exact Tally.refl ta.inRange
    · exact jumpIfOpen_tally ta.inRange (by have := ta.grows; omega) hn₁ (h₄ hb)
  exact ((t₁.zero_trans t₂).zero_join ta |>.trans_zero t₄).moveTo
    (by have := ta.grows; have := t₄.grows; omega) hn₁

/-- A `try` without handlers lowers its body under the landing block around it. With handlers,
they are lowered first at a new landing block, under the landing block around the `try`; the
body, back where the `try` started, lands there. -/
theorem tryCatch_tally {body : Expr} {catches : List Catch}
    (hb : Tallies (lowerExpr body) body.escapes ctx)
    (hh : HandlersTally catches (Catch.listEscapes catches) ctx) :
    Tallies (lowerKind (.tryCatch body catches) ty span)
      (if catches = [] then body.escapes else Catch.listEscapes catches + body.escapes.protect)
      ctx := by
  intro n s s' v hr hn h
  obtain ⟨result, s₁, exit, s₂, s₃, b, s₄, s₅, h₁, h₂, h₃, h₄, h₅, rfl, -⟩ := tryCatch_steps h
  have t₁ : Tally n s.loops s.landing s s₁ 0 := resultVar_quiet hr hn h₁
  have hn₁ := Nat.le_trans hn t₁.grows
  obtain ⟨rfl, l₂, t₂⟩ := newBlock_tally (L := s.loops) (D := s.landing) t₁.inRange hn₁ h₂
  have t₂' := t₁.zero_trans t₂
  have hn₂ : n ≤ s₂.curFn.blocks.length := by omega
  -- the body and its arm, from `s₃`, with the landing block `s₃` gives
  have body_arm : InRange s₃ → s₂.curFn.blocks.length ≤ s₃.curFn.blocks.length →
      Tally n s₃.loops s₃.landing s₃ s₅ body.escapes ∧
        s₁.curFn.blocks.length < s₅.curFn.blocks.length := by
    intro hr₃ hl₃
    have t₄ := hb (n := n) hr₃ (by omega) h₄
    have t₅ := t₄.trans_zero (finishArm_tally t₄.inRange (by have := t₄.grows; omega) hn₁ h₅)
    exact ⟨t₅, by have := t₅.grows; omega⟩
  rcases h₃ with ⟨rfl, rfl⟩ | ⟨hne, header, s₆, exn, s₇, u, s₈, s₉, h₆, h₇, h₈, h₉, rfl⟩
  · rw [if_pos rfl]
    obtain ⟨t₅, l₅⟩ := body_arm t₂.inRange (Nat.le_refl _)
    exact t₂'.zero_join ((t₅.withLanding (l := s₃.landing) rfl).moveTo l₅ hn₁)
  · rw [if_neg hne]
    obtain ⟨rfl, l₆, t₆⟩ := newBlock_tally (L := s₂.loops) (D := s₂.landing) t₂.inRange hn₂ h₆
    -- the landing pad starts the header, and every handler's parameter is the exception
    have t₈ := ((t₆.moveTo (b := s₂.curFn.blocks.length) (by omega) hn₂).seqQuiet hn₂
      freshVar_quiet h₇).seqEmit hn₂ (Instr.staysAbove_of_successors rfl rfl rfl) h₈
    have l₈ : s₁.curFn.blocks.length < s₈.curFn.blocks.length := by have := t₈.grows; omega
    have t₈' := t₈.bindEnv (catches.map fun c => (c.param, Operand.var exn)).reverse
    have t₉ := t₈'.zero_join (hh t₈'.inRange hn₁ l₈ h₉)
    have t₉' := t₉.restoreCursor t₂.inRange
    obtain ⟨t₅, l₅⟩ := body_arm t₉'.inRange t₉'.grows
    have tp := (t₅.protect (l := s₂.curFn.blocks.length) hn₂ s₉.landing).withLanding
      (s := { s₉ with cursor := s₂.cursor }) (t₉.keeps.landing)
    exact t₂'.zero_join ((t₉'.join tp).moveTo l₅ hn₁)

end Branching

/-! ## Other nodes -/

section Nodes

variable {ty : Tree.Ty} {span : Span}

theorem literal_tally {l : Tree.Literal} : Tallies (lowerKind (.literal l) ty span) 0 ctx := by
  intro n s s' v hr hn h
  obtain ⟨-, rfl⟩ := literal_steps h
  exact Tally.refl hr

theorem instanceInit_tally {cls : Tree.DefId} :
    Tallies (lowerKind (.instanceInit cls) ty span) 0 ctx := by
  intro n s s' v hr hn h
  obtain ⟨-, rfl⟩ := instanceInit_steps h
  exact Tally.refl hr

theorem read_tally {var : Tree.LocalId} {name : String} :
    Tallies (lowerKind (.read var name) ty span) 0 ctx := by
  intro n s s' v hr hn h
  rcases read_steps h with ⟨-, rfl⟩ | ⟨-, -, rfl⟩
  · exact Tally.refl hr
  · exact (Tally.refl hr).warn _ _ _

theorem objectValue_tally {cls : Tree.DefId} :
    Tallies (lowerKind (.objectValue cls) ty span) 0 ctx := fun hr hn h =>
  objectValue_quiet hr hn (objectValue_steps' h)

theorem unsupported_tally {k : ExprKind}
    (hk : (∃ args, k = .stringConcat args) ∨ (∃ cls, k = .classReference cls) ∨
      (∃ fn, k = .functionReference fn) ∨ (∃ cls name, k = .enumEntry cls name)) :
    Tallies (lowerKind k ty span) 0 ctx := by
  intro n s s' v hr hn h
  obtain ⟨what, h⟩ := unsupported_steps hk h
  rw [unsupportedNode_run] at h
  cases h
  exact (Tally.refl hr).warn _ _ _

theorem typeOp_tally {op : TypeOp} {arg : Expr} {operand : Tree.Ty}
    (ha : Tallies (lowerExpr arg) arg.escapes ctx) :
    Tallies (lowerKind (.typeOp op arg operand) ty span) arg.escapes ctx := by
  intro n s s' v hr hn h
  cases op with
  | cast | safeCast =>
    obtain ⟨a, s₁, t, s₂, dst, s₃, h₁, h₂, h₃, h₄⟩ := cast_steps (by simp) h
    exact (((ha hr hn h₁).seqQuiet hn lowerType_quiet h₂).seqQuiet hn freshVar_quiet h₃).seqQuiet
      hn (emit_quiet rfl rfl rfl) h₄
  | implicitCast => exact ha hr hn (implicitCast_steps h)
  | implicitNotNull =>
    obtain ⟨a, s₁, h₁, rfl, -⟩ := implicitNotNull_steps h
    exact (ha hr hn h₁).warn _ _ _
  | coercionToUnit =>
    obtain ⟨a, h₁, -⟩ := coercionToUnit_steps h
    exact ha hr hn h₁
  | integerCoercion =>
    obtain ⟨a, s₁, -, h₁, h₂⟩ := integerCoercion_steps h
    exact (ha hr hn h₁).seqQuiet hn coerceInteger_quiet h₂
  | instanceOf | notInstanceOf =>
    obtain ⟨a, s₁, t, s₂, dst, s₃, h₁, h₂, h₃, h₄⟩ := typeTest_steps (by simp) h
    exact (((ha hr hn h₁).seqQuiet hn lowerType_quiet h₂).seqQuiet hn freshVar_quiet h₃).seqQuiet
      hn (emit_quiet rfl rfl rfl) h₄

theorem block_tally {stmts : List Expr}
    (hb : Tallies (lowerBlock stmts) (Expr.listEscapes stmts) ctx) :
    Tallies (lowerKind (.block stmts) ty span) (Expr.listEscapes stmts) ctx := fun hr hn h =>
  hb hr hn (block_steps h)

theorem ret_tally {target : Tree.DefId} {value : Expr}
    (hv : Tallies (lowerExpr value) value.escapes ctx) :
    Tallies (lowerKind (.ret target value) ty span) value.escapes ctx := by
  intro n s s' v hr hn h
  obtain ⟨a, s₁, u, h₁, h₂, -⟩ := ret_steps h
  exact (hv hr hn h₁).seqQuiet hn (emit_quiet rfl rfl rfl) h₂

theorem declare_tally {var : Tree.LocalId} {name : String} {varTy : Tree.Ty} {init : Option Expr}
    (hi : Tallies (lowerOpt init) (Expr.optEscapes init) ctx) :
    Tallies (lowerKind (.declare var name varTy init) ty span) (Expr.optEscapes init) ctx := by
  intro n s s' v hr hn h
  obtain ⟨o, s₁, h₁, rfl, -⟩ := declare_steps h
  exact (hi hr hn h₁).bindEnv [_]

theorem assign_tally {var : Tree.LocalId} {name : String} {value : Expr}
    (hv : Tallies (lowerExpr value) value.escapes ctx) :
    Tallies (lowerKind (.assign var name value) ty span) value.escapes ctx := by
  intro n s s' v hr hn h
  obtain ⟨a, s₁, u, s₂, h₁, h₂, rfl, -⟩ := assign_steps h
  exact ((hv hr hn h₁).seqQuiet hn (emit_quiet rfl rfl rfl) h₂).bindEnv [_]

theorem vararg_tally {elems : List VarargElem}
    (he : Tallies (lowerVararg elems) (VarargElem.listEscapes elems) ctx) :
    Tallies (lowerKind (.vararg elems) ty span) (VarargElem.listEscapes elems) ctx := by
  intro n s s' v hr hn h
  obtain ⟨vs, s₁, t, h₁, h₂, -⟩ := vararg_steps h
  exact (he hr hn h₁).seqQuiet hn lowerType_quiet h₂

theorem throw_tally {value : Expr} (hv : Tallies (lowerExpr value) value.escapes ctx) :
    Tallies (lowerKind (.throw value) ty span) value.escapes ctx := by
  intro n s s' v hr hn h
  obtain ⟨a, s₁, h₁, rfl, -⟩ := throw_steps h
  exact (hv hr hn h₁).warn _ _ _

theorem receiver_tally {field : Tree.FieldRef} {receiver : Option Expr} {address : Operand}
    {offset n : Nat} {s s₁ : State}
    (hr : ∀ r, receiver = some r → Tallies (lowerExpr r) r.escapes ctx) (hs : InRange s)
    (hn : n ≤ s.curFn.blocks.length)
    (h : (receiver = none ∧ address = .symbol field.name ∧ offset = 0 ∧ s₁ = s) ∨
      ∃ r s₀, receiver = some r ∧ fieldOffset field r.ty span ctx s = .ok (offset, s₀) ∧
        lowerExpr r ctx s₀ = .ok (address, s₁)) :
    Tally n s.loops s.landing s s₁ (Expr.optEscapes receiver) := by
  rcases h with ⟨rfl, -, -, rfl⟩ | ⟨r, s₀, rfl, h₀, h₁⟩
  · exact Tally.refl hs
  · exact (fieldOffset_quiet hs hn h₀).zero_seq hn (hr r rfl) h₁

theorem getField_tally {field : Tree.FieldRef} {receiver : Option Expr}
    (hr : ∀ r, receiver = some r → Tallies (lowerExpr r) r.escapes ctx) :
    Tallies (lowerKind (.getField field receiver) ty span) (Expr.optEscapes receiver) ctx := by
  intro n s s' v hs hn h
  obtain ⟨address, offset, s₁, t, s₂, dst, s₃, h₀, h₂, h₃, h₄⟩ := getField_steps h
  exact (((receiver_tally hr hs hn h₀).seqQuiet hn lowerType_quiet h₂).seqQuiet hn
    freshVar_quiet h₃).seqQuiet hn (emit_quiet rfl rfl rfl) h₄

theorem setField_tally {field : Tree.FieldRef} {receiver : Option Expr} {value : Expr}
    (hr : ∀ r, receiver = some r → Tallies (lowerExpr r) r.escapes ctx)
    (hv : Tallies (lowerExpr value) value.escapes ctx) :
    Tallies (lowerKind (.setField field receiver value) ty span)
      (Expr.optEscapes receiver + value.escapes) ctx := by
  intro n s s' v hs hn h
  obtain ⟨address, offset, s₁, a, s₂, u, h₀, h₂, h₃, -⟩ := setField_steps h
  exact ((receiver_tally hr hs hn h₀).seq hn hv h₂).seqQuiet hn (emit_quiet rfl rfl rfl) h₃

end Nodes

/-! ## Sequences, arms and handlers -/

section Sequences

variable {e e' : Expr} {es : List Expr}

theorem lowerOpt_none_tally : Tallies (lowerOpt none) 0 ctx := by
  intro n s s' o hr hn h
  obtain ⟨-, rfl⟩ := lowerOpt_none_steps h
  exact Tally.refl hr

theorem lowerOpt_some_tally (he : Tallies (lowerExpr e) e.escapes ctx) :
    Tallies (lowerOpt (some e)) e.escapes ctx := by
  intro n s s' o hr hn h
  obtain ⟨a, h₁, -⟩ := lowerOpt_some_steps h
  exact he hr hn h₁

theorem lowerList_nil_tally : Tallies (lowerList []) 0 ctx := by
  intro n s s' vs hr hn h
  obtain ⟨-, rfl⟩ := lowerList_nil_steps h
  exact Tally.refl hr

theorem lowerList_cons_tally (he : Tallies (lowerExpr e) e.escapes ctx)
    (hes : Tallies (lowerList es) (Expr.listEscapes es) ctx) :
    Tallies (lowerList (e :: es)) (e.escapes + Expr.listEscapes es) ctx := by
  intro n s s' vs hr hn h
  obtain ⟨a, s₁, as, h₁, h₂, -⟩ := lowerList_cons_steps h
  exact (he hr hn h₁).seq hn hes h₂

theorem lowerBlock_nil_tally : Tallies (lowerBlock []) 0 ctx := by
  intro n s s' v hr hn h
  obtain ⟨-, rfl⟩ := lowerBlock_nil_steps h
  exact Tally.refl hr

theorem lowerBlock_single_tally (he : Tallies (lowerExpr e) e.escapes ctx) :
    Tallies (lowerBlock [e]) (Expr.listEscapes [e]) ctx := by
  rw [Expr.listEscapes, Expr.listEscapes, Escapes.add_zero]
  intro n s s' v hr hn h
  exact he hr hn (by rwa [lowerBlock_single] at h)

theorem lowerBlock_cons_tally (he : Tallies (lowerExpr e) e.escapes ctx)
    (hes : Tallies (lowerBlock (e' :: es)) (Expr.listEscapes (e' :: es)) ctx) :
    Tallies (lowerBlock (e :: e' :: es)) (e.escapes + Expr.listEscapes (e' :: es)) ctx := by
  intro n s s' v hr hn h
  obtain ⟨a, s₁, h₁, h₂⟩ := lowerBlock_cons_steps h
  exact (he hr hn h₁).seq hn hes h₂

theorem lowerVararg_nil_tally : Tallies (lowerVararg []) 0 ctx := by
  intro n s s' vs hr hn h
  obtain ⟨-, rfl⟩ := lowerVararg_nil_steps h
  exact Tally.refl hr

theorem lowerVararg_value_tally {rest : List VarargElem} (he : Tallies (lowerExpr e) e.escapes ctx)
    (hrest : Tallies (lowerVararg rest) (VarargElem.listEscapes rest) ctx) :
    Tallies (lowerVararg (.value e :: rest)) (e.escapes + VarargElem.listEscapes rest) ctx := by
  intro n s s' vs hr hn h
  obtain ⟨a, s₁, as, h₁, h₂, -⟩ := lowerVararg_value_steps h
  exact (he hr hn h₁).seq hn hrest h₂

theorem lowerVararg_spread_tally {rest : List VarargElem} :
    Tallies (lowerVararg (.spread e :: rest)) 0 ctx := fun _ _ h =>
  (lowerVararg_spread h).elim

theorem lowerArms_nil_tally : ArmsTally [] 0 ctx := by
  intro n s s' result exit hr hn he h
  rw [lowerArms_nil_steps h]
  exact Tally.refl hr

theorem lowerArms_true_tally {cond res : Expr} {rest : List Arm} (hc : cond.isTrueLiteral = true)
    (hres : Tallies (lowerExpr res) res.escapes ctx) :
    ArmsTally (.mk cond res :: rest) (Arm.listEscapes (.mk cond res :: rest)) ctx := by
  rw [Arm.listEscapes, if_pos hc]
  intro n s s' result exit hr hn he h
  obtain ⟨a, s₁, h₁, h₂⟩ := lowerArms_true_steps hc h
  have t₁ := hres (n := n) hr (by omega) h₁
  exact t₁.trans_zero (finishArm_tally t₁.inRange (Nat.le_trans (by omega) t₁.grows) hn h₂)

theorem lowerArms_test_tally {cond res : Expr} {rest : List Arm} (hc : cond.isTrueLiteral = false)
    (hcond : Tallies (lowerExpr cond) cond.escapes ctx)
    (hres : Tallies (lowerExpr res) res.escapes ctx)
    (hrest : ArmsTally rest (Arm.listEscapes rest) ctx) :
    ArmsTally (.mk cond res :: rest) (Arm.listEscapes (.mk cond res :: rest)) ctx := by
  rw [Arm.listEscapes, if_neg (by simp [hc])]
  intro n s s' result exit hr hn he h
  obtain ⟨c, s₁, arm, s₂, next, s₃, u, s₄, a, s₅, s₆, h₁, h₂, h₃, h₄, h₅, h₆, h₇⟩ :=
    lowerArms_test_steps hc h
  have hn₀ : n ≤ s.curFn.blocks.length := by omega
  have t₁ := hcond hr hn₀ h₁
  have l₁ : s.curFn.blocks.length ≤ s₁.curFn.blocks.length := t₁.grows
  obtain ⟨rfl, l₂, t₂⟩ :=
    newBlock_tally (n := n) (L := s.loops) (D := s.landing) t₁.inRange (by omega) h₂
  have t₃ : (n ≤ next ∧ next < s₃.curFn.blocks.length) ∧ Tally n s.loops s.landing s₂ s₃ 0 := by
    rcases h₃ with ⟨-, rfl, rfl⟩ | ⟨-, h₃⟩
    · exact ⟨⟨hn, by omega⟩, Tally.refl t₂.inRange⟩
    · obtain ⟨rfl, l₃, t₃⟩ :=
        newBlock_tally (n := n) (L := s.loops) (D := s.landing) t₂.inRange (by omega) h₃
      exact ⟨⟨by omega, by omega⟩, t₃⟩
  obtain ⟨⟨hnext, lnext⟩, t₃⟩ := t₃
  have l₃ := t₃.grows
  have t₄ := ((t₁.trans_zero t₂).trans_zero t₃).seqEmit hn₀
    (Instr.staysAbove_condBr (by omega) hnext) h₄
  have l₄ : s₃.curFn.blocks.length ≤ s₄.curFn.blocks.length := (emit_keeps h₄).blocks.1
  -- the arm's own block, which ends at the exit
  have t₅ := (t₄.moveTo (b := s₁.curFn.blocks.length) (by omega) (by omega)).seq hn₀ hres h₅
  have t₆ := t₅.trans_zero (finishArm_tally t₅.inRange (Nat.le_trans hn₀ t₅.grows) hn h₆)
  have l₆ : s₄.curFn.blocks.length ≤ s₆.curFn.blocks.length :=
    Nat.le_trans (lowerExpr_keeps res h₅).blocks.1 (finishArm_keeps h₆).blocks.1
  -- then the next test
  have t₆' := t₆.moveTo (b := next) (by omega) hnext
  exact t₆'.join (hrest t₆'.inRange hn (by omega : exit < s₆.curFn.blocks.length) h₇)

theorem lowerHandlers_nil_tally : HandlersTally [] 0 ctx := by
  intro n s s' exn result exit hr hn he h
  rw [lowerHandlers_nil_steps h]
  exact Tally.refl hr

theorem lowerHandlers_last_tally {c : Catch} (hres : Tallies (lowerExpr c.result) c.result.escapes ctx) :
    HandlersTally [c] (Catch.listEscapes [c]) ctx := by
  obtain ⟨param, name, ty, res⟩ := c
  rw [Catch.listEscapes, Catch.listEscapes, Escapes.add_zero]
  intro n s s' exn result exit hr hn he h
  obtain ⟨a, s₁, h₁, h₂⟩ := lowerHandlers_last_steps h
  have t₁ := hres (n := n) hr (by omega) h₁
  exact t₁.trans_zero (finishArm_tally t₁.inRange (Nat.le_trans (by omega) t₁.grows) hn h₂)

theorem lowerHandlers_test_tally {c c' : Catch} {rest : List Catch}
    (hres : Tallies (lowerExpr c.result) c.result.escapes ctx)
    (hrest : HandlersTally (c' :: rest) (Catch.listEscapes (c' :: rest)) ctx) :
    HandlersTally (c :: c' :: rest) (c.result.escapes + Catch.listEscapes (c' :: rest)) ctx := by
  intro n s s' exn result exit hr hn he h
  obtain ⟨t, s₁, caught, s₂, u₁, s₃, body, s₄, next, s₅, u₂, s₆, a, s₇, s₈,
    h₁, h₂, h₃, h₄, h₅, h₆, h₇, h₈, h₉⟩ := lowerHandlers_test_steps h
  have hn₀ : n ≤ s.curFn.blocks.length := by omega
  -- the type test stays in the block
  have t₃ : Tally n s.loops s.landing s s₃ 0 := ((lowerType_quiet hr hn₀ h₁).seqQuiet hn₀
    freshVar_quiet h₂).seqQuiet hn₀ (emit_quiet rfl rfl rfl) h₃
  have l₃ := t₃.grows
  obtain ⟨rfl, l₄, t₄⟩ :=
    newBlock_tally (n := n) (L := s.loops) (D := s.landing) t₃.inRange (by omega) h₄
  obtain ⟨rfl, l₅, t₅⟩ :=
    newBlock_tally (n := n) (L := s.loops) (D := s.landing) t₄.inRange (by omega) h₅
  have t₆ := ((t₃.trans_zero t₄).trans_zero t₅).seqEmit hn₀
    (Instr.staysAbove_condBr (by omega) (by omega)) h₆
  have l₆ : s₅.curFn.blocks.length ≤ s₆.curFn.blocks.length := (emit_keeps h₆).blocks.1
  -- the handler's own block, which ends at the exit
  have t₇ := (t₆.moveTo (b := s₃.curFn.blocks.length) (by omega) (by omega)).zero_seq hn₀ hres h₇
  have t₈ := t₇.trans_zero (finishArm_tally t₇.inRange (Nat.le_trans hn₀ t₇.grows) hn h₈)
  have l₈ : s₆.curFn.blocks.length ≤ s₈.curFn.blocks.length :=
    Nat.le_trans (lowerExpr_keeps _ h₇).blocks.1 (finishArm_keeps h₈).blocks.1
  -- then the next handler
  have t₈' := t₈.moveTo (b := s₄.curFn.blocks.length) (by omega) (by omega)
  exact t₈'.join (hrest t₈'.inRange hn (by omega : exit < s₈.curFn.blocks.length) h₉)

end Sequences

/-! ## Every lowering -/

mutual

/-- Lowering an expression tallies its escapes: against the blocks there before it started, it
adds one edge for each free jump, to the block `resolve` gives, and one for each call it
lowers outside a protected body when a landing block encloses it; its calls outside protected
bodies become `call`s without a landing block and `invoke`s with one, and its protected calls
become `invoke`s. -/
theorem lowerExpr_tally : ∀ e : Expr, Tallies (lowerExpr e) e.escapes ctx
  | .node k ty span => fun hr hn h => lowerKind_tally k ty span hr hn (by rwa [lowerExpr_node] at h)

theorem lowerKind_tally :
    ∀ (k : ExprKind) (ty : Tree.Ty) (span : Span), Tallies (lowerKind k ty span) k.escapes ctx
  | .literal _, _, _ => literal_tally
  | .typeOp _ arg _, _, _ => typeOp_tally (lowerExpr_tally arg)
  | .call _ d x args, _, _ => call_tally (lowerOpt_tally d) (lowerOpt_tally x) (lowerList_tally args)
  | .delegatingCall _ args, _, _ => delegatingCall_tally (lowerList_tally args)
  | .instanceInit _, _, _ => instanceInit_tally
  | .block stmts, _, _ => block_tally (lowerBlock_tally stmts)
  | .whileLoop _ cond body, _, _ => whileLoop_tally (lowerExpr_tally cond) (lowerOpt_tally body)
  | .doWhile _ cond body, _, _ => doWhile_tally (lowerExpr_tally cond) (lowerOpt_tally body)
  | .breakLoop _, _, _ => breakLoop_tally
  | .continueLoop _, _, _ => continueLoop_tally
  | .ret _ value, _, _ => ret_tally (lowerExpr_tally value)
  | .whenArms arms, _, _ => whenArms_tally (lowerArms_tally arms)
  | .declare _ _ _ init, _, _ => declare_tally (lowerOpt_tally init)
  | .assign _ _ value, _, _ => assign_tally (lowerExpr_tally value)
  | .read _ _, _, _ => read_tally
  | .vararg elems, _, _ => vararg_tally (lowerVararg_tally elems)
  | .throw value, _, _ => throw_tally (lowerExpr_tally value)
  | .tryCatch body catches, _, _ =>
    tryCatch_tally (lowerExpr_tally body) (lowerHandlers_tally catches)
  | .getField _ none, _, _ => getField_tally fun _ h => by cases h
  | .getField _ (some r), _, _ => getField_tally fun _ h => by
    cases h
    exact lowerExpr_tally r
  | .setField _ none value, _, _ => setField_tally (fun _ h => by cases h) (lowerExpr_tally value)
  | .setField _ (some r) value, _, _ => setField_tally (fun _ h => by
      cases h
      exact lowerExpr_tally r) (lowerExpr_tally value)
  | .objectValue _, _, _ => objectValue_tally
  | .stringConcat args, _, _ => unsupported_tally (.inl ⟨args, rfl⟩)
  | .classReference cls, _, _ => unsupported_tally (.inr (.inl ⟨cls, rfl⟩))
  | .functionReference fn, _, _ => unsupported_tally (.inr (.inr (.inl ⟨fn, rfl⟩)))
  | .enumEntry cls name, _, _ => unsupported_tally (.inr (.inr (.inr ⟨cls, name, rfl⟩)))

theorem lowerOpt_tally : ∀ o : Option Expr, Tallies (lowerOpt o) (Expr.optEscapes o) ctx
  | none => lowerOpt_none_tally
  | some e => lowerOpt_some_tally (lowerExpr_tally e)

theorem lowerList_tally : ∀ es : List Expr, Tallies (lowerList es) (Expr.listEscapes es) ctx
  | [] => lowerList_nil_tally
  | e :: es => lowerList_cons_tally (lowerExpr_tally e) (lowerList_tally es)

theorem lowerBlock_tally : ∀ es : List Expr, Tallies (lowerBlock es) (Expr.listEscapes es) ctx
  | [] => lowerBlock_nil_tally
  | [e] => lowerBlock_single_tally (lowerExpr_tally e)
  | e :: e' :: es => lowerBlock_cons_tally (lowerExpr_tally e) (lowerBlock_tally (e' :: es))

theorem lowerArms_tally : ∀ arms : List Arm, ArmsTally arms (Arm.listEscapes arms) ctx
  | [] => lowerArms_nil_tally
  | .mk cond res :: rest => by
    cases hc : cond.isTrueLiteral
    · exact lowerArms_test_tally hc (lowerExpr_tally cond) (lowerExpr_tally res)
        (lowerArms_tally rest)
    · exact lowerArms_true_tally hc (lowerExpr_tally res)

theorem lowerHandlers_tally : ∀ cs : List Catch, HandlersTally cs (Catch.listEscapes cs) ctx
  | [] => lowerHandlers_nil_tally
  | [.mk _ _ _ res] => lowerHandlers_last_tally (lowerExpr_tally res)
  | .mk _ _ _ res :: c' :: rest =>
    lowerHandlers_test_tally (lowerExpr_tally res) (lowerHandlers_tally (c' :: rest))

theorem lowerVararg_tally :
    ∀ elems : List VarargElem, Tallies (lowerVararg elems) (VarargElem.listEscapes elems) ctx
  | [] => lowerVararg_nil_tally
  | .value e :: rest => lowerVararg_value_tally (lowerExpr_tally e) (lowerVararg_tally rest)
  | .spread _ :: _ => lowerVararg_spread_tally

end

end Isel.Lower
