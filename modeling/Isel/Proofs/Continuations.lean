import Isel.Proofs.Occurrences

/-! # What a lowering does after one of its parts

When a part of a construct has been lowered, the construct goes on: a branch on a test, the next
operand, the loop's body, the jump back to the loop's test, the move of an arm's value and its
branch to the exit. All of it branches to blocks the construct made before the part started,
to blocks made afterwards, or, through the lowerings that follow, to the enclosing loops and the
landing block. So a set of blocks made by the part, fenced when the part ends, stays shut until
the construct ends (`Child.shut`), and then, by induction along `Within`, until any construct
around the part ends (`Within.shut`).
-/

namespace Isel.Graph

theorem PadAt.lt {bs : List Block} {l : Nat} (h : PadAt bs l) : l < bs.length := by
  obtain ⟨b, hb, -⟩ := h
  exact (List.getElem?_eq_some_iff.1 hb).1

end Isel.Graph

namespace Isel.Lower

open Isel.Graph (Operand Var Instr)
open Isel.Tree (Expr ExprKind Arm Catch VarargElem Callee FieldRef TypeOp)

variable {ctx : Context} {F : Nat} {I : Nat → Prop} {s s' t t' u u' : State}

/-- A lowering is deterministic: two runs from one state end alike. -/
theorem run_unique {α : Type} {m : LowerM α} {a b : α} {s₁ s₂ : State}
    (h₁ : m ctx s = .ok (a, s₁)) (h₂ : m ctx s = .ok (b, s₂)) : a = b ∧ s₁ = s₂ :=
  Prod.mk.inj (Except.ok.inj (h₁.symm.trans h₂))

theorem not_mem_of_lt {n b : Nat} (hI : ∀ i, I i → n ≤ i) (hb : b < n) : ¬ I b :=
  fun h => absurd (hI b h) (Nat.not_le.2 hb)

theorem newBlock_lt {l : String} {b : Nat} (h : newBlock l ctx s = .ok (b, s')) :
    b < s'.curFn.blocks.length := by
  obtain ⟨hf, rfl, rfl⟩ := newBlock_ok h
  rw [State.curFn_addBlock hf]
  simp

/-- Back in a block of the function, with a landing block outside `I`. -/
theorem Fenced.restore (hs : Fenced F I s) {c : Cursor} (hc : c.fn = s.cursor.fn)
    (hb : c.block < s.curFn.blocks.length) {D : Option Nat} (hD : ∀ l, D = some l → ¬ I l) :
    Fenced F I { s with cursor := c, landing := D } := by
  have hr : InRange { s with cursor := c, landing := D } := by
    refine ⟨hc ▸ hs.placed.1, ?_⟩
    show c.block < (s.fn c.fn).blocks.length
    rw [hc]
    exact hb
  exact ⟨hs.fn, hr, hs.made, fun hF t ht => ⟨(hs.unnamed (hc ▸ hF) t ht).1, fun h => hD t h ht⟩⟩

namespace Shut

/-- A step that changes neither the program, the cursor, the loops nor the landing block. -/
theorem of_same (hs : Fenced F I s) (hp : s'.program = s.program)
    (hc : s'.cursor = s.cursor) (hl : s'.loops = s.loops) (hd : s'.landing = s.landing) :
    Shut F I s s' := by
  have hf : ∀ j, s'.fn j = s.fn j := fun j => by simp only [State.fn, hp]
  refine of_blocks ⟨hp ▸ hs.fn, ?_, fun t ht => (hf F) ▸ hs.made t ht, ?_⟩ (by rw [hf])
  · simp only [InRange, State.curFn, hc, hp, hf]
    exact hs.placed
  · intro hF t ht
    rw [hl, hd]
    exact hs.unnamed (hc ▸ hF) t ht

theorem warn (hs : Fenced F I s) (code : Code) (message : String) (span : Span) :
    Shut F I s (s.warn code message span) :=
  of_same hs rfl rfl rfl rfl

theorem bindEnv (hs : Fenced F I s) (env : List (Tree.LocalId × Operand)) :
    Shut F I s { s with env := env } :=
  of_same hs rfl rfl rfl rfl

/-- Leaving a construct for its exit block, with the landing block it found restored. -/
theorem restoreLanding (hs : Fenced F I s) {D : Option Nat} (hD : ∀ l, D = some l → ¬ I l)
    {exit : Nat} (hx : exit < s.curFn.blocks.length) :
    Shut F I s ({ s with landing := D }.moveTo exit) :=
  of_blocks (hs.restore (c := { s.cursor with block := exit }) rfl hx hD) rfl

end Shut

/-! ## Type operators and calls -/

/-- After the operand of a type operator: a cast, a test or a coercion, none of which
branches. -/
theorem typeOp_after_arg {op : TypeOp} {arg : Expr} {operand ty span} {v a : Operand}
    (hp : lowerKind (.typeOp op arg operand) ty span ctx t = .ok (v, t'))
    (hr : lowerExpr arg ctx t = .ok (a, u')) (hs : Fenced F I u') : Shut F I u' t' := by
  cases op with
  | cast | safeCast =>
    obtain ⟨a', s₁, ty', s₂, dst, s₃, e₁, e₂, e₃, e₄⟩ := cast_steps (by simp) hp
    obtain ⟨-, rfl⟩ := run_unique hr e₁
    have k₂ := Quiet.shut lowerType_quiet hs e₂
    have k₃ := Quiet.shut freshVar_quiet k₂.fenced e₃
    exact k₂.trans (k₃.trans (emit_shut k₃.fenced e₄ (by simp [Instr.successors])))
  | implicitCast =>
    obtain ⟨-, rfl⟩ := run_unique hr (implicitCast_steps hp)
    exact Shut.refl hs
  | implicitNotNull =>
    obtain ⟨a', s₁, e₁, rfl, -⟩ := implicitNotNull_steps hp
    obtain ⟨-, rfl⟩ := run_unique hr e₁
    exact Shut.warn hs _ _ _
  | coercionToUnit =>
    obtain ⟨a', e₁, -⟩ := coercionToUnit_steps hp
    obtain ⟨-, rfl⟩ := run_unique hr e₁
    exact Shut.refl hs
  | integerCoercion =>
    obtain ⟨a', s₁, -, e₁, e₂⟩ := integerCoercion_steps hp
    obtain ⟨-, rfl⟩ := run_unique hr e₁
    exact Quiet.shut coerceInteger_quiet hs e₂
  | instanceOf | notInstanceOf =>
    obtain ⟨a', s₁, ty', s₂, dst, s₃, e₁, e₂, e₃, e₄⟩ := typeTest_steps (by simp) hp
    obtain ⟨-, rfl⟩ := run_unique hr e₁
    have k₂ := Quiet.shut lowerType_quiet hs e₂
    have k₃ := Quiet.shut freshVar_quiet k₂.fenced e₃
    exact k₂.trans (k₃.trans (emit_shut k₃.fenced e₄ (by simp [Instr.successors])))

theorem CallStart.unique {callee : Callee} {dispatch extension : Option Expr} {args : List Expr}
    {u₁ u₂ : State} (h₁ : CallStart callee dispatch extension args ctx t u₁)
    (h₂ : CallStart callee dispatch extension args ctx t u₂) : u₁ = u₂ := by
  rcases h₁ with ⟨hn, rfl⟩ | ⟨cls, k, t₁, obj, t₂, w, hc, e₁, e₂, e₃⟩ <;>
    rcases h₂ with ⟨hn', rfl⟩ | ⟨cls', k', t₁', obj', t₂', w', hc', e₁', e₂', e₃'⟩
  · rfl
  · exact absurd hc' (hn cls')
  · exact absurd hc (hn' cls)
  · obtain rfl := CallShape.construct.inj (hc.symm.trans hc')
    obtain ⟨rfl, rfl⟩ := run_unique e₁ e₁'
    obtain ⟨rfl, rfl⟩ := run_unique e₂ e₂'
    exact (run_unique e₃ e₃').2

/-- A call taken apart where its operands end: what follows them, the intrinsic, the operator
or the call itself, is shut from any fenced state, as its only edge outside the blocks it makes
unwinds to the landing block. -/
theorem call_operands {callee : Callee} {dispatch extension : Option Expr} {args : List Expr}
    {ty span} {v : Operand}
    (hp : lowerKind (.call callee dispatch extension args) ty span ctx t = .ok (v, t')) :
    ∃ u d u₁ e u₂ a u₃, CallStart callee dispatch extension args ctx t u ∧
      lowerOpt dispatch ctx u = .ok (d, u₁) ∧ lowerOpt extension ctx u₁ = .ok (e, u₂) ∧
      lowerList args ctx u₂ = .ok (a, u₃) ∧ ∀ {F I}, Fenced F I u₃ → Shut F I u₃ t' := by
  cases hsh : CallShape.of callee dispatch extension args with
  | intrinsic =>
    obtain ⟨intr, d, s₁, e, s₂, a, s₃, -, e₁, e₂, e₃, e₄⟩ := intrinsicCall_steps hsh hp
    exact ⟨t, d, s₁, e, s₂, a, s₃, .inl ⟨by simp [hsh], rfl⟩, e₁, e₂, e₃,
      fun hs => Quiet.shut applyIntrinsic_quiet hs e₄⟩
  | arithmetic op =>
    obtain ⟨d, s₁, e, s₂, a, s₃, ty', s₄, dst, s₅, e₁, e₂, e₃, e₄, e₅, e₆⟩ :=
      arithmeticCall_steps hsh hp
    refine ⟨t, d, s₁, e, s₂, a, s₃, .inl ⟨by simp [hsh], rfl⟩, e₁, e₂, e₃, fun hs => ?_⟩
    have k₄ := Quiet.shut lowerType_quiet hs e₄
    have k₅ := Quiet.shut freshVar_quiet k₄.fenced e₅
    exact k₄.trans (k₅.trans (emit_shut k₅.fenced e₆ (by simp [Instr.successors])))
  | construct cls =>
    obtain ⟨k, s₁, obj, s₂, w, s₃, d, s₄, e, s₅, a, s₆, fn, s₇, r,
      e₁, e₂, e₃, e₄, e₅, e₆, e₇, e₈, -⟩ := constructCall_steps hsh hp
    refine ⟨s₃, d, s₄, e, s₅, a, s₆, .inr ⟨cls, k, s₁, obj, s₂, w, hsh, e₁, e₂, e₃⟩, e₄, e₅, e₆,
      fun hs => ?_⟩
    have k₇ := Quiet.shut calleeFor_quiet hs e₇
    exact k₇.trans ((generateCall_tally k₇.fenced.placed (Nat.le_refl _) e₈).shut k₇.fenced)
  | plain =>
    obtain ⟨d, s₁, e, s₂, a, s₃, ret, s₄, fn, s₅, e₁, e₂, e₃, e₄, e₅, e₆⟩ := plainCall_steps hsh hp
    refine ⟨t, d, s₁, e, s₂, a, s₃, .inl ⟨by simp [hsh], rfl⟩, e₁, e₂, e₃, fun hs => ?_⟩
    have k₄ := Quiet.shut lowerType_quiet hs e₄
    have k₅ := Quiet.shut calleeFor_quiet k₄.fenced e₅
    exact k₄.trans (k₅.trans
      ((generateCall_tally k₅.fenced.placed (Nat.le_refl _) e₆).shut k₅.fenced))

section Operands

variable {callee : Callee} {dispatch extension : Option Expr} {args : List Expr} {ty : Tree.Ty}
  {span : Span} {v : Operand}

theorem call_after_dispatch {d : Option Operand}
    (hp : lowerKind (.call callee dispatch extension args) ty span ctx t = .ok (v, t'))
    (hu : CallStart callee dispatch extension args ctx t u)
    (hr : lowerOpt dispatch ctx u = .ok (d, u')) (hs : Fenced F I u') : Shut F I u' t' := by
  obtain ⟨u₀, d₀, u₁, e, u₂, a, u₃, hu₀, e₁, e₂, e₃, tail⟩ := call_operands hp
  obtain rfl := hu.unique hu₀
  obtain ⟨-, rfl⟩ := run_unique hr e₁
  have k₂ := Tallies.shut (lowerOpt_tally extension) hs e₂
  have k₃ := Tallies.shut (lowerList_tally args) k₂.fenced e₃
  exact k₂.trans (k₃.trans (tail k₃.fenced))

theorem call_after_extension {d e : Option Operand} {u₁ : State}
    (hp : lowerKind (.call callee dispatch extension args) ty span ctx t = .ok (v, t'))
    (hu : CallStart callee dispatch extension args ctx t u)
    (hd : lowerOpt dispatch ctx u = .ok (d, u₁)) (hr : lowerOpt extension ctx u₁ = .ok (e, u'))
    (hs : Fenced F I u') : Shut F I u' t' := by
  obtain ⟨u₀, d₀, u₁', e₀, u₂, a, u₃, hu₀, e₁, e₂, e₃, tail⟩ := call_operands hp
  obtain rfl := hu.unique hu₀
  obtain ⟨-, rfl⟩ := run_unique hd e₁
  obtain ⟨-, rfl⟩ := run_unique hr e₂
  have k₃ := Tallies.shut (lowerList_tally args) hs e₃
  exact k₃.trans (tail k₃.fenced)

theorem call_after_args {d e : Option Operand} {a : List Operand} {u₁ u₂ : State}
    (hp : lowerKind (.call callee dispatch extension args) ty span ctx t = .ok (v, t'))
    (hu : CallStart callee dispatch extension args ctx t u)
    (hd : lowerOpt dispatch ctx u = .ok (d, u₁)) (he : lowerOpt extension ctx u₁ = .ok (e, u₂))
    (hr : lowerList args ctx u₂ = .ok (a, u')) (hs : Fenced F I u') : Shut F I u' t' := by
  obtain ⟨u₀, d₀, u₁', e₀, u₂', a₀, u₃, hu₀, e₁, e₂, e₃, tail⟩ := call_operands hp
  obtain rfl := hu.unique hu₀
  obtain ⟨-, rfl⟩ := run_unique hd e₁
  obtain ⟨-, rfl⟩ := run_unique he e₂
  obtain ⟨-, rfl⟩ := run_unique hr e₃
  exact tail hs

theorem delegatingCall_after_args {a : List Operand}
    (hp : lowerKind (.delegatingCall callee args) ty span ctx t = .ok (v, t'))
    (hr : lowerList args ctx t = .ok (a, u')) (hs : Fenced F I u') : Shut F I u' t' := by
  obtain ⟨receiver, a', s₁, fn, s₂, -, e₁, e₂, e₃⟩ := delegatingCall_steps hp
  obtain ⟨-, rfl⟩ := run_unique hr e₁
  have k₂ := Quiet.shut calleeFor_quiet hs e₂
  exact k₂.trans ((generateCall_tally k₂.fenced.placed (Nat.le_refl _) e₃).shut k₂.fenced)

end Operands

/-! ## Loops -/

/-- The blocks a loop makes before its parts exist after the branch into it. -/
theorem loopHead_lengths {l₁ l₂ l₃ : String} {b₀ check bodyB exit : Nat} {w : Operand}
    {t₁ t₂ t₃ t₄ : State} (h₁ : newBlock l₁ ctx t = .ok (check, t₁))
    (h₂ : newBlock l₂ ctx t₁ = .ok (bodyB, t₂)) (h₃ : newBlock l₃ ctx t₂ = .ok (exit, t₃))
    (h₄ : emit (.br b₀) ctx t₃ = .ok (w, t₄)) :
    check < t₄.curFn.blocks.length ∧ bodyB < t₄.curFn.blocks.length ∧
      exit < t₄.curFn.blocks.length := by
  have j₄ := emit_keeps h₄
  have j₃ := (newBlock_keeps h₃).trans j₄
  exact ⟨((newBlock_keeps h₂).trans j₃).lt (newBlock_lt h₁), j₃.lt (newBlock_lt h₂),
    j₄.lt (newBlock_lt h₃)⟩

/-- The end of a `while` loop's body: the jump back to the test, and the exit. -/
theorem loop_back_shut {check exit : Nat} {s₁ : State} (hs : Fenced F I s)
    (h : jumpIfOpen check ctx s = .ok ((), s₁)) (hc : ¬ I check)
    (hx : exit < s.curFn.blocks.length) :
    Shut F I s ({ s₁ with loops := s₁.loops.tail }.moveTo exit) := by
  have k := jumpIfOpen_shut hs h hc
  exact k.trans (Shut.of_blocks (k.fenced.leaveLoop ((jumpIfOpen_keeps h).lt hx)) rfl)

/-- The end of a `do`-`while` loop's test: the branch back to the body or to the exit, and the
exit. -/
theorem loop_test_shut {c : Operand} {bodyB exit : Nat} {w : Operand} {s₁ : State}
    (hs : Fenced F I s) (h : emit (.condBr c bodyB exit) ctx s = .ok (w, s₁)) (hb : ¬ I bodyB)
    (hx : ¬ I exit) (lx : exit < s.curFn.blocks.length) :
    Shut F I s ({ s₁ with loops := s₁.loops.tail }.moveTo exit) := by
  have k := emit_shut hs h (by simpa [Instr.successors] using ⟨hb, hx⟩)
  exact k.trans (Shut.of_blocks (k.fenced.leaveLoop ((emit_keeps h).lt lx)) rfl)

section Loops

variable {loop : Tree.LoopId} {cond : Expr} {body : Option Expr} {ty : Tree.Ty} {span : Span}
  {v w w' c : Operand} {check bodyB exit : Nat} {t₁ t₂ t₃ t₄ t₅ t₆ : State}

theorem whileLoop_after_cond
    (hp : lowerKind (.whileLoop loop cond body) ty span ctx t = .ok (v, t'))
    (h₁ : newBlock "while.check" ctx t = .ok (check, t₁))
    (h₂ : newBlock "while.body" ctx t₁ = .ok (bodyB, t₂))
    (h₃ : newBlock "while.exit" ctx t₂ = .ok (exit, t₃))
    (h₄ : emit (.br check) ctx t₃ = .ok (w, t₄))
    (hr : lowerExpr cond ctx (t₄.moveTo check) = .ok (c, u'))
    (hI : ∀ i, I i → t₄.curFn.blocks.length ≤ i) (hs : Fenced F I u') : Shut F I u' t' := by
  obtain ⟨check', s₁, bodyB', s₂, exit', s₃, u₁, s₄, c', s₅, u₂, s₆, b, s₇, s₈,
    e₁, e₂, e₃, e₄, e₅, e₆, e₇, e₈, rfl, -⟩ := whileLoop_steps hp
  obtain ⟨rfl, rfl⟩ := run_unique h₁ e₁
  obtain ⟨rfl, rfl⟩ := run_unique h₂ e₂
  obtain ⟨rfl, rfl⟩ := run_unique h₃ e₃
  obtain ⟨rfl, rfl⟩ := run_unique h₄ e₄
  obtain ⟨rfl, rfl⟩ := run_unique hr e₅
  -- the loop's blocks were made before its test, and are not in `I`
  obtain ⟨lc, lb, lx⟩ := loopHead_lengths h₁ h₂ h₃ h₄
  have j := (lowerExpr_keeps cond hr).trans (emit_keeps e₆)
  have k₆ := emit_shut hs e₆
    (by simpa [Instr.successors] using ⟨not_mem_of_lt hI lb, not_mem_of_lt hI lx⟩)
  have m₆ : Shut F I s₆ ({ s₆ with loops := ⟨loop, check, exit⟩ :: s₆.loops }.moveTo bodyB) :=
    Shut.of_blocks (k₆.fenced.enterLoop (not_mem_of_lt hI lc) (not_mem_of_lt hI lx) (j.lt lb)) rfl
  have k₇ := Tallies.shut (lowerOpt_tally body) m₆.fenced e₇
  exact k₆.trans (m₆.trans (k₇.trans (loop_back_shut k₇.fenced e₈ (not_mem_of_lt hI lc)
    ((lowerOpt_keeps body e₇).lt (j.lt lx)))))

theorem whileLoop_after_body {b : Option Operand}
    (hp : lowerKind (.whileLoop loop cond body) ty span ctx t = .ok (v, t'))
    (h₁ : newBlock "while.check" ctx t = .ok (check, t₁))
    (h₂ : newBlock "while.body" ctx t₁ = .ok (bodyB, t₂))
    (h₃ : newBlock "while.exit" ctx t₂ = .ok (exit, t₃))
    (h₄ : emit (.br check) ctx t₃ = .ok (w, t₄))
    (h₅ : lowerExpr cond ctx (t₄.moveTo check) = .ok (c, t₅))
    (h₆ : emit (.condBr c bodyB exit) ctx t₅ = .ok (w', t₆))
    (hr : lowerOpt body ctx ({ t₆ with loops := ⟨loop, check, exit⟩ :: t₆.loops }.moveTo bodyB) =
      .ok (b, u'))
    (hI : ∀ i, I i → t₆.curFn.blocks.length ≤ i) (hs : Fenced F I u') : Shut F I u' t' := by
  obtain ⟨check', s₁, bodyB', s₂, exit', s₃, u₁, s₄, c', s₅, u₂, s₆, b', s₇, s₈,
    e₁, e₂, e₃, e₄, e₅, e₆, e₇, e₈, rfl, -⟩ := whileLoop_steps hp
  obtain ⟨rfl, rfl⟩ := run_unique h₁ e₁
  obtain ⟨rfl, rfl⟩ := run_unique h₂ e₂
  obtain ⟨rfl, rfl⟩ := run_unique h₃ e₃
  obtain ⟨rfl, rfl⟩ := run_unique h₄ e₄
  obtain ⟨rfl, rfl⟩ := run_unique h₅ e₅
  obtain ⟨rfl, rfl⟩ := run_unique h₆ e₆
  obtain ⟨rfl, rfl⟩ := run_unique hr e₇
  obtain ⟨lc, -, lx⟩ := loopHead_lengths h₁ h₂ h₃ h₄
  have j := (lowerExpr_keeps cond h₅).trans (emit_keeps h₆)
  exact loop_back_shut hs e₈ (not_mem_of_lt hI (j.lt lc)) ((lowerOpt_keeps body hr).lt (j.lt lx))

theorem doWhile_after_body {b : Option Operand}
    (hp : lowerKind (.doWhile loop cond body) ty span ctx t = .ok (v, t'))
    (h₁ : newBlock "do.check" ctx t = .ok (check, t₁))
    (h₂ : newBlock "do.body" ctx t₁ = .ok (bodyB, t₂))
    (h₃ : newBlock "do.exit" ctx t₂ = .ok (exit, t₃)) (h₄ : emit (.br bodyB) ctx t₃ = .ok (w, t₄))
    (hr : lowerOpt body ctx ({ t₄ with loops := ⟨loop, check, exit⟩ :: t₄.loops }.moveTo bodyB) =
      .ok (b, u'))
    (hI : ∀ i, I i → t₄.curFn.blocks.length ≤ i) (hs : Fenced F I u') : Shut F I u' t' := by
  obtain ⟨check', s₁, bodyB', s₂, exit', s₃, u₁, s₄, b', s₅, s₆, c', s₇, u₂, s₈,
    e₁, e₂, e₃, e₄, e₅, e₆, e₇, e₈, rfl, -⟩ := doWhile_steps hp
  obtain ⟨rfl, rfl⟩ := run_unique h₁ e₁
  obtain ⟨rfl, rfl⟩ := run_unique h₂ e₂
  obtain ⟨rfl, rfl⟩ := run_unique h₃ e₃
  obtain ⟨rfl, rfl⟩ := run_unique h₄ e₄
  obtain ⟨rfl, rfl⟩ := run_unique hr e₅
  obtain ⟨lc, lb, lx⟩ := loopHead_lengths h₁ h₂ h₃ h₄
  have j₅ := lowerOpt_keeps body hr
  have k₆ := jumpIfOpen_shut hs e₆ (not_mem_of_lt hI lc)
  have j₆ := j₅.trans (jumpIfOpen_keeps e₆)
  have m₆ := Shut.moveTo k₆.fenced (j₆.lt lc)
  have k₇ := Tallies.shut (lowerExpr_tally cond) m₆.fenced e₇
  have j₇ := lowerExpr_keeps cond e₇
  exact k₆.trans (m₆.trans (k₇.trans (loop_test_shut k₇.fenced e₈ (not_mem_of_lt hI lb)
    (not_mem_of_lt hI lx) (j₇.lt (j₆.lt lx)))))

theorem doWhile_after_cond {b : Option Operand}
    (hp : lowerKind (.doWhile loop cond body) ty span ctx t = .ok (v, t'))
    (h₁ : newBlock "do.check" ctx t = .ok (check, t₁))
    (h₂ : newBlock "do.body" ctx t₁ = .ok (bodyB, t₂))
    (h₃ : newBlock "do.exit" ctx t₂ = .ok (exit, t₃)) (h₄ : emit (.br bodyB) ctx t₃ = .ok (w, t₄))
    (h₅ : lowerOpt body ctx ({ t₄ with loops := ⟨loop, check, exit⟩ :: t₄.loops }.moveTo bodyB) =
      .ok (b, t₅))
    (h₆ : jumpIfOpen check ctx t₅ = .ok ((), t₆))
    (hr : lowerExpr cond ctx (t₆.moveTo check) = .ok (c, u'))
    (hI : ∀ i, I i → t₆.curFn.blocks.length ≤ i) (hs : Fenced F I u') : Shut F I u' t' := by
  obtain ⟨check', s₁, bodyB', s₂, exit', s₃, u₁, s₄, b', s₅, s₆, c', s₇, u₂, s₈,
    e₁, e₂, e₃, e₄, e₅, e₆, e₇, e₈, rfl, -⟩ := doWhile_steps hp
  obtain ⟨rfl, rfl⟩ := run_unique h₁ e₁
  obtain ⟨rfl, rfl⟩ := run_unique h₂ e₂
  obtain ⟨rfl, rfl⟩ := run_unique h₃ e₃
  obtain ⟨rfl, rfl⟩ := run_unique h₄ e₄
  obtain ⟨rfl, rfl⟩ := run_unique h₅ e₅
  obtain ⟨-, rfl⟩ := run_unique h₆ e₆
  obtain ⟨rfl, rfl⟩ := run_unique hr e₇
  obtain ⟨-, lb, lx⟩ := loopHead_lengths h₁ h₂ h₃ h₄
  have j := (lowerOpt_keeps body h₅).trans (jumpIfOpen_keeps h₆)
  exact loop_test_shut hs e₈ (not_mem_of_lt hI (j.lt lb)) (not_mem_of_lt hI (j.lt lx))
    ((lowerExpr_keeps cond hr).lt (j.lt lx))

end Loops

/-! ## Returns, locals and fields -/

section Plain

variable {ty : Tree.Ty} {span : Span} {v a : Operand}

theorem ret_after_value {target} {value : Expr}
    (hp : lowerKind (.ret target value) ty span ctx t = .ok (v, t'))
    (hr : lowerExpr value ctx t = .ok (a, u')) (hs : Fenced F I u') : Shut F I u' t' := by
  obtain ⟨a', s₁, w, e₁, e₂, -⟩ := ret_steps hp
  obtain ⟨-, rfl⟩ := run_unique hr e₁
  exact emit_shut hs e₂ (by simp [Instr.successors])

theorem declare_after_init {var name varTy} {init : Option Expr} {o : Option Operand}
    (hp : lowerKind (.declare var name varTy init) ty span ctx t = .ok (v, t'))
    (hr : lowerOpt init ctx t = .ok (o, u')) (hs : Fenced F I u') : Shut F I u' t' := by
  obtain ⟨o', s₁, e₁, rfl, -⟩ := declare_steps hp
  obtain ⟨-, rfl⟩ := run_unique hr e₁
  exact Shut.bindEnv hs _

theorem assign_after_value {var name} {value : Expr}
    (hp : lowerKind (.assign var name value) ty span ctx t = .ok (v, t'))
    (hr : lowerExpr value ctx t = .ok (a, u')) (hs : Fenced F I u') : Shut F I u' t' := by
  obtain ⟨a', s₁, w, s₂, e₁, e₂, rfl, -⟩ := assign_steps hp
  obtain ⟨-, rfl⟩ := run_unique hr e₁
  have k₂ := emit_shut hs e₂ (by simp [Instr.successors])
  exact k₂.trans (Shut.bindEnv k₂.fenced _)

theorem vararg_after_elems {elems : List VarargElem} {vs : List Operand}
    (hp : lowerKind (.vararg elems) ty span ctx t = .ok (v, t'))
    (hr : lowerVararg elems ctx t = .ok (vs, u')) (hs : Fenced F I u') : Shut F I u' t' := by
  obtain ⟨vs', s₁, ty', e₁, e₂, -⟩ := vararg_steps hp
  obtain ⟨-, rfl⟩ := run_unique hr e₁
  exact Quiet.shut lowerType_quiet hs e₂

theorem throw_after_value {value : Expr}
    (hp : lowerKind (.throw value) ty span ctx t = .ok (v, t'))
    (hr : lowerExpr value ctx t = .ok (a, u')) (hs : Fenced F I u') : Shut F I u' t' := by
  obtain ⟨a', s₁, e₁, rfl, -⟩ := throw_steps hp
  obtain ⟨-, rfl⟩ := run_unique hr e₁
  exact Shut.warn hs _ _ _

theorem block_after_stmts {stmts : List Expr}
    (hp : lowerKind (.block stmts) ty span ctx t = .ok (v, t'))
    (hr : lowerBlock stmts ctx t = .ok (a, u')) (hs : Fenced F I u') : Shut F I u' t' := by
  obtain ⟨-, rfl⟩ := run_unique hr (block_steps hp)
  exact Shut.refl hs

variable {field : FieldRef} {receiver : Option Expr}

/-- The receiver steps as the lowerings of field accesses take them apart. -/
theorem ReceiverStart.of_steps {address : Operand} {offset : Nat}
    (h : (receiver = none ∧ address = .symbol field.name ∧ offset = 0 ∧ u = t) ∨
      ∃ r s₀, receiver = some r ∧ fieldOffset field r.ty span ctx t = .ok (offset, s₀) ∧
        lowerExpr r ctx s₀ = .ok (address, u)) :
    ReceiverStart field receiver span ctx t u := by
  rcases h with ⟨hn, -, -, rfl⟩ | ⟨r, s₀, hr, h₀, h₁⟩
  · exact .inl ⟨hn, rfl⟩
  · exact .inr ⟨r, offset, s₀, address, hr, h₀, h₁⟩

theorem ReceiverStart.unique {u₁ u₂ : State} (h₁ : ReceiverStart field receiver span ctx t u₁)
    (h₂ : ReceiverStart field receiver span ctx t u₂) : u₁ = u₂ := by
  rcases h₁ with ⟨hn, rfl⟩ | ⟨r, o, t₀, x, hr, e₀, e₁⟩ <;>
    rcases h₂ with ⟨hn', rfl⟩ | ⟨r', o', t₀', x', hr', e₀', e₁'⟩
  · rfl
  · exact absurd (hn.symm.trans hr') (by simp)
  · exact absurd (hn'.symm.trans hr) (by simp)
  · obtain rfl := Option.some.inj (hr.symm.trans hr')
    obtain ⟨rfl, rfl⟩ := run_unique e₀ e₀'
    exact (run_unique e₁ e₁').2

theorem getField_after_receiver {r : Expr} {offset : Nat} {t₁ : State}
    (hp : lowerKind (.getField field receiver) ty span ctx t = .ok (v, t'))
    (hr : receiver = some r) (h₁ : fieldOffset field r.ty span ctx t = .ok (offset, t₁))
    (hx : lowerExpr r ctx t₁ = .ok (a, u')) (hs : Fenced F I u') : Shut F I u' t' := by
  obtain ⟨address, offset', s₁, ty', s₂, dst, s₃, e₁, e₂, e₃, e₄⟩ := getField_steps hp
  obtain rfl := (ReceiverStart.of_steps e₁).unique (.inr ⟨r, offset, t₁, a, hr, h₁, hx⟩)
  have k₂ := Quiet.shut lowerType_quiet hs e₂
  have k₃ := Quiet.shut freshVar_quiet k₂.fenced e₃
  exact k₂.trans (k₃.trans (emit_shut k₃.fenced e₄ (by simp [Instr.successors])))

theorem setField_after_receiver {value r : Expr} {offset : Nat} {t₁ : State}
    (hp : lowerKind (.setField field receiver value) ty span ctx t = .ok (v, t'))
    (hr : receiver = some r) (h₁ : fieldOffset field r.ty span ctx t = .ok (offset, t₁))
    (hx : lowerExpr r ctx t₁ = .ok (a, u')) (hs : Fenced F I u') : Shut F I u' t' := by
  obtain ⟨address, offset', s₁, a', s₂, w, e₁, e₂, e₃, -⟩ := setField_steps hp
  obtain rfl := (ReceiverStart.of_steps e₁).unique (.inr ⟨r, offset, t₁, a, hr, h₁, hx⟩)
  have k₂ := Tallies.shut (lowerExpr_tally value) hs e₂
  exact k₂.trans (emit_shut k₂.fenced e₃ (by simp [Instr.successors]))

theorem setField_after_value {value : Expr} {t₁ : State}
    (hp : lowerKind (.setField field receiver value) ty span ctx t = .ok (v, t'))
    (h₁ : ReceiverStart field receiver span ctx t t₁)
    (hx : lowerExpr value ctx t₁ = .ok (a, u')) (hs : Fenced F I u') : Shut F I u' t' := by
  obtain ⟨address, offset, s₁, a', s₂, w, e₁, e₂, e₃, -⟩ := setField_steps hp
  obtain rfl := (ReceiverStart.of_steps e₁).unique h₁
  obtain ⟨-, rfl⟩ := run_unique hx e₂
  exact emit_shut hs e₃ (by simp [Instr.successors])

end Plain

/-! ## Sequences -/

section Sequences

variable {e : Expr} {a : Operand}

theorem optSome_after {o : Option Operand} (hp : lowerOpt (some e) ctx t = .ok (o, t'))
    (hr : lowerExpr e ctx t = .ok (a, u')) (hs : Fenced F I u') : Shut F I u' t' := by
  obtain ⟨a', e₁, -⟩ := lowerOpt_some_steps hp
  obtain ⟨-, rfl⟩ := run_unique hr e₁
  exact Shut.refl hs

theorem listHead_after {es : List Expr} {vs : List Operand}
    (hp : lowerList (e :: es) ctx t = .ok (vs, t'))
    (hr : lowerExpr e ctx t = .ok (a, u')) (hs : Fenced F I u') : Shut F I u' t' := by
  obtain ⟨a', s₁, as, e₁, e₂, -⟩ := lowerList_cons_steps hp
  obtain ⟨-, rfl⟩ := run_unique hr e₁
  exact Tallies.shut (lowerList_tally es) hs e₂

theorem listTail_after {es : List Expr} {vs vs' : List Operand} {t₁ : State}
    (hp : lowerList (e :: es) ctx t = .ok (vs, t')) (h₁ : lowerExpr e ctx t = .ok (a, t₁))
    (hr : lowerList es ctx t₁ = .ok (vs', u')) (hs : Fenced F I u') : Shut F I u' t' := by
  obtain ⟨a', s₁, as, e₁, e₂, -⟩ := lowerList_cons_steps hp
  obtain ⟨-, rfl⟩ := run_unique h₁ e₁
  obtain ⟨-, rfl⟩ := run_unique hr e₂
  exact Shut.refl hs

theorem blockHead_after {es : List Expr} {v : Operand}
    (hp : lowerBlock (e :: es) ctx t = .ok (v, t'))
    (hr : lowerExpr e ctx t = .ok (a, u')) (hs : Fenced F I u') : Shut F I u' t' := by
  cases es with
  | nil =>
    rw [lowerBlock_single] at hp
    obtain ⟨-, rfl⟩ := run_unique hr hp
    exact Shut.refl hs
  | cons e' es =>
    obtain ⟨a', s₁, e₁, e₂⟩ := lowerBlock_cons_steps hp
    obtain ⟨-, rfl⟩ := run_unique hr e₁
    exact Tallies.shut (lowerBlock_tally _) hs e₂

theorem blockTail_after {e' : Expr} {es : List Expr} {v v' : Operand} {t₁ : State}
    (hp : lowerBlock (e :: e' :: es) ctx t = .ok (v, t')) (h₁ : lowerExpr e ctx t = .ok (a, t₁))
    (hr : lowerBlock (e' :: es) ctx t₁ = .ok (v', u')) (hs : Fenced F I u') : Shut F I u' t' := by
  obtain ⟨a', s₁, e₁, e₂⟩ := lowerBlock_cons_steps hp
  obtain ⟨-, rfl⟩ := run_unique h₁ e₁
  obtain ⟨-, rfl⟩ := run_unique hr e₂
  exact Shut.refl hs

theorem varargHead_after {rest : List VarargElem} {vs : List Operand}
    (hp : lowerVararg (.value e :: rest) ctx t = .ok (vs, t'))
    (hr : lowerExpr e ctx t = .ok (a, u')) (hs : Fenced F I u') : Shut F I u' t' := by
  obtain ⟨a', s₁, as, e₁, e₂, -⟩ := lowerVararg_value_steps hp
  obtain ⟨-, rfl⟩ := run_unique hr e₁
  exact Tallies.shut (lowerVararg_tally rest) hs e₂

theorem varargTail_after {rest : List VarargElem} {vs vs' : List Operand} {t₁ : State}
    (hp : lowerVararg (.value e :: rest) ctx t = .ok (vs, t'))
    (h₁ : lowerExpr e ctx t = .ok (a, t₁))
    (hr : lowerVararg rest ctx t₁ = .ok (vs', u')) (hs : Fenced F I u') : Shut F I u' t' := by
  obtain ⟨a', s₁, as, e₁, e₂, -⟩ := lowerVararg_value_steps hp
  obtain ⟨-, rfl⟩ := run_unique h₁ e₁
  obtain ⟨-, rfl⟩ := run_unique hr e₂
  exact Shut.refl hs

end Sequences

/-! ## `when` and `try` -/

section Branches

variable {ty : Tree.Ty} {span : Span} {v : Operand} {result : Option Var} {exit : Nat}
  {t₁ t₂ : State}

theorem whenArms_after_arms {arms : List Arm}
    (hp : lowerKind (.whenArms arms) ty span ctx t = .ok (v, t'))
    (h₁ : resultVar ty ctx t = .ok (result, t₁)) (h₂ : newBlock "when.exit" ctx t₁ = .ok (exit, t₂))
    (hr : lowerArms arms result exit ctx t₂ = .ok ((), u'))
    (hI : ∀ i, I i → t₂.curFn.blocks.length ≤ i) (hs : Fenced F I u') : Shut F I u' t' := by
  obtain ⟨result', s₁, exit', s₂, s₃, s₄, e₁, e₂, e₃, e₄, e₅, rfl, -⟩ := whenArms_steps hp
  obtain ⟨rfl, rfl⟩ := run_unique h₁ e₁
  obtain ⟨rfl, rfl⟩ := run_unique h₂ e₂
  obtain ⟨-, rfl⟩ := run_unique hr e₃
  have lx := (lowerArms_keeps arms hr).lt (newBlock_lt h₂)
  -- the arms end in the exit block, or the block they end in branches there
  by_cases hb : u'.cursor.block = exit
  · obtain rfl := e₅ hb
    exact Shut.moveTo hs lx
  · have k := jumpIfOpen_shut hs (e₄ hb) (not_mem_of_lt hI (newBlock_lt h₂))
    exact k.trans (Shut.moveTo k.fenced ((jumpIfOpen_keeps (e₄ hb)).lt lx))

theorem TryStart.unique {catches : List Catch} {u₁ u₂ : State}
    (h₁ : TryStart catches result exit ctx t₂ u₁) (h₂ : TryStart catches result exit ctx t₂ u₂) :
    u₁ = u₂ := by
  rcases h₁ with ⟨hn, rfl⟩ | ⟨hne, header, t₆, exn, t₇, w, t₈, t₉, e₆, e₇, e₈, e₉, rfl⟩ <;>
    rcases h₂ with ⟨hn', rfl⟩ | ⟨hne', header', t₆', exn', t₇', w', t₈', t₉', e₆', e₇', e₈', e₉', rfl⟩
  · rfl
  · exact absurd hn hne'
  · exact absurd hn' hne
  · obtain ⟨rfl, rfl⟩ := run_unique e₆ e₆'
    obtain ⟨rfl, rfl⟩ := run_unique e₇ e₇'
    obtain ⟨-, rfl⟩ := run_unique e₈ e₈'
    obtain ⟨-, rfl⟩ := run_unique e₉ e₉'
    rfl

/-- The end of a `try`: the body's value moved to the result, the branch to the exit, and the
landing block the `try` found restored at the exit. -/
theorem tryExit_shut {b : Operand} {D : Option Nat} {s₅ : State} (hs : Fenced F I s)
    (h : finishArm b result exit ctx s = .ok ((), s₅)) (hx : ¬ I exit)
    (lx : exit < s.curFn.blocks.length) (hD : ∀ l, D = some l → ¬ I l) :
    Shut F I s ({ s₅ with landing := D }.moveTo exit) := by
  have k := finishArm_shut hs h hx
  exact k.trans (Shut.restoreLanding k.fenced hD ((finishArm_keeps h).lt lx))

theorem tryCatch_after_body {body : Expr} {catches : List Catch} {b : Operand} {t₃ : State}
    (hp : lowerKind (.tryCatch body catches) ty span ctx t = .ok (v, t'))
    (h₁ : resultVar ty ctx t = .ok (result, t₁)) (h₂ : newBlock "try.exit" ctx t₁ = .ok (exit, t₂))
    (h₃ : TryStart catches result exit ctx t₂ t₃) (hr : lowerExpr body ctx t₃ = .ok (b, u'))
    (lx : exit < t₃.curFn.blocks.length) (hI : ∀ i, I i → t₃.curFn.blocks.length ≤ i)
    (hD : ∀ l, t.landing = some l → ¬ I l) (hs : Fenced F I u') : Shut F I u' t' := by
  obtain ⟨result', s₁, exit', s₂, s₃, b', s₄, s₅, e₁, e₂, e₃, e₄, e₅, rfl, -⟩ := tryCatch_steps hp
  obtain ⟨rfl, rfl⟩ := run_unique h₁ e₁
  obtain ⟨rfl, rfl⟩ := run_unique h₂ e₂
  obtain rfl := h₃.unique e₃
  obtain ⟨-, rfl⟩ := run_unique hr e₄
  have hl : t₂.landing = t.landing := ((resultVar_keeps h₁).trans (newBlock_keeps h₂)).landing
  exact tryExit_shut hs e₅ (not_mem_of_lt hI lx) ((lowerExpr_keeps body hr).lt lx)
    fun l h => hD l (hl ▸ h)

theorem tryCatch_after_handlers {body : Expr} {catches : List Catch} {header : Nat} {exn : Var}
    {w : Operand} {t₃ t₄ t₅ : State}
    (hp : lowerKind (.tryCatch body catches) ty span ctx t = .ok (v, t'))
    (h₁ : resultVar ty ctx t = .ok (result, t₁)) (h₂ : newBlock "try.exit" ctx t₁ = .ok (exit, t₂))
    (hne : catches ≠ []) (h₃ : newBlock "catch.header" ctx t₂ = .ok (header, t₃))
    (h₄ : freshVar .ptr ctx (t₃.moveTo header) = .ok (exn, t₄))
    (h₅ : emit (.landingPad exn) ctx t₄ = .ok (w, t₅))
    (hr : lowerHandlers catches (.var exn) result exit ctx
      { t₅ with env :=
        (catches.map fun c => (c.param, .var exn)).reverse ++ t₅.env } = .ok ((), u'))
    (hc : t₂.cursor.block < t₂.curFn.blocks.length) (hI : ∀ i, I i → t₅.curFn.blocks.length ≤ i)
    (hD : ∀ l, t.landing = some l → ¬ I l) (hs : Fenced F I u') : Shut F I u' t' := by
  obtain ⟨result', s₁, exit', s₂, s₃, b, s₄, s₅, e₁, e₂, e₃, e₄, e₅, rfl, -⟩ := tryCatch_steps hp
  obtain ⟨rfl, rfl⟩ := run_unique h₁ e₁
  obtain ⟨rfl, rfl⟩ := run_unique h₂ e₂
  rcases e₃ with ⟨hn, -⟩ | ⟨-, header', s₆, exn', s₇, w', s₈, s₉, e₆, e₇, e₈, e₉, rfl⟩
  · exact absurd hn hne
  obtain ⟨rfl, rfl⟩ := run_unique h₃ e₆
  obtain ⟨rfl, rfl⟩ := run_unique h₄ e₇
  obtain ⟨-, rfl⟩ := run_unique h₅ e₈
  obtain ⟨-, rfl⟩ := run_unique hr e₉
  have j₅ := ((newBlock_keeps h₃).moveTo header).trans ((freshVar_keeps h₄).trans (emit_keeps h₅))
  have j := (j₅.bind _).trans (lowerHandlers_keeps catches hr)
  have hl : t₂.landing = t.landing := ((resultVar_keeps h₁).trans (newBlock_keeps h₂)).landing
  -- back at the block of the `try`, with the header, made before `I`, as landing block
  have lh := newBlock_lt h₃
  have k₃ := Shut.of_blocks (s := u') (hs.restore j.fn.symm (j.lt hc) fun l h =>
    Option.some.inj h ▸ not_mem_of_lt hI (((freshVar_keeps h₄).trans (emit_keeps h₅)).lt lh)) rfl
  have k₄ := Tallies.shut (lowerExpr_tally body) k₃.fenced e₄
  have lx := (lowerExpr_keeps body e₄).lt ((j.restore rfl).lt (newBlock_lt h₂))
  exact k₃.trans (k₄.trans (tryExit_shut k₄.fenced e₅ (not_mem_of_lt hI (j₅.lt (newBlock_lt h₂)))
    lx fun l h => hD l (hl ▸ h)))

end Branches

/-! ## Arms and handlers -/

section Arms

variable {result : Option Var} {exit : Nat}

/-- The end of an arm: its value moved to the result, the branch to the exit, and the move to the
block of the next test. -/
theorem armFinish_shut {a : Operand} {next : Nat} {s₆ : State} (hs : Fenced F I s)
    (h : finishArm a result exit ctx s = .ok ((), s₆)) (hx : ¬ I exit)
    (ln : next < s.curFn.blocks.length) : Shut F I s (s₆.moveTo next) := by
  have k := finishArm_shut hs h hx
  exact k.trans (Shut.moveTo k.fenced ((finishArm_keeps h).lt ln))

theorem nextArm_unique {rest : List Arm} {n₁ n₂ : Nat} {u₁ u₂ : State}
    (h₁ : rest = [] ∧ n₁ = exit ∧ u₁ = t ∨ rest ≠ [] ∧ newBlock "when.next" ctx t = .ok (n₁, u₁))
    (h₂ : rest = [] ∧ n₂ = exit ∧ u₂ = t ∨ rest ≠ [] ∧ newBlock "when.next" ctx t = .ok (n₂, u₂)) :
    n₁ = n₂ ∧ u₁ = u₂ := by
  rcases h₁ with ⟨hn, rfl, rfl⟩ | ⟨hne, e₁⟩ <;> rcases h₂ with ⟨hn', rfl, rfl⟩ | ⟨hne', e₂⟩
  · exact ⟨rfl, rfl⟩
  · exact absurd hn hne'
  · exact absurd hn' hne
  · exact run_unique e₁ e₂

/-- The branch on an arm's guard: the arm's block and the next test's block unless the arm is
the last, both made after `I` was fenced, and the move into the arm's block. -/
theorem armTest_shut {rest : List Arm} {arm next : Nat} {c w : Operand} {s₂ s₃ s₄ : State}
    (hs : Fenced F I s) (hF : s.cursor.fn = F) (hx : ¬ I exit) (lx : exit < s.curFn.blocks.length)
    (h₂ : newBlock "when.arm" ctx s = .ok (arm, s₂))
    (h₃ : rest = [] ∧ next = exit ∧ s₃ = s₂ ∨ rest ≠ [] ∧
      newBlock "when.next" ctx s₂ = .ok (next, s₃))
    (h₄ : emit (.condBr c arm next) ctx s₃ = .ok (w, s₄)) :
    Shut F I s (s₄.moveTo arm) ∧ Keeps s (s₄.moveTo arm) ∧ next < s₄.curFn.blocks.length := by
  have k₂ := newBlock_shut hs h₂
  have j₂ := newBlock_keeps h₂
  have n₃ : Shut F I s₂ s₃ ∧ Keeps s₂ s₃ ∧ ¬ I next ∧ next < s₃.curFn.blocks.length := by
    rcases h₃ with ⟨-, rfl, rfl⟩ | ⟨-, h₃⟩
    · exact ⟨Shut.refl k₂.fenced, Keeps.refl _, hx, j₂.lt lx⟩
    · exact ⟨newBlock_shut k₂.fenced h₃, newBlock_keeps h₃,
        newBlock_not_mem k₂.fenced (j₂.fn.trans hF) h₃, newBlock_lt h₃⟩
  obtain ⟨k₃, j₃, hn, ln⟩ := n₃
  have k₄ := emit_shut k₃.fenced h₄
    (by simpa [Instr.successors] using ⟨newBlock_not_mem hs hF h₂, hn⟩)
  have j₄ := emit_keeps h₄
  exact ⟨k₂.trans (k₃.trans (k₄.trans (Shut.moveTo k₄.fenced ((j₃.trans j₄).lt (newBlock_lt h₂))))),
    (j₂.trans (j₃.trans j₄)).moveTo arm, j₄.lt ln⟩

/-- An arm with a guard, from the guard's end on, given that the arms after it are shut. -/
theorem armAfterGuard_shut {res : Expr} {rest : List Arm} {c w a : Operand} {arm next : Nat}
    {s₁ s₂ s₃ s₄ s₅ s₆ : State} (hs : Fenced F I s₁) (hF : s₁.cursor.fn = F) (hx : ¬ I exit)
    (lx : exit < s₁.curFn.blocks.length)
    (hrest : ∀ {s s' : State}, Fenced F I s → s.cursor.fn = F → exit < s.curFn.blocks.length →
      lowerArms rest result exit ctx s = .ok ((), s') → Shut F I s s')
    (h₂ : newBlock "when.arm" ctx s₁ = .ok (arm, s₂))
    (h₃ : rest = [] ∧ next = exit ∧ s₃ = s₂ ∨ rest ≠ [] ∧
      newBlock "when.next" ctx s₂ = .ok (next, s₃))
    (h₄ : emit (.condBr c arm next) ctx s₃ = .ok (w, s₄))
    (h₅ : lowerExpr res ctx (s₄.moveTo arm) = .ok (a, s₅))
    (h₆ : finishArm a result exit ctx s₅ = .ok ((), s₆))
    (h₇ : lowerArms rest result exit ctx (s₆.moveTo next) = .ok ((), s')) : Shut F I s₁ s' := by
  obtain ⟨k₄, j₄, ln⟩ := armTest_shut hs hF hx lx h₂ h₃ h₄
  have k₅ := Tallies.shut (lowerExpr_tally res) k₄.fenced h₅
  have j₅ := lowerExpr_keeps res h₅
  have k₆ := armFinish_shut k₅.fenced h₆ hx (j₅.lt ln)
  have j₆ := (j₄.trans (j₅.trans (finishArm_keeps h₆))).moveTo next
  exact k₄.trans (k₅.trans (k₆.trans (hrest k₆.fenced (j₆.fn.trans hF) (j₆.lt lx) h₇)))

/-- The arms of a `when`, run from a fenced state of `F`, branch into `I` nowhere: their guards,
values and blocks are their own, and they leave only for the exit. -/
theorem lowerArms_shut (hx : ¬ I exit) :
    ∀ {arms : List Arm} {s s' : State}, Fenced F I s → s.cursor.fn = F →
      exit < s.curFn.blocks.length → lowerArms arms result exit ctx s = .ok ((), s') →
      Shut F I s s'
  | [], _, _, hs, _, _, h => by
    obtain rfl := lowerArms_nil_steps h
    exact Shut.refl hs
  | .mk cond res :: rest, s, s', hs, hF, lx, h => by
    cases hc : cond.isTrueLiteral with
    | true =>
      obtain ⟨a, s₁, h₁, h₂⟩ := lowerArms_true_steps hc h
      have k₁ := Tallies.shut (lowerExpr_tally res) hs h₁
      exact k₁.trans (finishArm_shut k₁.fenced h₂ hx)
    | false =>
      obtain ⟨c, s₁, arm, s₂, next, s₃, u, s₄, a, s₅, s₆, h₁, h₂, h₃, h₄, h₅, h₆, h₇⟩ :=
        lowerArms_test_steps hc h
      have k₁ := Tallies.shut (lowerExpr_tally cond) hs h₁
      have j₁ := lowerExpr_keeps cond h₁
      exact k₁.trans (armAfterGuard_shut k₁.fenced (j₁.fn.trans hF) hx (j₁.lt lx)
        (lowerArms_shut hx) h₂ h₃ h₄ h₅ h₆ h₇)

variable {cond res : Expr} {rest : List Arm} {a c w : Operand} {arm next : Nat}
  {t₁ t₂ t₃ t₄ t₅ t₆ : State}

theorem armTaken_after (hp : lowerArms (.mk cond res :: rest) result exit ctx t = .ok ((), t'))
    (hc : cond.isTrueLiteral = true) (hr : lowerExpr res ctx t = .ok (a, u')) (hx : ¬ I exit)
    (hs : Fenced F I u') : Shut F I u' t' := by
  obtain ⟨a', s₁, e₁, e₂⟩ := lowerArms_true_steps hc hp
  obtain ⟨-, rfl⟩ := run_unique hr e₁
  exact finishArm_shut hs e₂ hx

theorem armGuard_after (hp : lowerArms (.mk cond res :: rest) result exit ctx t = .ok ((), t'))
    (hc : cond.isTrueLiteral = false) (hr : lowerExpr cond ctx t = .ok (c, u'))
    (hF : u'.cursor.fn = F) (hx : ¬ I exit) (lx : exit < u'.curFn.blocks.length)
    (hs : Fenced F I u') : Shut F I u' t' := by
  obtain ⟨c', s₁, arm', s₂, next', s₃, w', s₄, a', s₅, s₆, e₁, e₂, e₃, e₄, e₅, e₆, e₇⟩ :=
    lowerArms_test_steps hc hp
  obtain ⟨-, rfl⟩ := run_unique hr e₁
  exact armAfterGuard_shut hs hF hx lx (lowerArms_shut hx) e₂ e₃ e₄ e₅ e₆ e₇

theorem armResult_after (hp : lowerArms (.mk cond res :: rest) result exit ctx t = .ok ((), t'))
    (hc : cond.isTrueLiteral = false) (h₁ : lowerExpr cond ctx t = .ok (c, t₁))
    (h₂ : newBlock "when.arm" ctx t₁ = .ok (arm, t₂))
    (h₃ : rest = [] ∧ next = exit ∧ t₃ = t₂ ∨ rest ≠ [] ∧
      newBlock "when.next" ctx t₂ = .ok (next, t₃))
    (h₄ : emit (.condBr c arm next) ctx t₃ = .ok (w, t₄))
    (hr : lowerExpr res ctx (t₄.moveTo arm) = .ok (a, u')) (hF : u'.cursor.fn = F)
    (hx : ¬ I exit) (lx : exit < u'.curFn.blocks.length) (ln : next < u'.curFn.blocks.length)
    (hs : Fenced F I u') : Shut F I u' t' := by
  obtain ⟨c', s₁, arm', s₂, next', s₃, w', s₄, a', s₅, s₆, e₁, e₂, e₃, e₄, e₅, e₆, e₇⟩ :=
    lowerArms_test_steps hc hp
  obtain ⟨rfl, rfl⟩ := run_unique h₁ e₁
  obtain ⟨rfl, rfl⟩ := run_unique h₂ e₂
  obtain ⟨rfl, rfl⟩ := nextArm_unique h₃ e₃
  obtain ⟨-, rfl⟩ := run_unique h₄ e₄
  obtain ⟨-, rfl⟩ := run_unique hr e₅
  have k₆ := armFinish_shut hs e₆ hx ln
  have j₆ := (finishArm_keeps e₆).moveTo next
  exact k₆.trans (lowerArms_shut hx k₆.fenced (j₆.fn.trans hF) (j₆.lt lx) e₇)

theorem armsRest_after (hp : lowerArms (.mk cond res :: rest) result exit ctx t = .ok ((), t'))
    (hc : cond.isTrueLiteral = false) (h₁ : lowerExpr cond ctx t = .ok (c, t₁))
    (h₂ : newBlock "when.arm" ctx t₁ = .ok (arm, t₂))
    (h₃ : rest = [] ∧ next = exit ∧ t₃ = t₂ ∨ rest ≠ [] ∧
      newBlock "when.next" ctx t₂ = .ok (next, t₃))
    (h₄ : emit (.condBr c arm next) ctx t₃ = .ok (w, t₄))
    (h₅ : lowerExpr res ctx (t₄.moveTo arm) = .ok (a, t₅))
    (h₆ : finishArm a result exit ctx t₅ = .ok ((), t₆))
    (hr : lowerArms rest result exit ctx (t₆.moveTo next) = .ok ((), u')) (hs : Fenced F I u') :
    Shut F I u' t' := by
  obtain ⟨c', s₁, arm', s₂, next', s₃, w', s₄, a', s₅, s₆, e₁, e₂, e₃, e₄, e₅, e₆, e₇⟩ :=
    lowerArms_test_steps hc hp
  obtain ⟨rfl, rfl⟩ := run_unique h₁ e₁
  obtain ⟨rfl, rfl⟩ := run_unique h₂ e₂
  obtain ⟨rfl, rfl⟩ := nextArm_unique h₃ e₃
  obtain ⟨-, rfl⟩ := run_unique h₄ e₄
  obtain ⟨rfl, rfl⟩ := run_unique h₅ e₅
  obtain ⟨-, rfl⟩ := run_unique h₆ e₆
  obtain ⟨-, rfl⟩ := run_unique hr e₇
  exact Shut.refl hs

end Arms

section Handlers

variable {exn : Operand} {result : Option Var} {exit : Nat}

/-- The test of a handler that another follows: the type test, the blocks of the handler and of
the next test, both made after `I` was fenced, and the move into the handler's block. -/
theorem handlerTest_shut {c : Catch} {ty : Graph.Ty} {caught : Var} {w₁ w₂ : Operand}
    {body next : Nat} {s₁ s₂ s₃ s₄ s₅ s₆ : State} (hs : Fenced F I s) (hF : s.cursor.fn = F)
    (h₁ : lowerType c.ty ctx s = .ok (ty, s₁)) (h₂ : freshVar .boolean ctx s₁ = .ok (caught, s₂))
    (h₃ : emit (.typeTest .isInstance caught exn ty) ctx s₂ = .ok (w₁, s₃))
    (h₄ : newBlock "catch.body" ctx s₃ = .ok (body, s₄))
    (h₅ : newBlock "catch.next" ctx s₄ = .ok (next, s₅))
    (h₆ : emit (.condBr (.var caught) body next) ctx s₅ = .ok (w₂, s₆)) :
    Shut F I s (s₆.moveTo body) ∧ Keeps s (s₆.moveTo body) ∧ next < s₆.curFn.blocks.length := by
  have k₁ := Quiet.shut lowerType_quiet hs h₁
  have k₂ := Quiet.shut freshVar_quiet k₁.fenced h₂
  have k₃ := emit_shut k₂.fenced h₃ (by simp [Instr.successors])
  have j₃ : Keeps s s₃ := (lowerType_keeps h₁).trans ((freshVar_keeps h₂).trans (emit_keeps h₃))
  have k₄ := newBlock_shut k₃.fenced h₄
  have j₄ := j₃.trans (newBlock_keeps h₄)
  have k₅ := newBlock_shut k₄.fenced h₅
  have j₅ := newBlock_keeps h₅
  have hi : ∀ t ∈ (Instr.condBr (.var caught) body next).successors, ¬ I t := by
    simpa [Instr.successors] using
      ⟨newBlock_not_mem k₃.fenced (j₃.fn.trans hF) h₄,
        newBlock_not_mem k₄.fenced (j₄.fn.trans hF) h₅⟩
  have k₆ := emit_shut k₅.fenced h₆ hi
  have j₆ := emit_keeps h₆
  exact ⟨k₁.trans (k₂.trans (k₃.trans (k₄.trans (k₅.trans (k₆.trans
    (Shut.moveTo k₆.fenced ((j₅.trans j₆).lt (newBlock_lt h₄)))))))),
    (j₄.trans (j₅.trans j₆)).moveTo body, j₆.lt (newBlock_lt h₅)⟩

/-- The handlers of a `try`, run from a fenced state of `F`, branch into `I` nowhere. -/
theorem lowerHandlers_shut (hx : ¬ I exit) :
    ∀ {cs : List Catch} {s s' : State}, Fenced F I s → s.cursor.fn = F →
      exit < s.curFn.blocks.length → lowerHandlers cs exn result exit ctx s = .ok ((), s') →
      Shut F I s s'
  | [], _, _, hs, _, _, h => by
    obtain rfl := lowerHandlers_nil_steps h
    exact Shut.refl hs
  | [c], _, _, hs, _, _, h => by
    obtain ⟨a, s₁, h₁, h₂⟩ := lowerHandlers_last_steps h
    have k₁ := Tallies.shut (lowerExpr_tally c.result) hs h₁
    exact k₁.trans (finishArm_shut k₁.fenced h₂ hx)
  | c :: c' :: rest, s, s', hs, hF, lx, h => by
    obtain ⟨ty, s₁, caught, s₂, u₁, s₃, body, s₄, next, s₅, u₂, s₆, a, s₇, s₈,
      h₁, h₂, h₃, h₄, h₅, h₆, h₇, h₈, h₉⟩ := lowerHandlers_test_steps h
    obtain ⟨k₆, j₆, ln⟩ := handlerTest_shut hs hF h₁ h₂ h₃ h₄ h₅ h₆
    have k₇ := Tallies.shut (lowerExpr_tally c.result) k₆.fenced h₇
    have j₇ := lowerExpr_keeps c.result h₇
    have k₈ := armFinish_shut k₇.fenced h₈ hx (j₇.lt ln)
    have j₈ := (j₆.trans (j₇.trans (finishArm_keeps h₈))).moveTo next
    exact k₆.trans (k₇.trans (k₈.trans
      (lowerHandlers_shut hx k₈.fenced (j₈.fn.trans hF) (j₈.lt lx) h₉)))

variable {c c' : Catch} {rest : List Catch} {ty : Graph.Ty} {caught : Var} {w₁ w₂ a : Operand}
  {body next : Nat} {t₁ t₂ t₃ t₄ t₅ t₆ t₇ : State}

theorem handlerLast_after (hp : lowerHandlers [c] exn result exit ctx t = .ok ((), t'))
    (hr : lowerExpr c.result ctx t = .ok (a, u')) (hx : ¬ I exit) (hs : Fenced F I u') :
    Shut F I u' t' := by
  obtain ⟨a', s₁, e₁, e₂⟩ := lowerHandlers_last_steps hp
  obtain ⟨-, rfl⟩ := run_unique hr e₁
  exact finishArm_shut hs e₂ hx

theorem handlerResult_after
    (hp : lowerHandlers (c :: c' :: rest) exn result exit ctx t = .ok ((), t'))
    (h₁ : lowerType c.ty ctx t = .ok (ty, t₁)) (h₂ : freshVar .boolean ctx t₁ = .ok (caught, t₂))
    (h₃ : emit (.typeTest .isInstance caught exn ty) ctx t₂ = .ok (w₁, t₃))
    (h₄ : newBlock "catch.body" ctx t₃ = .ok (body, t₄))
    (h₅ : newBlock "catch.next" ctx t₄ = .ok (next, t₅))
    (h₆ : emit (.condBr (.var caught) body next) ctx t₅ = .ok (w₂, t₆))
    (hr : lowerExpr c.result ctx (t₆.moveTo body) = .ok (a, u')) (hF : u'.cursor.fn = F)
    (hx : ¬ I exit) (lx : exit < u'.curFn.blocks.length) (ln : next < u'.curFn.blocks.length)
    (hs : Fenced F I u') : Shut F I u' t' := by
  obtain ⟨ty', s₁, caught', s₂, w₁', s₃, body', s₄, next', s₅, w₂', s₆, a', s₇, s₈,
    e₁, e₂, e₃, e₄, e₅, e₆, e₇, e₈, e₉⟩ := lowerHandlers_test_steps hp
  obtain ⟨rfl, rfl⟩ := run_unique h₁ e₁
  obtain ⟨rfl, rfl⟩ := run_unique h₂ e₂
  obtain ⟨-, rfl⟩ := run_unique h₃ e₃
  obtain ⟨rfl, rfl⟩ := run_unique h₄ e₄
  obtain ⟨rfl, rfl⟩ := run_unique h₅ e₅
  obtain ⟨-, rfl⟩ := run_unique h₆ e₆
  obtain ⟨-, rfl⟩ := run_unique hr e₇
  have k₈ := armFinish_shut hs e₈ hx ln
  have j₈ := (finishArm_keeps e₈).moveTo next
  exact k₈.trans (lowerHandlers_shut hx k₈.fenced (j₈.fn.trans hF) (j₈.lt lx) e₉)

theorem handlersRest_after
    (hp : lowerHandlers (c :: c' :: rest) exn result exit ctx t = .ok ((), t'))
    (h₁ : lowerType c.ty ctx t = .ok (ty, t₁)) (h₂ : freshVar .boolean ctx t₁ = .ok (caught, t₂))
    (h₃ : emit (.typeTest .isInstance caught exn ty) ctx t₂ = .ok (w₁, t₃))
    (h₄ : newBlock "catch.body" ctx t₃ = .ok (body, t₄))
    (h₅ : newBlock "catch.next" ctx t₄ = .ok (next, t₅))
    (h₆ : emit (.condBr (.var caught) body next) ctx t₅ = .ok (w₂, t₆))
    (h₇ : lowerExpr c.result ctx (t₆.moveTo body) = .ok (a, t₇))
    (h₈ : finishArm a result exit ctx t₇ = .ok ((), t₈))
    (hr : lowerHandlers (c' :: rest) exn result exit ctx (t₈.moveTo next) = .ok ((), u'))
    (hs : Fenced F I u') : Shut F I u' t' := by
  obtain ⟨ty', s₁, caught', s₂, w₁', s₃, body', s₄, next', s₅, w₂', s₆, a', s₇, s₈,
    e₁, e₂, e₃, e₄, e₅, e₆, e₇, e₈, e₉⟩ := lowerHandlers_test_steps hp
  obtain ⟨rfl, rfl⟩ := run_unique h₁ e₁
  obtain ⟨rfl, rfl⟩ := run_unique h₂ e₂
  obtain ⟨-, rfl⟩ := run_unique h₃ e₃
  obtain ⟨rfl, rfl⟩ := run_unique h₄ e₄
  obtain ⟨rfl, rfl⟩ := run_unique h₅ e₅
  obtain ⟨-, rfl⟩ := run_unique h₆ e₆
  obtain ⟨rfl, rfl⟩ := run_unique h₇ e₇
  obtain ⟨-, rfl⟩ := run_unique h₈ e₈
  obtain ⟨-, rfl⟩ := run_unique hr e₉
  exact Shut.refl hs

end Handlers

/-! ## Along the calls -/

theorem Call.Runs.node {k : ExprKind} {ty : Tree.Ty} {span : Span}
    (h : (Call.expr (.node k ty span)).Runs ctx t t') :
      ∃ v, lowerKind k ty span ctx t = .ok (v, t') := by
  obtain ⟨v, h⟩ := h
  exact ⟨v, by rwa [lowerExpr_node] at h⟩

/-- Blocks that are not yet made where a child starts, fenced where the child ends, stay shut
until its parent ends. -/
theorem Child.shut {p c : Call} (hc : Child ctx p t c u) (hp : p.Runs ctx t t')
    (hr : c.Runs ctx u u') (hb : Built (fun _ => True) t) (hf : p.Fits t)
    (hI : ∀ i, I i → u.curFn.blocks.length ≤ i) (hs : Fenced t.cursor.fn I u') :
    Shut t.cursor.fn I u' t' := by
  have he := (hc.entered hb hf).1
  have kr := hr.keeps
  have hF : u'.cursor.fn = t.cursor.fn := kr.fn.trans he.fn
  have hD : ∀ l, t.landing = some l → ¬ I l := fun l h =>
    not_mem_of_lt hI (Nat.lt_of_lt_of_le (hb.landing l h).lt he.grows)
  cases hc with
  | typeOp =>
    obtain ⟨v, hp⟩ := hp.node
    obtain ⟨a, hr⟩ := hr
    exact typeOp_after_arg hp hr hs
  | dispatch h₀ =>
    obtain ⟨v, hp⟩ := hp.node
    obtain ⟨d, hr⟩ := hr
    exact call_after_dispatch hp h₀ hr hs
  | extension h₀ hd =>
    obtain ⟨v, hp⟩ := hp.node
    obtain ⟨e, hr⟩ := hr
    exact call_after_extension hp h₀ hd hr hs
  | args h₀ hd he' =>
    obtain ⟨v, hp⟩ := hp.node
    obtain ⟨a, hr⟩ := hr
    exact call_after_args hp h₀ hd he' hr hs
  | delegating =>
    obtain ⟨v, hp⟩ := hp.node
    obtain ⟨a, hr⟩ := hr
    exact delegatingCall_after_args hp hr hs
  | block =>
    obtain ⟨v, hp⟩ := hp.node
    obtain ⟨a, hr⟩ := hr
    exact block_after_stmts hp hr hs
  | whileCond h₁ h₂ h₃ h₄ =>
    obtain ⟨v, hp⟩ := hp.node
    obtain ⟨a, hr⟩ := hr
    exact whileLoop_after_cond hp h₁ h₂ h₃ h₄ hr hI hs
  | whileBody h₁ h₂ h₃ h₄ h₅ h₆ =>
    obtain ⟨v, hp⟩ := hp.node
    obtain ⟨a, hr⟩ := hr
    exact whileLoop_after_body hp h₁ h₂ h₃ h₄ h₅ h₆ hr hI hs
  | doBody h₁ h₂ h₃ h₄ =>
    obtain ⟨v, hp⟩ := hp.node
    obtain ⟨a, hr⟩ := hr
    exact doWhile_after_body hp h₁ h₂ h₃ h₄ hr hI hs
  | doCond h₁ h₂ h₃ h₄ h₅ h₆ =>
    obtain ⟨v, hp⟩ := hp.node
    obtain ⟨a, hr⟩ := hr
    exact doWhile_after_cond hp h₁ h₂ h₃ h₄ h₅ h₆ hr hI hs
  | ret =>
    obtain ⟨v, hp⟩ := hp.node
    obtain ⟨a, hr⟩ := hr
    exact ret_after_value hp hr hs
  | whenArms h₁ h₂ =>
    obtain ⟨v, hp⟩ := hp.node
    exact whenArms_after_arms hp h₁ h₂ hr hI hs
  | declare =>
    obtain ⟨v, hp⟩ := hp.node
    obtain ⟨a, hr⟩ := hr
    exact declare_after_init hp hr hs
  | assign =>
    obtain ⟨v, hp⟩ := hp.node
    obtain ⟨a, hr⟩ := hr
    exact assign_after_value hp hr hs
  | vararg =>
    obtain ⟨v, hp⟩ := hp.node
    obtain ⟨a, hr⟩ := hr
    exact vararg_after_elems hp hr hs
  | throw =>
    obtain ⟨v, hp⟩ := hp.node
    obtain ⟨a, hr⟩ := hr
    exact throw_after_value hp hr hs
  | handlers h₁ h₂ hne h₃ h₄ h₅ =>
    obtain ⟨v, hp⟩ := hp.node
    have b₂ := (newBlock_formed (resultVar_built hb h₁) h₂).1
    exact tryCatch_after_handlers hp h₁ h₂ hne h₃ h₄ h₅ hr b₂.cursor.2 hI hD hs
  | tryBody h₁ h₂ h₃ =>
    obtain ⟨v, hp⟩ := hp.node
    obtain ⟨a, hr⟩ := hr
    obtain ⟨b₂, -, l₂⟩ := newBlock_formed (resultVar_built hb h₁) h₂
    obtain ⟨-, g₃, -⟩ := tryStart_built (fun exn => lowerHandlers_built _ exn _ _) b₂ l₂ h₃
    exact tryCatch_after_body hp h₁ h₂ h₃ hr (Nat.lt_of_lt_of_le l₂ g₃.1) hI hD hs
  | getReceiver h₀ h₁ =>
    obtain ⟨v, hp⟩ := hp.node
    obtain ⟨a, hr⟩ := hr
    exact getField_after_receiver hp h₀ h₁ hr hs
  | setReceiver h₀ h₁ =>
    obtain ⟨v, hp⟩ := hp.node
    obtain ⟨a, hr⟩ := hr
    exact setField_after_receiver hp h₀ h₁ hr hs
  | setValue h₁ =>
    obtain ⟨v, hp⟩ := hp.node
    obtain ⟨a, hr⟩ := hr
    exact setField_after_value hp h₁ hr hs
  | optSome =>
    obtain ⟨o, hp⟩ := hp
    obtain ⟨a, hr⟩ := hr
    exact optSome_after hp hr hs
  | listHead =>
    obtain ⟨vs, hp⟩ := hp
    obtain ⟨a, hr⟩ := hr
    exact listHead_after hp hr hs
  | listTail h₁ =>
    obtain ⟨vs, hp⟩ := hp
    obtain ⟨a, hr⟩ := hr
    exact listTail_after hp h₁ hr hs
  | blockHead =>
    obtain ⟨v, hp⟩ := hp
    obtain ⟨a, hr⟩ := hr
    exact blockHead_after hp hr hs
  | blockTail h₁ =>
    obtain ⟨v, hp⟩ := hp
    obtain ⟨a, hr⟩ := hr
    exact blockTail_after hp h₁ hr hs
  | varargHead =>
    obtain ⟨vs, hp⟩ := hp
    obtain ⟨a, hr⟩ := hr
    exact varargHead_after hp hr hs
  | varargTail h₁ =>
    obtain ⟨vs, hp⟩ := hp
    obtain ⟨a, hr⟩ := hr
    exact varargTail_after hp h₁ hr hs
  | armTaken hc =>
    obtain ⟨a, hr⟩ := hr
    exact armTaken_after hp hc hr (not_mem_of_lt hI hf) hs
  | armGuard hc =>
    obtain ⟨a, hr'⟩ := hr
    exact armGuard_after hp hc hr' hF (not_mem_of_lt hI hf) (kr.lt hf) hs
  | armResult hc h₁ h₂ h₃ h₄ =>
    obtain ⟨-, k₄, -, ln⟩ := armTest_formed hb hf h₁ h₂ h₃ h₄
    obtain ⟨a, hr'⟩ := hr
    have lx := kr.lt (k₄.lt hf)
    exact armResult_after hp hc h₁ h₂ h₃ h₄ hr' hF (not_mem_of_lt hI (k₄.lt hf)) lx
      (kr.lt ln) hs
  | armsRest hc h₁ h₂ h₃ h₄ h₅ h₆ => exact armsRest_after hp hc h₁ h₂ h₃ h₄ h₅ h₆ hr hs
  | handlerLast =>
    obtain ⟨a, hr⟩ := hr
    exact handlerLast_after hp hr (not_mem_of_lt hI hf) hs
  | handlerResult h₁ h₂ h₃ h₄ h₅ h₆ =>
    obtain ⟨-, k₆, -, ln⟩ := handlerTest_formed hb h₁ h₂ h₃ h₄ h₅ h₆
    obtain ⟨a, hr'⟩ := hr
    exact handlerResult_after hp h₁ h₂ h₃ h₄ h₅ h₆ hr' hF (not_mem_of_lt hI (k₆.lt hf))
      (kr.lt (k₆.lt hf)) (kr.lt ln) hs
  | handlersRest h₁ h₂ h₃ h₄ h₅ h₆ h₇ h₈ =>
    exact handlersRest_after hp h₁ h₂ h₃ h₄ h₅ h₆ h₇ h₈ hr hs

/-- Blocks made by a call `d`, fenced where it ends, stay shut until any call that `d` runs
inside ends. The induction is along `Within`, from the call around `d` inwards; the blocks were
not yet made where each call on the way starts. -/
theorem Within.shut {d p : Call} (hw : Within ctx d s s' p t t')
    (hI : ∀ i, I i → s.curFn.blocks.length ≤ i) :
    Built (fun _ => True) t → p.Fits t → Fenced t.cursor.fn I s' → Shut t.cursor.fn I s' t' := by
  induction hw with
  | refl _ => exact fun _ _ hs => Shut.refl hs
  | child hp hc hw ih =>
    intro hb hf hs
    obtain ⟨he, hf'⟩ := hc.entered hb hf
    have k := ih he.built hf' (he.fn ▸ hs)
    rw [he.fn] at k
    have hI' : ∀ i, I i → _ ≤ i := fun i h =>
      Nat.le_trans (hw.entered he.built hf').1.grows (hI i h)
    exact k.trans (hc.shut hp hw.runs hb hf hI' k.fenced)

end Isel.Lower
