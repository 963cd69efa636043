import Isel.Proofs.Sealing
import Isel.Proofs.JumpFailures

/-! # The blocks of a loop and the jumps to them

A `while` loop and a `do`-`while` loop each make three fresh blocks: the test, the body and the
exit. The body of either is lowered in the loop's frame, and so is the test of a `do`-`while`,
while the test of a `while` is lowered before the frame is entered. A `break` or a `continue`
branches to the exit or the test of the innermost enclosing frame with its loop id, and fails
with `LoopNotFound` when there is none; so the jumps that reach a loop's blocks are those of
its code that its frame binds (`Escapes.bind`).

Counting the edges into the three blocks step by step, with the tally of the code lowered in
between, gives them exactly, and `lowerExpr_preds_sealed` keeps them so: no later code names
the blocks of a loop once its frame is gone.
-/

namespace Isel.Lower

open Isel.Graph (Operand Instr)
open Isel.Tree (Expr ExprKind LoopId)

variable {ctx : Context} {P : Cursor → Prop} {s s' : State} {loop : LoopId} {cond : Expr}
  {body : Option Expr} {ty : Tree.Ty} {span : Span} {v : Operand}

/-! ## `break` and `continue` -/

/-- A `break` or a `continue` branches to the exit or to the test of the innermost enclosing
loop with its id; outside every such loop it fails with `LoopNotFound`, its keyword and its
span. -/
theorem jump_lowering {k : LoopExit} {node : ExprKind}
    (hk : k = .breakLoop ∧ node = .breakLoop loop ∨ k = .continueLoop ∧ node = .continueLoop loop) :
    lowerKind node ty span ctx s =
      match s.loops.find? (·.loop == loop) with
      | some fr => emit (.br (k.target fr)) ctx s
      | none => .error (.lowering (.loopNotFound k span)) := by
  rcases hk with ⟨rfl, rfl⟩ | ⟨rfl, rfl⟩ <;>
  · simp only [lowerKind, bind_run, findLoop_run]
    cases s.loops.find? (·.loop == loop) with
    | none => rfl
    | some fr =>
      simp only [LoopExit.target]
      cases he : emit _ ctx s with
      | error => rfl
      | ok r =>
        obtain ⟨u, t⟩ := r
        obtain ⟨-, rfl, -⟩ := emit_ok he
        rfl

theorem lowerExpr_jumps_nil {e : Expr} (hr : InRange s) (hl : s.loops = [])
    (h : lowerExpr e ctx s = .ok (v, s')) : e.escapes.jumps = [] := by
  have tally := lowerExpr_tally e (n := 0) hr (Nat.zero_le _) h
  refine List.eq_nil_iff_forall_not_mem.2 fun j hj => ?_
  have := tally.resolved j hj
  simp [hl, resolve] at this

/-! ## The edges into a loop's blocks -/

/-- The edges into the blocks of a `while` loop once it is lowered: its body is entered only by
the true edge of its test; its exit by the false edge and by each `break` of the body that the
loop binds; its test by the branch at the loop's start, by each such `continue`, and by the
body's end if that falls through. Lowering goes on at the exit. -/
theorem whileLoop_inDegree (hb : Built P s)
    (h : lowerKind (.whileLoop loop cond body) ty span ctx s = .ok (v, s')) :
    s.curFn.blocks.length + 3 ≤ s'.curFn.blocks.length ∧
    s'.cursor.block = s.curFn.blocks.length + 2 ∧
    s'.curFn.inDegree (s.curFn.blocks.length + 1) = 1 ∧
    s'.curFn.inDegree (s.curFn.blocks.length + 2) =
      1 + (Expr.optEscapes body).jumps.count (.breakLoop, loop) ∧
    ∃ c s₅ b s₇,
      lowerExpr cond ctx (((((s.addBlock "while.check").addBlock "while.body").addBlock
        "while.exit").reopen.push (.br s.curFn.blocks.length)).moveTo s.curFn.blocks.length) =
        .ok (c, s₅) ∧
      lowerOpt body ctx ({ s₅.reopen.push
          (.condBr c (s.curFn.blocks.length + 1) (s.curFn.blocks.length + 2)) with
        loops := ⟨loop, s.curFn.blocks.length, s.curFn.blocks.length + 2⟩ :: s.loops }.moveTo
          (s.curFn.blocks.length + 1)) = .ok (b, s₇) ∧
      s'.curFn.inDegree s.curFn.blocks.length = 1 + (if s₇.curBlock.isTerminal then 0 else 1) +
        (Expr.optEscapes body).jumps.count (.continueLoop, loop) := by
  obtain ⟨check, s₁, bodyB, s₂, exit, s₃, u₁, s₄, c, s₅, u₂, s₆, b, s₇, s₈,
    h₁, h₂, h₃, h₄, h₅, h₆, h₇, h₈, rfl, -⟩ := whileLoop_steps h
  have hr := hb.inRange
  obtain ⟨hc, l₁, t₁⟩ := newBlock_tally (n := 0) (L := s.loops) (D := s.landing) hr
    (Nat.zero_le _) h₁
  obtain ⟨hbB, l₂, t₂⟩ := newBlock_tally (n := 0) (L := s.loops) (D := s.landing) t₁.inRange
    (Nat.zero_le _) h₂
  obtain ⟨hx, l₃, t₃⟩ := newBlock_tally (n := 0) (L := s.loops) (D := s.landing) t₂.inRange
    (Nat.zero_le _) h₃
  obtain rfl : bodyB = check + 1 := by omega
  obtain rfl : exit = check + 2 := by omega
  rw [← hc]
  -- the steps before the body, and what each adds to the edges into the loop's blocks
  have e₁ := newBlock_inDegree hr h₁
  have e₂ := newBlock_inDegree t₁.inRange h₂
  have e₃ := newBlock_inDegree t₂.inRange h₃
  obtain ⟨e₄, -, -, -, l₄, hr₄⟩ := emit_effect t₃.inRange h₄
  have k₄ : Keeps s s₄ := ((t₁.keeps.trans t₂.keeps).trans t₃.keeps).trans (emit_keeps h₄)
  -- the test is lowered outside the loop's frame: it reaches none of the loop's blocks
  have tc := lowerExpr_tally cond (n := check + 3) (hr₄.moveTo (by omega))
    (by show check + 3 ≤ s₄.curFn.blocks.length; omega) h₅
  have e₅ : ∀ t, check ≤ t → t < check + 3 → s₅.curFn.inDegree t = s₄.curFn.inDegree t :=
    fun t h₁ h₂ => tc.inDegree_unnamed h₂ ((hb.unnamed (hc ▸ h₁)).keeps (k₄.moveTo check))
  have l₅ : s₄.curFn.blocks.length ≤ s₅.curFn.blocks.length := tc.grows
  obtain ⟨e₆, -, -, -, l₆, hr₆⟩ := emit_effect tc.inRange h₆
  have k₆ : Keeps s s₆ := (k₄.moveTo check).trans (tc.keeps.trans (emit_keeps h₆))
  -- the body is lowered in the loop's frame
  have tb := Tallies.inLoop (n := check + 3) (lowerOpt_tally body) hr₆ (by omega) (by omega) h₇
  have e₇ : ∀ t, check ≤ t → t < check + 3 → s₇.curFn.inDegree t = s₆.curFn.inDegree t +
      (if t = check then (Expr.optEscapes body).jumps.count (.continueLoop, loop) else 0) +
      (if t = check + 2 then (Expr.optEscapes body).jumps.count (.breakLoop, loop) else 0) :=
    fun t h₁ h₂ => tb.inDegree_frame rfl h₂ ((hb.unnamed (hc ▸ h₁)).keeps k₆) (by simp)
  -- the body's end falls through to the test exactly when it is open
  have e₈ := jumpIfOpen_inDegree tb.inRange h₈
  -- every step together, for each of the three blocks
  have total : ∀ t, check ≤ t → t < check + 3 → s₈.curFn.inDegree t = [check].count t +
      [check + 1, check + 2].count t +
      (if t = check then (Expr.optEscapes body).jumps.count (.continueLoop, loop) else 0) +
      (if t = check + 2 then (Expr.optEscapes body).jumps.count (.breakLoop, loop) else 0) +
      (if t = check then (if s₇.curBlock.isTerminal then 0 else 1) else 0) := by
    intro t h₁ h₂
    rw [e₈, e₇ t h₁ h₂, e₆, e₅ t h₁ h₂, e₄, e₃, e₂, e₁, hb.inDegree_eq_zero (hc ▸ h₁)]
    simp only [Instr.successors, Nat.zero_add]
  -- the states where the test and the body start
  have hs₄ : s₄ = (((s.addBlock "while.check").addBlock "while.body").addBlock
      "while.exit").reopen.push (.br check) := by
    rw [(emit_ok h₄).2.2, (newBlock_ok h₃).2.2, (newBlock_ok h₂).2.2, (newBlock_ok h₁).2.2]
  have hl₆ : s₆.loops = s.loops := (k₄.moveTo check).trans (tc.keeps.trans (emit_keeps h₆)) |>.loops
  rw [hl₆, (emit_ok h₆).2.2] at h₇
  refine ⟨?_, rfl, ?_, ?_, c, s₅, b, s₇, hs₄ ▸ h₅, h₇, ?_⟩
  · have l₇ : s₆.curFn.blocks.length ≤ s₇.curFn.blocks.length := tb.grows
    have l₈ : s₇.curFn.blocks.length ≤ s₈.curFn.blocks.length := (jumpIfOpen_keeps h₈).blocks.1
    show check + 3 ≤ s₈.curFn.blocks.length
    omega
  · show s₈.curFn.inDegree (check + 1) = 1
    rw [total _ (by omega) (by omega)]
    simp
  · show s₈.curFn.inDegree (check + 2) = _
    rw [total _ (by omega) (by omega)]
    simp
  · show s₈.curFn.inDegree check = _
    rw [total _ (Nat.le_refl _) (by omega)]
    simp
    omega

/-- The edges into the blocks of a `do`-`while` loop once it is lowered: its body is entered by
the branch at the loop's start and by the true edge of its test; its exit by the false edge and
by each `break` of the body or the test that the loop binds; its test by each such `continue`,
and by the body's end if that falls through. Lowering goes on at the exit. -/
theorem doWhile_inDegree (hb : Built P s)
    (h : lowerKind (.doWhile loop cond body) ty span ctx s = .ok (v, s')) :
    s.curFn.blocks.length + 3 ≤ s'.curFn.blocks.length ∧
    s'.cursor.block = s.curFn.blocks.length + 2 ∧
    s'.curFn.inDegree (s.curFn.blocks.length + 1) = 2 ∧
    s'.curFn.inDegree (s.curFn.blocks.length + 2) =
      1 + (Expr.optEscapes body + cond.escapes).jumps.count (.breakLoop, loop) ∧
    ∃ b s₅,
      lowerOpt body ctx ({ (((s.addBlock "do.check").addBlock "do.body").addBlock
          "do.exit").reopen.push (.br (s.curFn.blocks.length + 1)) with
        loops := ⟨loop, s.curFn.blocks.length, s.curFn.blocks.length + 2⟩ :: s.loops }.moveTo
          (s.curFn.blocks.length + 1)) = .ok (b, s₅) ∧
      s'.curFn.inDegree s.curFn.blocks.length = (if s₅.curBlock.isTerminal then 0 else 1) +
        (Expr.optEscapes body + cond.escapes).jumps.count (.continueLoop, loop) := by
  obtain ⟨check, s₁, bodyB, s₂, exit, s₃, u₁, s₄, b, s₅, s₆, c, s₇, u₂, s₈,
    h₁, h₂, h₃, h₄, h₅, h₆, h₇, h₈, rfl, -⟩ := doWhile_steps h
  have hr := hb.inRange
  obtain ⟨hc, l₁, t₁⟩ := newBlock_tally (n := 0) (L := s.loops) (D := s.landing) hr
    (Nat.zero_le _) h₁
  obtain ⟨hbB, l₂, t₂⟩ := newBlock_tally (n := 0) (L := s.loops) (D := s.landing) t₁.inRange
    (Nat.zero_le _) h₂
  obtain ⟨hx, l₃, t₃⟩ := newBlock_tally (n := 0) (L := s.loops) (D := s.landing) t₂.inRange
    (Nat.zero_le _) h₃
  obtain rfl : bodyB = check + 1 := by omega
  obtain rfl : exit = check + 2 := by omega
  rw [← hc]
  have e₁ := newBlock_inDegree hr h₁
  have e₂ := newBlock_inDegree t₁.inRange h₂
  have e₃ := newBlock_inDegree t₂.inRange h₃
  obtain ⟨e₄, -, -, -, l₄, hr₄⟩ := emit_effect t₃.inRange h₄
  have k₄ : Keeps s s₄ := ((t₁.keeps.trans t₂.keeps).trans t₃.keeps).trans (emit_keeps h₄)
  have hu₄ : ∀ t, check ≤ t → Unnamed s₄.loops s₄.landing t :=
    fun t ht => (hb.unnamed (hc ▸ ht)).keeps k₄
  -- the body, in the loop's frame, falls through to the test
  have tb := Tallies.inLoop (n := check + 3) (lowerOpt_tally body) hr₄ (by omega) (by omega) h₅
  have e₅ : ∀ t, check ≤ t → t < check + 3 → s₅.curFn.inDegree t = s₄.curFn.inDegree t +
      (if t = check then (Expr.optEscapes body).jumps.count (.continueLoop, loop) else 0) +
      (if t = check + 2 then (Expr.optEscapes body).jumps.count (.breakLoop, loop) else 0) :=
    fun t h₁ h₂ => tb.inDegree_frame rfl h₂ (hu₄ t h₁) (by simp)
  have l₅ : s₄.curFn.blocks.length ≤ s₅.curFn.blocks.length := tb.grows
  -- the body's end falls through to the test exactly when it is open
  have e₆ := jumpIfOpen_inDegree tb.inRange h₆
  have k₆ := tb.keeps.trans (jumpIfOpen_keeps h₆)
  have l₆ : s₅.curFn.blocks.length ≤ s₆.curFn.blocks.length := (jumpIfOpen_keeps h₆).blocks.1
  -- the test, still in the frame, branches back to the body
  have hr₆ : InRange s₆ := (jumpIfOpen_tally (n := 0) (L := s₆.loops) (D := s₆.landing)
    tb.inRange (Nat.zero_le _) (Nat.zero_le _) h₆).inRange
  have tc := lowerExpr_tally cond (n := check + 3) (hr₆.moveTo (by omega))
    (by show check + 3 ≤ s₆.curFn.blocks.length; omega) h₇
  have e₇ : ∀ t, check ≤ t → t < check + 3 → s₇.curFn.inDegree t = s₆.curFn.inDegree t +
      (if t = check then cond.escapes.jumps.count (.continueLoop, loop) else 0) +
      (if t = check + 2 then cond.escapes.jumps.count (.breakLoop, loop) else 0) :=
    fun t h₁ h₂ => tc.inDegree_frame k₆.loops h₂ ⟨(hu₄ t h₁).1, k₆.landing ▸ (hu₄ t h₁).2⟩
      (by simp)
  obtain ⟨e₈, -, -, -, l₈, -⟩ := emit_effect tc.inRange h₈
  have l₇ : s₆.curFn.blocks.length ≤ s₇.curFn.blocks.length := tc.grows
  have total : ∀ t, check ≤ t → t < check + 3 → s₈.curFn.inDegree t = [check + 1].count t +
      (if t = check then (Expr.optEscapes body).jumps.count (.continueLoop, loop) else 0) +
      (if t = check + 2 then (Expr.optEscapes body).jumps.count (.breakLoop, loop) else 0) +
      (if t = check then (if s₅.curBlock.isTerminal then 0 else 1) else 0) +
      (if t = check then cond.escapes.jumps.count (.continueLoop, loop) else 0) +
      (if t = check + 2 then cond.escapes.jumps.count (.breakLoop, loop) else 0) +
      [check + 1, check + 2].count t := by
    intro t h₁ h₂
    rw [e₈, e₇ t h₁ h₂, e₆, e₅ t h₁ h₂, e₄, e₃, e₂, e₁, hb.inDegree_eq_zero (hc ▸ h₁)]
    simp only [Instr.successors, Nat.zero_add]
  -- the state where the body starts
  have hs₄ : s₄ = (((s.addBlock "do.check").addBlock "do.body").addBlock
      "do.exit").reopen.push (.br (check + 1)) := by
    rw [(emit_ok h₄).2.2, (newBlock_ok h₃).2.2, (newBlock_ok h₂).2.2, (newBlock_ok h₁).2.2]
  rw [k₄.loops, hs₄] at h₅
  refine ⟨by show check + 3 ≤ s₈.curFn.blocks.length; omega, rfl, ?_, ?_, b, s₅, h₅, ?_⟩
  · show s₈.curFn.inDegree (check + 1) = 2
    rw [total _ (by omega) (by omega)]
    simp
  · show s₈.curFn.inDegree (check + 2) = _
    rw [total _ (by omega) (by omega), Escapes.add_jumps, List.count_append]
    simp
    omega
  · show s₈.curFn.inDegree check = _
    rw [total _ (Nat.le_refl _) (by omega), Escapes.add_jumps, List.count_append]
    simp
    omega

/-! ## Loops -/

/-- How loops are lowered. The free jumps of an expression, with where they are, are its
`jumpSites`. A `break` or a `continue` fails with `LoopNotFound` only at one of them, with its
keyword and span, when no enclosing loop has its id. When an expression lowers, each of its free
jumps branches where `resolve` sends it, to the exit or the test of the innermost enclosing loop
with its id, and no other edge of its code but a call unwinding to the landing block reaches an
earlier block; in a body or an initializer, which no loop encloses, an expression lowers only if
it has no free jump. A `while` and a `do`-`while` loop each make three fresh blocks, with the
edges into them that the loop's own branches, the fall-through of its body when that ends open,
and the jumps it binds make; code lowered later adds none, as no frame names them once the loop
is done. -/
theorem loop_lowering_edges :
    (∀ e : Expr, e.jumpSites.map (fun j => (j.1, j.2.1)) = e.escapes.jumps) ∧
    (∀ (e : Expr) (ctx : Context) (s : State) (k : LoopExit) (sp : Span),
      lowerExpr e ctx s = .error (.lowering (.loopNotFound k sp)) →
      ∃ l, (k, l, sp) ∈ e.jumpSites ∧ resolve s.loops (k, l) = none) ∧
    (∀ (e : Expr) (ctx : Context) (s s' : State) (v : Operand), InRange s →
      lowerExpr e ctx s = .ok (v, s') →
      (∀ j ∈ e.escapes.jumps, (resolve s.loops j).isSome) ∧
      ∀ t < s.curFn.blocks.length, s'.curFn.inDegree t = s.curFn.inDegree t +
        e.escapes.jumps.countP (fun j => resolve s.loops j == some t) +
        if s.landing = some t then e.escapes.calls else 0) ∧
    (∀ (e : Expr) (ctx : Context) (s s' : State) (v : Operand), InRange s → s.loops = [] →
      lowerExpr e ctx s = .ok (v, s') → e.escapes.jumps = []) ∧
    (∀ (P : Cursor → Prop) (loop : LoopId) (cond : Expr) (body : Option Expr) (ty : Tree.Ty)
      (span : Span) (ctx : Context) (s s' : State) (v : Operand), Built P s →
      lowerKind (.whileLoop loop cond body) ty span ctx s = .ok (v, s') →
      s.curFn.blocks.length + 3 ≤ s'.curFn.blocks.length ∧
      s'.cursor.block = s.curFn.blocks.length + 2 ∧
      s'.curFn.inDegree (s.curFn.blocks.length + 1) = 1 ∧
      s'.curFn.inDegree (s.curFn.blocks.length + 2) =
        1 + (Expr.optEscapes body).jumps.count (.breakLoop, loop) ∧
      ∃ c s₅ b s₇,
        lowerExpr cond ctx (((((s.addBlock "while.check").addBlock "while.body").addBlock
          "while.exit").reopen.push (.br s.curFn.blocks.length)).moveTo s.curFn.blocks.length) =
          .ok (c, s₅) ∧
        lowerOpt body ctx ({ s₅.reopen.push
            (.condBr c (s.curFn.blocks.length + 1) (s.curFn.blocks.length + 2)) with
          loops := ⟨loop, s.curFn.blocks.length, s.curFn.blocks.length + 2⟩ :: s.loops }.moveTo
            (s.curFn.blocks.length + 1)) = .ok (b, s₇) ∧
        s'.curFn.inDegree s.curFn.blocks.length = 1 + (if s₇.curBlock.isTerminal then 0 else 1) +
          (Expr.optEscapes body).jumps.count (.continueLoop, loop)) ∧
    (∀ (P : Cursor → Prop) (loop : LoopId) (cond : Expr) (body : Option Expr) (ty : Tree.Ty)
      (span : Span) (ctx : Context) (s s' : State) (v : Operand), Built P s →
      lowerKind (.doWhile loop cond body) ty span ctx s = .ok (v, s') →
      s.curFn.blocks.length + 3 ≤ s'.curFn.blocks.length ∧
      s'.cursor.block = s.curFn.blocks.length + 2 ∧
      s'.curFn.inDegree (s.curFn.blocks.length + 1) = 2 ∧
      s'.curFn.inDegree (s.curFn.blocks.length + 2) =
        1 + (Expr.optEscapes body + cond.escapes).jumps.count (.breakLoop, loop) ∧
      ∃ b s₅,
        lowerOpt body ctx ({ (((s.addBlock "do.check").addBlock "do.body").addBlock
            "do.exit").reopen.push (.br (s.curFn.blocks.length + 1)) with
          loops := ⟨loop, s.curFn.blocks.length, s.curFn.blocks.length + 2⟩ :: s.loops }.moveTo
            (s.curFn.blocks.length + 1)) = .ok (b, s₅) ∧
        s'.curFn.inDegree s.curFn.blocks.length = (if s₅.curBlock.isTerminal then 0 else 1) +
          (Expr.optEscapes body + cond.escapes).jumps.count (.continueLoop, loop)) ∧
    (∀ (P : Cursor → Prop) (e : Expr) (ctx : Context) (s s' : State) (v : Operand) (t : Nat),
      Built P s → t < s.curFn.blocks.length → Unnamed s.loops s.landing t →
      lowerExpr e ctx s = .ok (v, s') → s'.curFn.preds t = s.curFn.preds t) := by
  refine ⟨fun e => e.jumpSites_jumps, fun e => lowerExpr_jumpFailures e, ?_, ?_, ?_, ?_, ?_⟩
  · intro e ctx s s' v hr h
    have tally := lowerExpr_tally e (n := s.curFn.blocks.length) hr (Nat.le_refl _) h
    exact ⟨tally.resolved, tally.inDegree⟩
  · intro e ctx s s' v hr hl h
    exact lowerExpr_jumps_nil hr hl h
  · intro P loop cond body ty span ctx s s' v hb h
    exact whileLoop_inDegree hb h
  · intro P loop cond body ty span ctx s s' v hb h
    exact doWhile_inDegree hb h
  · intro P e ctx s s' v t hb ht hu h
    exact lowerExpr_preds_sealed hb ht hu h

/-- `while (true) { try { g() } catch (e: C) { break } }`: a loop that only its handler leaves. -/
def retryLoop : ExprKind :=
  .whileLoop ⟨0⟩ (.node (.literal (.boolean true)) .boolean ⟨0, 0, 1, 1⟩)
    (some (.node (.tryCatch (.node (.call ⟨⟨2⟩, "g", .function⟩ none none []) .unit ⟨0, 0, 1, 1⟩)
      [.mk ⟨1⟩ "e" (.classRef ⟨3⟩) (.node (.breakLoop ⟨0⟩) .nothing ⟨0, 0, 2, 1⟩)]) .unit
      ⟨0, 0, 1, 1⟩))

def strayBreak : Expr := .node (.breakLoop ⟨0⟩) .nothing ⟨0, 0, 2, 1⟩

/-- Lowered at the start of selection, the loop's body is entered once and its exit twice, by
the test and by the handler's `break`; the `break` alone fails at its own span. -/
theorem retryLoop_edges :
    (∃ v s', lowerKind retryLoop .unit ⟨0, 0, 1, 1⟩ ⟨[], 8⟩ (State.start "init") = .ok (v, s') ∧
      s'.curFn.inDegree 2 = 1 ∧ s'.curFn.inDegree 3 = 2) ∧
    lowerExpr strayBreak ⟨[], 8⟩ (State.start "init") =
      .error (.lowering (.loopNotFound .breakLoop ⟨0, 0, 2, 1⟩)) ∧
    ∃ l, (LoopExit.breakLoop, l, (⟨0, 0, 2, 1⟩ : Span)) ∈ strayBreak.jumpSites ∧
      resolve (State.start "init").loops (.breakLoop, l) = none := by
  obtain ⟨-, hfail, -, -, hwhile, -, -⟩ := loop_lowering_edges
  have hstray : lowerExpr strayBreak ⟨[], 8⟩ (State.start "init") =
      .error (.lowering (.loopNotFound .breakLoop ⟨0, 0, 2, 1⟩)) := rfl
  refine ⟨?_, hstray, hfail _ _ _ _ _ hstray⟩
  have hok : (lowerKind retryLoop .unit ⟨0, 0, 1, 1⟩ ⟨[], 8⟩ (State.start "init")).isOk = true := by
    decide +kernel
  cases h : lowerKind retryLoop .unit ⟨0, 0, 1, 1⟩ ⟨[], 8⟩ (State.start "init") with
  | error e =>
    rw [h] at hok
    cases hok
  | ok r =>
    obtain ⟨-, -, hbody, hexit, -⟩ := hwhile _ _ _ _ _ _ _ _ _ _ (Ready.start "init").built h
    exact ⟨r.1, r.2, rfl, hbody, hexit.trans (by decide)⟩

end Isel.Lower
