import Isel.Proofs.Chains

/-! # The arms of a `when`

A `when` runs the arm of the first guard that holds, and its lowering tests the guards in that
order. The guard of each tested arm ends its code in a conditional branch to a fresh arm block
and to a fresh block for the next test, or to the exit after the last arm; each of these blocks
is entered by that edge alone (`lowerArms_test_edges`). So the code of a later guard or arm is
reached from the entry only through the false edges of the guards before it, and the code of an
arm only through the true edge of its own guard.

An arm guarded by the literal `true` is entered without a test and ends the chain: the arms
after it are not lowered at all, and a `when` lowers as the arms up to it do
(`whenArms_untilTrue`).
-/

namespace Isel.Tree

def Arm.untilTrue : List Arm → List Arm
  | [] => []
  | .mk c r :: rest => if c.isTrueLiteral then [.mk c r] else .mk c r :: Arm.untilTrue rest

@[simp] theorem Arm.isEmpty_untilTrue (arms : List Arm) :
    (Arm.untilTrue arms).isEmpty = arms.isEmpty := by
  cases arms with
  | nil => rfl
  | cons a rest =>
    obtain ⟨c, r⟩ := a
    unfold Arm.untilTrue
    split <;> rfl

end Isel.Tree

namespace Isel.Lower

open Isel.Graph (Operand Instr Var)
open Isel.Tree (Expr Arm)

variable {ctx : Context} {P : Cursor → Prop} {s s' : State} {cond res : Expr} {rest : List Arm}
  {result : Option Var} {exit : Nat}

/-! ## Arms that are never lowered -/

theorem lowerArms_true (hc : cond.isTrueLiteral = true) :
    lowerArms (.mk cond res :: rest) result exit =
      (do let v ← lowerExpr res; finishArm v result exit) := by
  simp only [lowerArms, hc, ite_true]

theorem lowerArms_untilTrue : ∀ (arms : List Arm) (result : Option Var) (exit : Nat),
    lowerArms (Arm.untilTrue arms) result exit = lowerArms arms result exit := by
  intro arms result exit
  induction arms with
  | nil => rfl
  | cons arm rest ih =>
    cases arm with
    | mk c r =>
      cases hc : c.isTrueLiteral with
      | true => simp only [Arm.untilTrue, hc, ite_true, lowerArms]
      | false =>
        simp only [Arm.untilTrue, hc, Bool.false_eq_true, ite_false, lowerArms,
          Arm.isEmpty_untilTrue, ih]

theorem whenArms_untilTrue (arms : List Arm) (ty : Tree.Ty) (span : Span) :
    lowerKind (.whenArms (Arm.untilTrue arms)) ty span = lowerKind (.whenArms arms) ty span := by
  simp only [lowerKind, lowerArms_untilTrue]

/-! ## The entry and the exit -/

theorem whenArms_entry {arms : List Arm} {ty : Tree.Ty} {span : Span} {v : Operand}
    (hb : Built P s) (h : lowerKind (.whenArms arms) ty span ctx s = .ok (v, s')) :
    ∃ result s₂ s₃, Built (fun d => P d ∨ d = ⟨s.cursor.fn, s.curFn.blocks.length⟩) s₂ ∧
      s₂.cursor = s.cursor ∧ s₂.curFn.blocks.length = s.curFn.blocks.length + 1 ∧
      lowerArms arms result s.curFn.blocks.length ctx s₂ = .ok ((), s₃) ∧
      ∀ t, t ≠ s.curFn.blocks.length → s'.curFn.preds t = s₃.curFn.preds t := by
  obtain ⟨result, s₁, exit, s₂, s₃, s₄, h₁, h₂, h₃, h₄, h₅, rfl, -⟩ := whenArms_steps h
  obtain ⟨f₁, c₁⟩ := resultVar_frame hb.inRange h₁
  obtain ⟨b₂, l₂⟩ := newBlock_built (resultVar_built hb h₁) (resultVar_keeps h₁).fn h₂
  obtain ⟨rfl, l₂', -⟩ := newBlock_tally (n := 0) (L := []) (D := none)
    (resultVar_built hb h₁).inRange (Nat.zero_le _) h₂
  have hx : s₁.curFn.blocks.length = s.curFn.blocks.length := by rw [f₁]
  rw [← hx]
  refine ⟨result, s₂, s₃, b₂, (newBlock_cursor h₂).trans c₁, l₂', h₃, fun t ht => ?_⟩
  -- the block the arms end in branches to the exit, unless it is the exit
  show s₄.curFn.preds t = s₃.curFn.preds t
  by_cases he : s₃.cursor.block = s₁.curFn.blocks.length
  · rw [h₅ he]
  · have b₃ := lowerArms_built arms result _ b₂ l₂ h₃
    have j₃ := lowerArms_keeps arms h₃
    obtain ⟨b₄, -⟩ := jumpIfOpen_built b₃ (j₃.lt l₂) (h₄ he)
    exact (jumpIfOpen_keeps (h₄ he)).preds_eq b₄
      (by rw [jumpIfOpen_inDegree b₃.inRange (h₄ he) t, if_neg ht, Nat.add_zero])

/-! ## A tested arm -/

/-- One tested arm of a chain that starts away from its exit. Its guard is lowered where the
chain has got to and ends in a block `g` whose last instruction branches on the guard's value
to a fresh arm block (numbered `|s₁|`) and to the next test, a fresh block made right after it,
or the exit after the last arm. The arm block and the next test are entered by these edges
alone, and every path from the entry to the arm's code or to the code of the rest of the chain
takes the edge into its first block. -/
theorem lowerArms_test_edges (hb : Built P s) (hx : exit < s.curFn.blocks.length)
    (hcx : s.cursor.block ≠ exit) (hc : cond.isTrueLiteral = false)
    (h : lowerArms (.mk cond res :: rest) result exit ctx s = .ok ((), s')) :
    ∃ (c : Operand) (s₁ s₄ : State) (a : Operand) (s₅ sN : State) (g : Nat),
      lowerExpr cond ctx s = .ok (c, s₁) ∧
      lowerExpr res ctx (s₄.moveTo s₁.curFn.blocks.length) = .ok (a, s₅) ∧
      Built P sN ∧ exit < sN.curFn.blocks.length ∧
      lowerArms rest result exit ctx sN = .ok ((), s') ∧
      (rest = [] ∧ sN.cursor.block = exit ∨
        rest ≠ [] ∧ sN.cursor.block = s₁.curFn.blocks.length + 1) ∧
      (∃ blk, s'.curFn.blocks[g]? = some blk ∧
        blk.instrs.getLast? = some (.condBr c s₁.curFn.blocks.length sN.cursor.block)) ∧
      s'.curFn.preds s₁.curFn.blocks.length = [g] ∧
      (rest ≠ [] → s'.curFn.preds sN.cursor.block = [g]) ∧
      (∀ b, b = s₁.curFn.blocks.length ∨
          s₄.curFn.blocks.length ≤ b ∧ b < sN.curFn.blocks.length →
        s'.curFn.OnlyThrough (g, s₁.curFn.blocks.length) 0 b) ∧
      (rest ≠ [] → ∀ b, b = sN.cursor.block ∨
          sN.curFn.blocks.length ≤ b ∧ b < s'.curFn.blocks.length →
        s'.curFn.OnlyThrough (g, sN.cursor.block) 0 b) := by
  obtain ⟨c, s₁, arm, s₂, next, s₃, u, s₄, a, s₅, s₆, h₁, h₂, h₃, h₄, h₅, h₆, h₇⟩ :=
    lowerArms_test_steps hc h
  obtain ⟨e₄, e₆, hx₆⟩ := lowerArms_test_built (lowerExpr_built cond) (lowerExpr_built res) hb hx
    h₁ h₂ h₃ h₄ h₅ h₆
  have b₁ := lowerExpr_built cond hb h₁
  have b' := lowerArms_built rest result exit e₆ hx₆ h₇
  have t₁ := lowerExpr_tally cond (n := s.curFn.blocks.length) hb.inRange (Nat.le_refl _) h₁
  have l₁ : s.curFn.blocks.length ≤ s₁.curFn.blocks.length := t₁.grows
  -- the cursor has not moved since the guard's code ended, away from the exit
  have c₁ : s₁.cursor.block ≠ exit := by
    rcases t₁.cursor with h' | h'
    · rw [h']
      exact hcx
    · omega
  obtain ⟨rfl, l₂, t₂⟩ := newBlock_tally (n := 0) (L := s.loops) (D := s.landing) b₁.inRange
    (Nat.zero_le _) h₂
  -- the next test is a fresh block, or the exit after the last arm
  have n₃ : InRange s₃ ∧ Keeps s₁ s₃ ∧ s₃.cursor = s₁.cursor ∧
      (∀ t, s₃.curFn.inDegree t = s₁.curFn.inDegree t) ∧ next < s₃.curFn.blocks.length ∧
      (rest = [] ∧ next = exit ∨ rest ≠ [] ∧ next = s₁.curFn.blocks.length + 1) ∧
      s₁.curFn.blocks.length + 1 ≤ s₃.curFn.blocks.length := by
    rcases h₃ with ⟨hr', rfl, rfl⟩ | ⟨hr', h₃⟩
    · exact ⟨t₂.inRange, newBlock_keeps h₂, newBlock_cursor h₂, newBlock_inDegree b₁.inRange h₂,
        by omega, .inl ⟨hr', rfl⟩, by omega⟩
    · obtain ⟨rfl, l₃, t₃⟩ := newBlock_tally (n := 0) (L := s.loops) (D := s.landing) t₂.inRange
        (Nat.zero_le _) h₃
      refine ⟨t₃.inRange, (newBlock_keeps h₂).trans (newBlock_keeps h₃),
        (newBlock_cursor h₃).trans (newBlock_cursor h₂), fun t => ?_, by omega,
        .inr ⟨hr', by omega⟩, by omega⟩
      rw [newBlock_inDegree t₂.inRange h₃, newBlock_inDegree b₁.inRange h₂]
  obtain ⟨hr₃, k₃, c₃, d₃, hn₃, hnext, l₃⟩ := n₃
  have g₁ := b₁.inRange.2
  -- the test ends the block `g` the guard's code ends in, away from the arm and the next test
  obtain ⟨-, -, cur₄, -, l₄, r₄⟩ := emit_effect hr₃ h₄
  have k₄ : Keeps s s₄ := ((lowerExpr_keeps cond h₁).trans k₃).trans (emit_keeps h₄)
  have hna : s₁.curFn.blocks.length ≠ next := by
    rcases hnext with ⟨-, rfl⟩ | ⟨-, rfl⟩ <;> omega
  have ga : s₄.cursor.block ≠ s₁.curFn.blocks.length ∧ s₄.cursor.block ≠ next := by
    rw [c₃] at cur₄
    rcases hnext with ⟨-, rfl⟩ | ⟨-, rfl⟩ <;> omega
  -- the arm's code and its end, then the rest of the chain from the next test
  have t₅ := lowerExpr_tally res (n := s₄.curFn.blocks.length)
    (r₄.moveTo (show s₁.curFn.blocks.length < s₄.curFn.blocks.length by omega)) (Nat.le_refl _) h₅
  have r₆ := finishArm_inRange t₅.inRange h₆
  have S₁ : Sealed s₄.curFn.blocks.length exit (s₄.moveTo s₁.curFn.blocks.length).loops
      (s₄.moveTo s₁.curFn.blocks.length).landing (s₄.moveTo s₁.curFn.blocks.length) s₆ :=
    t₅.then (finishArm_then t₅.inRange t₅.grows h₆ (Sealed.refl r₆))
  have l₆ : s₄.curFn.blocks.length ≤ s₆.curFn.blocks.length := S₁.keeps.blocks.1
  have S₂ := lowerArms_sealed rest (n := s₆.curFn.blocks.length)
    (r₆.moveTo (show next < s₆.curFn.blocks.length by omega)) (Nat.le_refl _) hx₆ h₇
  have k₆ : Keeps s (s₆.moveTo next) := ((k₄.moveTo _).trans S₁.keeps).moveTo next
  obtain ⟨hg, last₄, pr⟩ := branch_preds hr₃ h₄ (by omega) hn₃ ga S₁ S₂
  -- the arm block and the next test are fresh: each is entered by one edge of the test
  have fresh : ∀ t, (t = s₁.curFn.blocks.length ∨ t = next) → s₁.curFn.blocks.length ≤ t →
      t ≠ exit → s'.curFn.preds t = [s₄.cursor.block] := by
    intro t hat ht hx'
    have hu := hb.unnamed (Nat.le_trans l₁ ht)
    exact pr t hat hna hx' (hu.keeps (k₄.moveTo _)) (hu.keeps k₆)
      (by rw [d₃ t, b₁.inDegree_eq_zero ht])
  have pa := fresh _ (.inl rfl) (Nat.le_refl _) (by omega)
  have pN : rest ≠ [] → s'.curFn.preds next = [s₄.cursor.block] := by
    intro hne
    have hN : next = s₁.curFn.blocks.length + 1 := by
      rcases hnext with ⟨h', -⟩ | ⟨-, h'⟩
      · exact absurd h' hne
      · exact h'
    exact fresh _ (.inr rfl) (by omega) (by omega)
  have h0 : s₁.curFn.blocks.length ≠ 0 := by
    have := hb.inRange.2
    omega
  refine ⟨c, s₁, s₄, a, s₅, s₆.moveTo next, s₄.cursor.block, h₁, h₅, e₆, hx₆, h₇, hnext,
    ⟨s₄.curBlock, hg, last₄⟩, pa, pN, ?_, ?_⟩
  · -- the arm's code: made from the arm block on, sealed while the rest of the chain is lowered
    intro b hb'
    refine onlyThrough_region e₄ S₁ (fun y hy₁ hy₂ => ?_) pa h0 b hb'
    have hy : s₄.curFn.blocks.length ≤ y := hy₁
    exact S₂.preds_eq b' hy₂ (by omega) ((hb.unnamed (by omega)).keeps k₆)
  · -- the rest of the chain: made from the next test on
    intro hne b hb'
    have hN : next ≠ 0 := by
      rcases hnext with ⟨h', -⟩ | ⟨-, rfl⟩
      · exact absurd h' hne
      · omega
    exact onlyThrough_region e₆ S₂ (fun _ _ _ => rfl) (pN hne) hN b hb'

/-! ## Short-circuit lowering -/

/-- How a `when` is lowered. The arms after the first one guarded by the literal `true` do not
matter: a `when` lowers as any other with the same arms up to that one, which is lowered where
the chain has got to, with no test. The chain starts at the block where the `when` began, with
a fresh exit, and once it is done the `when` adds edges only into the exit. Each tested arm ends
its guard in a branch to a fresh arm block and to a fresh next test, or to the exit after the
last arm, each entered by that edge alone: every path from the entry to the arm's code takes the
true edge, and every path to the code of the later guards and arms takes the false edge. Code
lowered after the `when` adds no edge into any of these blocks. -/
theorem when_short_circuit :
    (∀ (arms arms' : List Arm) (ty : Tree.Ty) (span : Span),
      Arm.untilTrue arms = Arm.untilTrue arms' →
      lowerKind (.whenArms arms) ty span = lowerKind (.whenArms arms') ty span) ∧
    (∀ (cond res : Expr) (rest : List Arm) (result : Option Var) (exit : Nat),
      cond.isTrueLiteral = true →
      lowerArms (.mk cond res :: rest) result exit =
        (do let v ← lowerExpr res; finishArm v result exit)) ∧
    (∀ (P : Cursor → Prop) (arms : List Arm) (ty : Tree.Ty) (span : Span) (ctx : Context)
      (s s' : State) (v : Operand), Built P s →
      lowerKind (.whenArms arms) ty span ctx s = .ok (v, s') →
      ∃ result s₂ s₃, Built (fun d => P d ∨ d = ⟨s.cursor.fn, s.curFn.blocks.length⟩) s₂ ∧
        s₂.cursor = s.cursor ∧ s₂.curFn.blocks.length = s.curFn.blocks.length + 1 ∧
        lowerArms arms result s.curFn.blocks.length ctx s₂ = .ok ((), s₃) ∧
        ∀ t, t ≠ s.curFn.blocks.length → s'.curFn.preds t = s₃.curFn.preds t) ∧
    (∀ (P : Cursor → Prop) (cond res : Expr) (rest : List Arm) (result : Option Var) (exit : Nat)
      (ctx : Context) (s s' : State), Built P s → exit < s.curFn.blocks.length →
      s.cursor.block ≠ exit → cond.isTrueLiteral = false →
      lowerArms (.mk cond res :: rest) result exit ctx s = .ok ((), s') →
      ∃ (c : Operand) (s₁ s₄ : State) (a : Operand) (s₅ sN : State) (g : Nat),
        lowerExpr cond ctx s = .ok (c, s₁) ∧
        lowerExpr res ctx (s₄.moveTo s₁.curFn.blocks.length) = .ok (a, s₅) ∧
        Built P sN ∧ exit < sN.curFn.blocks.length ∧
        lowerArms rest result exit ctx sN = .ok ((), s') ∧
        (rest = [] ∧ sN.cursor.block = exit ∨
          rest ≠ [] ∧ sN.cursor.block = s₁.curFn.blocks.length + 1) ∧
        (∃ blk, s'.curFn.blocks[g]? = some blk ∧
          blk.instrs.getLast? = some (.condBr c s₁.curFn.blocks.length sN.cursor.block)) ∧
        s'.curFn.preds s₁.curFn.blocks.length = [g] ∧
        (rest ≠ [] → s'.curFn.preds sN.cursor.block = [g]) ∧
        (∀ b, b = s₁.curFn.blocks.length ∨
            s₄.curFn.blocks.length ≤ b ∧ b < sN.curFn.blocks.length →
          s'.curFn.OnlyThrough (g, s₁.curFn.blocks.length) 0 b) ∧
        (rest ≠ [] → ∀ b, b = sN.cursor.block ∨
            sN.curFn.blocks.length ≤ b ∧ b < s'.curFn.blocks.length →
          s'.curFn.OnlyThrough (g, sN.cursor.block) 0 b)) ∧
    (∀ (P : Cursor → Prop) (e : Expr) (ctx : Context) (s s' : State) (v : Operand) (t : Nat),
      Built P s → t < s.curFn.blocks.length → Unnamed s.loops s.landing t →
      lowerExpr e ctx s = .ok (v, s') → s'.curFn.preds t = s.curFn.preds t) := by
  refine ⟨?_, ?_, ?_, ?_, ?_⟩
  · intro arms arms' ty span h
    rw [← whenArms_untilTrue arms, h, whenArms_untilTrue]
  · intro cond res rest result exit hc
    exact lowerArms_true hc
  · intro P arms ty span ctx s s' v hb h
    exact whenArms_entry hb h
  · intro P cond res rest result exit ctx s s' hb hx hcx hc h
    exact lowerArms_test_edges hb hx hcx hc h
  · intro P e ctx s s' v t hb ht hu h
    exact lowerExpr_preds_sealed hb ht hu h

/-- `when { false -> 1; true -> 2; x -> 3 }`: a tested arm, then an arm guarded by `true`, which
ends the chain before the last. -/
def pickArms : List Arm :=
  [.mk (.node (.literal (.boolean false)) .boolean ⟨0, 0, 1, 1⟩)
      (.node (.literal (.int 1)) .int ⟨0, 0, 1, 1⟩),
    .mk (.node (.literal (.boolean true)) .boolean ⟨0, 0, 2, 1⟩)
      (.node (.literal (.int 2)) .int ⟨0, 0, 2, 1⟩),
    .mk (.node (.read ⟨0⟩ "x") .boolean ⟨0, 0, 3, 1⟩) (.node (.literal (.int 3)) .int ⟨0, 0, 3, 1⟩)]

/-- The `when` lowers as that of its first two arms, its second arm is lowered with no test, and
lowered at the start of selection, the first arm's block is entered by its guard's branch
alone. -/
theorem pickArms_short_circuit :
    lowerKind (.whenArms pickArms) .int ⟨0, 0, 1, 1⟩ =
      lowerKind (.whenArms (pickArms.take 2)) .int ⟨0, 0, 1, 1⟩ ∧
    (∀ (result : Option Var) (exit : Nat), lowerArms (pickArms.drop 1) result exit =
      (do let v ← lowerExpr (.node (.literal (.int 2)) .int ⟨0, 0, 2, 1⟩); finishArm v result exit)) ∧
    ∃ v s', lowerKind (.whenArms pickArms) .int ⟨0, 0, 1, 1⟩ ⟨[], 8⟩ (State.start "init") =
      .ok (v, s') ∧ ∃ g, s'.curFn.preds 2 = [g] := by
  obtain ⟨huntil, htrue, hentry, htest, -⟩ := when_short_circuit
  refine ⟨huntil _ _ _ _ rfl, fun result exit => htrue _ _ _ result exit rfl, ?_⟩
  have hok : (lowerKind (.whenArms pickArms) .int ⟨0, 0, 1, 1⟩ ⟨[], 8⟩
      (State.start "init")).isOk = true := by decide +kernel
  cases h : lowerKind (.whenArms pickArms) .int ⟨0, 0, 1, 1⟩ ⟨[], 8⟩ (State.start "init") with
  | error e =>
    rw [h] at hok
    cases hok
  | ok r =>
    obtain ⟨result, s₂, s₃, hb₂, hc₂, hl₂, harms, hpreds⟩ :=
      hentry _ _ _ _ _ _ _ _ (Ready.start "init").built h
    -- the first guard, `false`, is tested at the block the `when` began in, before the exit
    obtain ⟨c, s₁, -, -, -, -, g, hcond, -, -, -, -, -, -, hpre, -⟩ :=
      htest _ _ _ _ _ _ _ _ _ hb₂ (by rw [hl₂]; exact Nat.lt_succ_self _)
        (by rw [hc₂]; decide) rfl harms
    have hlit : lowerExpr (.node (.literal (.boolean false)) .boolean ⟨0, 0, 1, 1⟩) ⟨[], 8⟩ s₂ =
        .ok (.bool false, s₂) := rfl
    rw [hlit] at hcond
    have hs : s₁ = s₂ := (Prod.mk.inj (Except.ok.inj hcond)).2.symm
    refine ⟨r.1, r.2, rfl, g, ?_⟩
    rw [hpreds 2 (by decide)]
    rwa [hs, hl₂] at hpre

end Isel.Lower
