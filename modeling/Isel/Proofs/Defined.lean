import Isel.Proofs.Available
import Isel.Proofs.Scope

/-! # Variables defined before their use

Selection of a scoped tree (`Expr.scoped`) keeps `Avail`: every construct is one lemma that takes
what its parts keep as premises, and by induction over the tree every lowering keeps it
(`lowerExpr_defines`). The lists of the blocks a construct makes are what is available where the
construct begins, and the exit of a conditional lists its result as well: every arm that reaches
the exit moves its value there first. A `when` with a value whose last arm is tested also reaches
its exit when no arm is taken, so such a `when` must end in an arm guarded by `true` (`Regular`).
-/

namespace Isel.Lower

open Isel.Graph (Operand Instr Var Block)
open Isel.Tree (Expr ExprKind Arm Catch VarargElem LocalId LoopId)

/-- Every `when` that has a value ends in an arm guarded by `true`, and every assignment writes
one of `names`. -/
def Regular (names : List String) (xs : List Expr) : Prop :=
  ∀ x ∈ xs, x.whenTotal = true ∧ ∀ n, x.assignedName? = some n → n ∈ names

section Regular

variable {names : List String} {x : Expr} {xs ys : List Expr}

theorem Regular.head (h : Regular names (x :: xs)) :
    x.whenTotal = true ∧ ∀ n, x.assignedName? = some n → n ∈ names :=
  h x List.mem_cons_self

theorem Regular.tail (h : Regular names (x :: xs)) : Regular names xs :=
  fun y hy => h y (List.mem_cons_of_mem x hy)

theorem Regular.left (h : Regular names (xs ++ ys)) : Regular names xs :=
  fun y hy => h y (List.mem_append_left ys hy)

theorem Regular.right (h : Regular names (xs ++ ys)) : Regular names ys :=
  fun y hy => h y (List.mem_append_right xs hy)

end Regular

section Constructs

variable {names : List String} {ctx : Context} {Δ : List LocalId}

theorem Defines.drop {α : Type} {m : LowerM α} {ops : α → List Operand} {Δ₀ : List LocalId}
    (h : Defines names m ops ctx Δ (Δ₀ ++ Δ)) : Defines names m ops ctx Δ Δ := by
  intro A s s' a ha hm
  obtain ⟨A', a', g, c⟩ := h ha hm
  exact ⟨A', a'.mono (List.subset_append_right Δ₀ Δ), g, c⟩

/-! ## Loops -/

theorem whileLoop_defines {loop : LoopId} {cond : Expr} {body : Option Expr} {ty span}
    (hc : Defines names (lowerExpr cond) (fun v => [v]) ctx Δ Δ)
    (hbody : Defines names (lowerOpt body) Option.toList ctx Δ Δ) :
    Defines names (lowerKind (.whileLoop loop cond body) ty span) (fun v => [v]) ctx Δ Δ := by
  intro A s s' v ha h
  obtain ⟨check, s₁, bodyB, s₂, exit, s₃, u₁, s₄, c, s₅, u₂, s₆, b, s₇, s₈,
    h₁, h₂, h₃, h₄, h₅, h₆, h₇, h₈, rfl, rfl⟩ := whileLoop_steps h
  obtain ⟨A₁, a₁, g₁, l₁, e₁⟩ := newBlock_avail ha (s.avail A) h₁
  obtain ⟨A₂, a₂, g₂, l₂, e₂⟩ := newBlock_avail a₁ (s.avail A) h₂
  obtain ⟨A₃, a₃, g₃, l₃, e₃⟩ := newBlock_avail a₂ (s.avail A) h₃
  have av₃ : s₃.avail A₃ = s.avail A := by rw [e₃, e₂, e₁]
  have k₄ : Keeps s s₄ := (newBlock_keeps h₁).trans ((newBlock_keeps h₂).trans
    ((newBlock_keeps h₃).trans (emit_keeps h₄)))
  obtain ⟨A₄, a₄, g₄, -, -, -⟩ := emit_avail a₃ (by simp [Instr.operands])
    (Edges.br (g₃.listed (g₂.listed l₁)) (av₃ ▸ List.Subset.refl _)) h₄
  -- the test, entered from the block before the loop
  obtain ⟨b₄, gb₄⟩ := ha.enterListed a₄.toCertified (g₁.trans (g₂.trans (g₃.trans g₄)))
    k₄.loops k₄.landing (g₄.listed (g₃.listed (g₂.listed l₁))) (List.Subset.refl _)
  obtain ⟨A₅, a₅, g₅, c₅⟩ := hc b₄ h₅
  have sub₅ : s.avail A ⊆ s₅.avail A₅ := (gb₄.trans g₅).avail
  have lb₅ : Listed A₅ s₅ bodyB (s.avail A) := g₅.listed (g₄.listed (g₃.listed l₂))
  have lx₅ : Listed A₅ s₅ exit (s.avail A) := g₅.listed (g₄.listed l₃)
  obtain ⟨A₆, a₆, g₆, -, -, -⟩ := emit_avail a₅
    (by exact Covered.single (c₅ c List.mem_cons_self)) (Edges.condBr lb₅ lx₅ sub₅ sub₅) h₆
  have k₆ : Keeps s s₆ := (k₄.moveTo check).trans ((lowerExpr_keeps cond h₅).trans (emit_keeps h₆))
  have lc₆ : Listed A₆ s₆ check (s.avail A) :=
    g₆.listed (g₅.listed (g₄.listed (g₃.listed (g₂.listed l₁))))
  have lx₆ : Listed A₆ s₆ exit (s.avail A) := g₆.listed lx₅
  -- the body, inside the loop, entered from the block before the loop
  obtain ⟨b₆, gb₆⟩ := ha.enterListed a₆.toCertified (gb₄.trans (g₅.trans g₆)) k₆.loops
    k₆.landing (g₆.listed lb₅) (List.Subset.refl _)
  have e₆ : Avail names Δ A₆ ({ s₆ with loops := ⟨loop, check, exit⟩ :: s₆.loops }.moveTo bodyB) :=
    b₆.pushLoop lc₆.1 lx₆.1 (by rw [lc₆.2]; exact gb₆.avail) (by rw [lx₆.2]; exact gb₆.avail)
  obtain ⟨A₇, a₇, g₇, -⟩ := hbody e₆ h₇
  have lc₇ : Listed A₇ s₇ check (s.avail A) := g₇.listed lc₆
  have sub₇ : s.avail A ⊆ s₇.avail A₇ := ((gb₆.loops _).trans g₇).avail
  obtain ⟨a₈, g₈, -⟩ := jumpIfOpen_avail a₇ lc₇.1 (fun _ => lc₇.2 ▸ sub₇) h₈
  -- out of the loop, at the exit, entered from the block before the loop
  have k₈ := (lowerOpt_keeps body h₇).trans (jumpIfOpen_keeps h₈)
  obtain ⟨b₈, gb₈⟩ := ha.enterListed a₈.popLoop.toCertified
    (((gb₆.loops _).trans (g₇.trans g₈)).loops _)
    (by show s₈.loops.tail = s.loops; rw [k₈.loops]; exact k₆.loops)
    (k₈.landing.trans k₆.landing) (g₈.listed (g₇.listed lx₆)) (List.Subset.refl _)
  exact ⟨A₇, b₈, gb₈, Covered.single (Covered.of_vars_nil rfl)⟩

theorem doWhile_defines {loop : LoopId} {cond : Expr} {body : Option Expr} {ty span}
    (hc : Defines names (lowerExpr cond) (fun v => [v]) ctx Δ Δ)
    (hbody : Defines names (lowerOpt body) Option.toList ctx Δ Δ) :
    Defines names (lowerKind (.doWhile loop cond body) ty span) (fun v => [v]) ctx Δ Δ := by
  intro A s s' v ha h
  obtain ⟨check, s₁, bodyB, s₂, exit, s₃, u₁, s₄, b, s₅, s₆, c, s₇, u₂, s₈,
    h₁, h₂, h₃, h₄, h₅, h₆, h₇, h₈, rfl, rfl⟩ := doWhile_steps h
  obtain ⟨A₁, a₁, g₁, l₁, e₁⟩ := newBlock_avail ha (s.avail A) h₁
  obtain ⟨A₂, a₂, g₂, l₂, e₂⟩ := newBlock_avail a₁ (s.avail A) h₂
  obtain ⟨A₃, a₃, g₃, l₃, e₃⟩ := newBlock_avail a₂ (s.avail A) h₃
  have av₃ : s₃.avail A₃ = s.avail A := by rw [e₃, e₂, e₁]
  have k₄ : Keeps s s₄ := (newBlock_keeps h₁).trans ((newBlock_keeps h₂).trans
    ((newBlock_keeps h₃).trans (emit_keeps h₄)))
  obtain ⟨A₄, a₄, g₄, -, -, -⟩ := emit_avail a₃ (by simp [Instr.operands])
    (Edges.br (g₃.listed l₂) (av₃ ▸ List.Subset.refl _)) h₄
  have lc₄ : Listed A₄ s₄ check (s.avail A) := g₄.listed (g₃.listed (g₂.listed l₁))
  have lx₄ : Listed A₄ s₄ exit (s.avail A) := g₄.listed l₃
  -- the body, inside the loop, entered from the block before the loop
  obtain ⟨b₄, gb₄⟩ := ha.enterListed a₄.toCertified (g₁.trans (g₂.trans (g₃.trans g₄))) k₄.loops
    k₄.landing (g₄.listed (g₃.listed l₂)) (List.Subset.refl _)
  have e₄ : Avail names Δ A₄ ({ s₄ with loops := ⟨loop, check, exit⟩ :: s₄.loops }.moveTo bodyB) :=
    b₄.pushLoop lc₄.1 lx₄.1 (List.Subset.trans lc₄.subset gb₄.avail)
      (List.Subset.trans lx₄.subset gb₄.avail)
  obtain ⟨A₅, a₅, g₅, -⟩ := hbody e₄ h₅
  have lc₅ : Listed A₅ s₅ check (s.avail A) := g₅.listed lc₄
  obtain ⟨a₆, g₆, -⟩ := jumpIfOpen_avail a₅ lc₅.1
    (fun _ => List.Subset.trans lc₅.subset ((gb₄.loops _).trans g₅).avail) h₆
  have k₆ := (lowerOpt_keeps body h₅).trans (jumpIfOpen_keeps h₆)
  have hl₆ : s₆.loops = ⟨loop, check, exit⟩ :: s.loops := by
    rw [k₆.loops]
    exact congrArg _ k₄.loops
  -- the test, still inside the loop, entered from the block before the loop
  obtain ⟨b₆, gb₆⟩ := ha.enterLoop a₆.toCertified ((gb₄.loops _).trans (g₅.trans g₆)) hl₆
    (k₆.landing.trans k₄.landing) (g₆.listed lc₅) (List.Subset.refl _)
    ⟨(g₆.listed lc₅).subset, (g₆.listed (g₅.listed lx₄)).subset⟩
  obtain ⟨A₇, a₇, g₇, c₇⟩ := hc b₆ h₇
  have sub₇ : s.avail A ⊆ s₇.avail A₇ := (gb₆.trans g₇).avail
  have lb₇ : Listed A₇ s₇ bodyB (s.avail A) :=
    g₇.listed (g₆.listed (g₅.listed (g₄.listed (g₃.listed l₂))))
  have lx₇ : Listed A₇ s₇ exit (s.avail A) := g₇.listed (g₆.listed (g₅.listed lx₄))
  obtain ⟨A₈, a₈, g₈, -, -, -⟩ := emit_avail a₇
    (by exact Covered.single (c₇ c List.mem_cons_self)) (Edges.condBr lb₇ lx₇ sub₇ sub₇) h₈
  have k₈ := (lowerExpr_keeps cond h₇).trans (emit_keeps h₈)
  -- out of the loop, at the exit, entered from the block before the loop
  obtain ⟨b₈, gb₈⟩ := ha.enterListed a₈.popLoop.toCertified ((gb₆.trans (g₇.trans g₈)).loops _)
    (by
      show s₈.loops.tail = s.loops
      rw [k₈.loops]
      show s₆.loops.tail = s.loops
      rw [k₆.loops]
      exact k₄.loops)
    (k₈.landing.trans (k₆.landing.trans k₄.landing)) (g₈.listed lx₇) (List.Subset.refl _)
  exact ⟨A₈, b₈, gb₈, Covered.single (Covered.of_vars_nil rfl)⟩

theorem loopJump_defines {fr : LoopFrame} {t : Nat} {u : Operand} {A : Nat → List Var} {s s' : State}
    (ha : Avail names Δ A s) (hfr : fr ∈ s.loops) (ht : t = fr.check ∨ t = fr.exit)
    (h : emit (.br t) ctx s = .ok (u, s')) :
    ∃ A', Avail names Δ A' s' ∧ Grows names Δ s A s' A' ∧
      ∀ o ∈ [Operand.unit], Covered names s' A' o := by
  have hsub : t < s.curFn.blocks.length ∧ A t ⊆ s.avail A := by
    rcases ht with rfl | rfl
    · exact ⟨(ha.loops fr hfr).1, (ha.loopsAvail fr hfr).1⟩
    · exact ⟨(ha.loops fr hfr).2, (ha.loopsAvail fr hfr).2⟩
  obtain ⟨A', a', g', -, -, -⟩ := emit_avail ha (by simp [Instr.operands]) (Edges.br ⟨hsub.1, rfl⟩ hsub.2) h
  exact ⟨A', a', g', Covered.single (Covered.of_vars_nil rfl)⟩

theorem Grows.within {s s' : State} {A A' : Nat → List Var} (g : Grows names Δ s A s' A')
    {b : Nat} {r : List Var} (hb : b < s.curFn.blocks.length) (h : A b ⊆ s.avail A ++ r) :
    A' b ⊆ s'.avail A' ++ r := by
  rw [g.agree b hb]
  exact List.Subset.trans h (List.append_subset.2
    ⟨List.Subset.trans g.avail (List.subset_append_left _ _), List.subset_append_right _ _⟩)

/-! ## Conditionals -/

/-- What lowering the arms of a `when` keeps, run from a state reached since the `when` began at
`s₀` and made its exit, listed with what was available at `s₀` and the result. A path that leaves
the arms for the exit has set the result, if there is one: then the last arm is guarded by `true`
and no path leaves untested. Any other block the arms end in either ends or lists no more than
it has. -/
def ArmsDefine (names : List String) (arms : List Arm) (result : Option Var) (exit : Nat)
    (ctx : Context) (Δ : List LocalId) : Prop :=
  ∀ ⦃s₀ : State⦄ ⦃A₀ A : Nat → List Var⦄ ⦃s s' : State⦄,
    Listed A₀ s₀ exit (s₀.avail A₀ ++ result.toList) →
    (result = none ∨ (arms.getLast?.map (·.cond.isTrueLiteral)).getD false = true) →
    Avail names Δ A s → Grows names Δ s₀ A₀ s A →
    lowerArms arms result exit ctx s = .ok ((), s') →
    ∃ A', Certified names A' s' ∧ Grows names Δ s₀ A₀ s' A' ∧
      (s'.cursor.block ≠ exit → Avail names Δ A' s' ∧
        (s'.curBlock.isTerminal = false → A' exit ⊆ s'.avail A'))

theorem lowerArms_nil_defines {result : Option Var} {exit : Nat} :
    ArmsDefine names [] result exit ctx Δ := by
  intro s₀ A₀ A s s' lx hres ha g h
  rw [lowerArms_nil_steps h]
  -- no arm: there is no result, and the exit has what was available at the start
  have hnone : result = none := hres.resolve_right (by simp)
  refine ⟨A, ha.toCertified, g, fun _ => ⟨ha, fun _ => ?_⟩⟩
  rw [(g.listed lx).2, hnone, Option.toList_none, List.append_nil]
  exact g.avail

theorem lowerArms_cons_defines {cond res : Expr} {rest : List Arm} {result : Option Var}
    {exit : Nat} (hc : Defines names (lowerExpr cond) (fun v => [v]) ctx Δ Δ)
    (hr : Defines names (lowerExpr res) (fun v => [v]) ctx Δ Δ)
    (hrest : ArmsDefine names rest result exit ctx Δ) :
    ArmsDefine names (.mk cond res :: rest) result exit ctx Δ := by
  intro s₀ A₀ A s s' lx hres ha g h
  cases ht : cond.isTrueLiteral with
  | true =>
    obtain ⟨a, s₁, h₁, h₂⟩ := lowerArms_true_steps ht h
    obtain ⟨A₁, a₁, g₁, c₁⟩ := hr ha h₁
    obtain ⟨A₂, a₂, g₂, t₂⟩ := finishArm_avail a₁ (c₁ a List.mem_cons_self)
      ((g.trans g₁).listed lx).1 ((g.trans g₁).within lx.1 lx.subset) h₂
    exact ⟨A₂, a₂.toCertified, g.trans (g₁.trans g₂),
      fun _ => ⟨a₂, fun ho => absurd t₂ (by simp [ho])⟩⟩
  | false =>
    obtain ⟨c, s₁, arm, s₂, next, s₃, u, s₄, a, s₅, s₆, h₁, h₂, h₃, h₄, h₅, h₆, h₇⟩ :=
      lowerArms_test_steps ht h
    obtain ⟨A₁, a₁, g₁, c₁⟩ := hc ha h₁
    obtain ⟨A₂, a₂, g₂, l₂, e₂⟩ := newBlock_avail a₁ (s₁.avail A₁) h₂
    -- the next test lists what is available at this one, unless it is the exit
    have n₃ : ∃ A₃, Avail names Δ A₃ s₃ ∧ Grows names Δ s₂ A₂ s₃ A₃ ∧
        s₃.avail A₃ = s₁.avail A₁ ∧ Keeps s₂ s₃ ∧
        (rest ≠ [] ∧ Listed A₃ s₃ next (s₁.avail A₁) ∨ rest = [] ∧ next = exit) := by
      rcases h₃ with ⟨hr', rfl, rfl⟩ | ⟨hr', h₃⟩
      · exact ⟨A₂, a₂, Grows.refl _ _ _, e₂, Keeps.refl _, .inr ⟨hr', rfl⟩⟩
      · obtain ⟨A₃, a₃, g₃, l₃, e₃⟩ := newBlock_avail a₂ (s₁.avail A₁) h₃
        exact ⟨A₃, a₃, g₃, e₃.trans e₂, newBlock_keeps h₃, .inl ⟨hr', l₃⟩⟩
    obtain ⟨A₃, a₃, g₃, e₃, k₃, hn⟩ := n₃
    have G₃ : Grows names Δ s₀ A₀ s₃ A₃ := g.trans (g₁.trans (g₂.trans g₃))
    -- after the last arm the test's false edge goes to the exit, so there is no result
    have lnext : ∃ Γ, Listed A₃ s₃ next Γ ∧ Γ ⊆ s₃.avail A₃ := by
      rcases hn with ⟨-, ln⟩ | ⟨rfl, rfl⟩
      · exact ⟨_, ln, e₃ ▸ List.Subset.refl _⟩
      · have hnone : result = none := hres.resolve_right (by simp [Arm.cond, ht])
        refine ⟨_, G₃.listed lx, ?_⟩
        rw [hnone, Option.toList_none, List.append_nil]
        exact G₃.avail
    obtain ⟨Γ, ln, hΓ⟩ := lnext
    obtain ⟨A₄, a₄, g₄, -, -, -⟩ := emit_avail a₃
      (by exact Covered.single ((c₁ c List.mem_cons_self).grow (g₂.trans g₃)))
      (Edges.condBr (g₃.listed l₂) ln (e₃ ▸ List.Subset.refl _) hΓ) h₄
    have k₄ : Keeps s₃ s₄ := emit_keeps h₄
    -- the arm, entered from the test
    obtain ⟨b₄, gb₄⟩ := a₃.enterListed a₄.toCertified g₄ k₄.loops k₄.landing
      (g₄.listed (g₃.listed l₂)) (e₃ ▸ List.Subset.refl _)
    obtain ⟨A₅, a₅, g₅, c₅⟩ := hr b₄ h₅
    have G₅ : Grows names Δ s₀ A₀ s₅ A₅ := G₃.trans (gb₄.trans g₅)
    obtain ⟨A₆, a₆, g₆, -⟩ := finishArm_avail a₅ (c₅ a List.mem_cons_self) (G₅.listed lx).1
      (G₅.within lx.1 lx.subset) h₆
    have k₆ : Keeps s₃ s₆ :=
      (k₄.moveTo arm).trans ((lowerExpr_keeps res h₅).trans (finishArm_keeps h₆))
    rcases hn with ⟨hne, ln'⟩ | ⟨rfl, rfl⟩
    · -- the next test, entered from this one
      obtain ⟨b₆, gb₆⟩ := a₃.enterListed a₆.toCertified (gb₄.trans (g₅.trans g₆)) k₆.loops
        k₆.landing (g₆.listed (g₅.listed (g₄.listed ln'))) (e₃ ▸ List.Subset.refl _)
      refine hrest lx ?_ b₆ (G₃.trans gb₆) h₇
      obtain ⟨r, rs, rfl⟩ := List.exists_cons_of_ne_nil hne
      simpa using hres
    · -- the last arm is tested: lowering goes on at the exit
      rw [lowerArms_nil_steps h₇]
      have G₆ := G₅.trans g₆
      refine ⟨A₆, a₆.toCertified.moveTo (G₆.listed lx).1, G₆.moveTo ?_, fun hne => absurd rfl hne⟩
      exact List.Subset.trans (List.subset_append_left _ _)
        (List.Subset.trans (G₆.listed lx).supset (State.subset_avail_moveTo _ _ _))

theorem whenArms_defines {arms : List Arm} {ty span}
    (harms : ∀ result exit, ArmsDefine names arms result exit ctx Δ)
    (htot : (Expr.node (.whenArms arms) ty span).whenTotal = true) :
    Defines names (lowerKind (.whenArms arms) ty span) (fun v => [v]) ctx Δ Δ := by
  intro A s s' v ha h
  obtain ⟨result, s₁, exit, s₂, s₃, s₄, h₁, h₂, h₃, h₄, h₅, rfl, rfl⟩ := whenArms_steps h
  obtain ⟨a₁, g₁⟩ := resultVar_avail ha h₁
  obtain ⟨A₂, a₂, g₂, lx, e₂⟩ := newBlock_avail a₁ (s₁.avail A ++ result.toList) h₂
  have lx' : Listed A₂ s₂ exit (s₂.avail A₂ ++ result.toList) := by rw [e₂]; exact lx
  -- a `when` with a result ends in an arm guarded by `true`
  have hres : result = none ∨ (arms.getLast?.map (·.cond.isTrueLiteral)).getD false = true := by
    rcases resultVar_steps h₁ with ⟨-, hn, -⟩ | ⟨hu, hn, -⟩
    · exact .inl hn
    · right
      simpa [Expr.whenTotal, hu, hn] using htot
  obtain ⟨A₃, c₃, g₃, hopen⟩ := harms result exit lx' hres a₂ (Grows.refl _ _ _) h₃
  have k₃ := lowerArms_keeps arms h₃
  -- the block the arms end in branches to the exit, unless it is the exit
  have n₄ : ∃ A₄, Certified names A₄ s₄ ∧ Grows names Δ s₂ A₂ s₄ A₄ ∧ Keeps s₃ s₄ := by
    by_cases hx : s₃.cursor.block = exit
    · rw [h₅ hx]
      exact ⟨A₃, c₃, g₃, Keeps.refl _⟩
    · obtain ⟨a₃, hs₃⟩ := hopen hx
      obtain ⟨a₄, g₄, -⟩ := jumpIfOpen_avail a₃ (g₃.listed lx').1 hs₃ (h₄ hx)
      exact ⟨A₃, a₄.toCertified, g₃.trans g₄, jumpIfOpen_keeps (h₄ hx)⟩
  obtain ⟨A₄, c₄, g₄, k₄⟩ := n₄
  obtain ⟨b₄, gb₄⟩ := a₂.enterListed c₄ g₄ (k₄.loops.trans k₃.loops)
    (k₄.landing.trans k₃.landing) (g₄.listed lx') (List.subset_append_left _ _)
  refine ⟨A₄, b₄, g₁.trans (g₂.trans gb₄), Covered.single (Covered.result ?_)⟩
  exact List.Subset.trans (List.subset_append_right _ _)
    (List.Subset.trans (g₄.listed lx').supset (State.subset_avail_moveTo _ _ _))

/-! ## Handlers -/

/-- What lowering the handlers of a `try` keeps, run with the exception `exn` covered and the exit
listing no more than is available and the result. -/
def HandlersDefine (names : List String) (cs : List Catch) (exn : Operand) (result : Option Var)
    (exit : Nat) (ctx : Context) (Δ : List LocalId) : Prop :=
  ∀ ⦃A : Nat → List Var⦄ ⦃s s' : State⦄, Avail names Δ A s → Covered names s A exn →
    exit < s.curFn.blocks.length → A exit ⊆ s.avail A ++ result.toList →
    lowerHandlers cs exn result exit ctx s = .ok ((), s') →
    ∃ A', Avail names Δ A' s' ∧ Grows names Δ s A s' A'

theorem lowerHandlers_nil_defines {exn : Operand} {result : Option Var} {exit : Nat} :
    HandlersDefine names [] exn result exit ctx Δ := by
  intro A s s' ha _ _ _ h
  rw [lowerHandlers_nil_steps h]
  exact ⟨A, ha, Grows.refl _ _ _⟩

theorem lowerHandlers_cons_defines {c : Catch} {cs : List Catch} {exn : Operand}
    {result : Option Var} {exit : Nat}
    (hr : Defines names (lowerExpr c.result) (fun v => [v]) ctx Δ Δ)
    (hrest : HandlersDefine names cs exn result exit ctx Δ) :
    HandlersDefine names (c :: cs) exn result exit ctx Δ := by
  intro A s s' ha hexn hx hsub h
  cases cs with
  | nil =>
    obtain ⟨a, s₁, h₁, h₂⟩ := lowerHandlers_last_steps h
    obtain ⟨A₁, a₁, g₁, c₁⟩ := hr ha h₁
    obtain ⟨A₂, a₂, g₂, -⟩ := finishArm_avail a₁ (c₁ a List.mem_cons_self) (g₁.lt hx)
      (g₁.within hx hsub) h₂
    exact ⟨A₂, a₂, g₁.trans g₂⟩
  | cons c' rest =>
    obtain ⟨t, s₁, caught, s₂, u₁, s₃, body, s₄, next, s₅, u₂, s₆, a, s₇, s₈,
      h₁, h₂, h₃, h₄, h₅, h₆, h₇, h₈, h₉⟩ := lowerHandlers_test_steps h
    obtain ⟨a₁, g₁⟩ := lowerType_avail ha h₁
    obtain ⟨a₂, g₂⟩ := freshVar_avail a₁ h₂
    obtain ⟨A₃, a₃, g₃, -, c₃, -⟩ := emit_plain_avail a₂ rfl
      (by exact Covered.single (hexn.grow (g₁.trans g₂))) h₃
    have c₃' : Covered names s₃ A₃ (.var caught) := c₃
    obtain ⟨A₄, a₄, g₄, l₄, e₄⟩ := newBlock_avail a₃ (s₃.avail A₃) h₄
    obtain ⟨A₅, a₅, g₅, l₅, e₅⟩ := newBlock_avail a₄ (s₃.avail A₃) h₅
    have sub₅ : s₃.avail A₃ ⊆ s₅.avail A₅ := by rw [e₅, e₄]; exact List.Subset.refl _
    obtain ⟨A₆, a₆, g₆, -, -, -⟩ := emit_avail a₅
      (by exact Covered.single (c₃'.grow (g₄.trans g₅)))
      (Edges.condBr (g₅.listed l₄) l₅ sub₅ sub₅) h₆
    have k₆ : Keeps s₃ s₆ :=
      (newBlock_keeps h₄).trans ((newBlock_keeps h₅).trans (emit_keeps h₆))
    -- the handler, entered from the test
    obtain ⟨b₆, gb₆⟩ := a₃.enterListed a₆.toCertified (g₄.trans (g₅.trans g₆)) k₆.loops
      k₆.landing (g₆.listed (g₅.listed l₄)) (List.Subset.refl _)
    obtain ⟨A₇, a₇, g₇, c₇⟩ := hr b₆ h₇
    have G₇ : Grows names Δ s A s₇ A₇ := g₁.trans (g₂.trans (g₃.trans (gb₆.trans g₇)))
    obtain ⟨A₈, a₈, g₈, -⟩ := finishArm_avail a₇ (c₇ a List.mem_cons_self) (G₇.lt hx)
      (G₇.within hx hsub) h₈
    have k₈ : Keeps s₃ s₈ :=
      (k₆.moveTo body).trans ((lowerExpr_keeps _ h₇).trans (finishArm_keeps h₈))
    -- the next test, entered from this one
    obtain ⟨b₈, gb₈⟩ := a₃.enterListed a₈.toCertified (gb₆.trans (g₇.trans g₈)) k₈.loops
      k₈.landing (g₈.listed (g₇.listed (g₆.listed l₅))) (List.Subset.refl _)
    have G₈ : Grows names Δ s A (s₈.moveTo next) A₈ := g₁.trans (g₂.trans (g₃.trans gb₈))
    obtain ⟨A', a', g'⟩ := hrest b₈ (hexn.grow G₈) (G₈.lt hx) (G₈.within hx hsub) h₉
    exact ⟨A', a', G₈.trans g'⟩

/-- The handlers of a `try` are lowered at its header, after the landing pad, with the catch
parameters bound to the exception; lowering then goes back to the block it was in and lands at
the header from then on. The header lists what is available there. -/
theorem catchHeader_defines {cs : List Catch} {result : Option Var} {exit header : Nat}
    {exn : Var} {u : Operand} {A₂ : Nat → List Var} {s₂ s₆ s₇ s₈ s₉ : State}
    (hcs : HandlersDefine names cs (.var exn) result exit ctx (cs.map Catch.param ++ Δ))
    (hfresh : ∀ c ∈ cs, c.param ∉ Δ) (a₂ : Avail names Δ A₂ s₂)
    (lx : Listed A₂ s₂ exit (s₂.avail A₂ ++ result.toList))
    (h₆ : newBlock "catch.header" ctx s₂ = .ok (header, s₆))
    (h₇ : freshVar .ptr ctx (s₆.moveTo header) = .ok (exn, s₇))
    (h₈ : emit (.landingPad exn) ctx s₇ = .ok (u, s₈))
    (h₉ : lowerHandlers cs (.var exn) result exit ctx
      { s₈ with env := (cs.map fun c => (c.param, Operand.var exn)).reverse ++ s₈.env } =
        .ok ((), s₉)) :
    ∃ A₃, Avail names Δ A₃ { s₉ with cursor := s₂.cursor, landing := some header } ∧
      Grows names Δ s₂ A₂ { s₉ with cursor := s₂.cursor, landing := some header } A₃ ∧
      Keeps s₂ s₉ := by
  obtain ⟨A₆, a₆, g₆, l₆, -⟩ := newBlock_avail a₂ (s₂.avail A₂) h₆
  have k₆ := newBlock_keeps h₆
  obtain ⟨b₆, gb₆⟩ := a₂.enterListed a₆.toCertified g₆ k₆.loops k₆.landing l₆
    (List.Subset.refl _)
  obtain ⟨a₇, g₇⟩ := freshVar_avail b₆ h₇
  obtain ⟨A₈, a₈, g₈, e₈, -, -⟩ := emit_plain_avail a₇ rfl (by simp [Instr.operands]) h₈
  -- the catch parameters are bound to the exception, which the landing pad defines
  have hexn : Covered names s₈ A₈ (.var exn) := Covered.var (by rw [e₈]; simp [Instr.dst?])
  have hps : ∀ p ∈ (cs.map fun c => (c.param, Operand.var exn)).reverse,
      Covered names s₈ A₈ p.2 := by
    intro p hp
    obtain ⟨c, -, rfl⟩ := List.mem_map.1 (List.mem_reverse.1 hp)
    exact hexn
  have hdom : cs.map Catch.param ++ Δ ⊆
      ((cs.map fun c => (c.param, Operand.var exn)).reverse.map Prod.fst) ++ Δ := by
    intro l hl
    simpa [List.map_reverse] using hl
  have gbind : Grows names Δ s₈ A₈
      { s₈ with env := (cs.map fun c => (c.param, Operand.var exn)).reverse ++ s₈.env } A₈ := by
    refine Grows.env_only (EnvKeeps.bind_fresh fun l hl => ?_)
    obtain ⟨c, hc, rfl⟩ : ∃ c ∈ cs, c.param = l := by simpa [List.map_reverse] using hl
    exact hfresh c hc
  have G₈ := gb₆.trans (g₇.trans (g₈.trans gbind))
  obtain ⟨A₉, a₉, g₉⟩ := hcs ((a₈.bindAll hps).mono hdom) hexn (G₈.listed lx).1
    (G₈.within lx.1 lx.subset) h₉
  have g₉' := g₉.mono (List.subset_append_right _ _)
  have k₉ : Keeps s₂ s₉ := (k₆.moveTo header).trans ((freshVar_keeps h₇).trans
    (((emit_keeps h₈).bind _).trans (lowerHandlers_keeps cs h₉)))
  -- back at the block lowering was in, which keeps what it had
  have G₉ : Grows names Δ s₂ A₂ s₉ A₉ := G₈.trans g₉'
  have back := G₉.restore k₉ a₂.cursor.2
  obtain ⟨b₉, gb₉⟩ := a₂.enter a₉.toCertified G₉ k₉.loops k₉.landing (G₉.lt a₂.cursor.2) back
  have lh : Listed A₉ s₉ header (s₂.avail A₂) := (g₇.trans (g₈.trans (gbind.trans g₉'))).listed l₆
  have e₃ : { s₉ with cursor := s₂.cursor, landing := some header } =
      { s₉.moveTo s₂.cursor.block with landing := some header } := by
    have hc : s₂.cursor = { s₉.cursor with block := s₂.cursor.block } := by
      show s₂.cursor = ⟨s₉.cursor.fn, s₂.cursor.block⟩
      rw [k₉.fn]
    rw [State.moveTo, ← hc]
  rw [e₃]
  refine ⟨A₉, b₉.setLanding fun k hk => ?_, gb₉.landing _, k₉⟩
  cases hk
  exact ⟨lh.1, List.Subset.trans lh.subset back⟩

theorem tryCatch_defines {body : Expr} {cs : List Catch} {ty span}
    (hbody : Defines names (lowerExpr body) (fun v => [v]) ctx Δ Δ)
    (hcs : ∀ exn result exit,
      HandlersDefine names cs exn result exit ctx (cs.map Catch.param ++ Δ))
    (hfresh : ∀ c ∈ cs, c.param ∉ Δ) :
    Defines names (lowerKind (.tryCatch body cs) ty span) (fun v => [v]) ctx Δ Δ := by
  intro A s s' v ha h
  obtain ⟨result, s₁, exit, s₂, s₃, b, s₄, s₅, h₁, h₂, h₃, h₄, h₅, rfl, rfl⟩ := tryCatch_steps h
  obtain ⟨a₁, g₁⟩ := resultVar_avail ha h₁
  obtain ⟨A₂, a₂, g₂, lx, e₂⟩ := newBlock_avail a₁ (s₁.avail A ++ result.toList) h₂
  have lx' : Listed A₂ s₂ exit (s₂.avail A₂ ++ result.toList) := by rw [e₂]; exact lx
  -- the handlers, if any, leave lowering where it was, in the same loops
  have n₃ : ∃ A₃, Avail names Δ A₃ s₃ ∧ Grows names Δ s₂ A₂ s₃ A₃ ∧ s₃.loops = s₂.loops := by
    rcases h₃ with ⟨-, rfl⟩ | ⟨-, header, s₆, exn, s₇, u, s₈, s₉, h₆, h₇, h₈, h₉, rfl⟩
    · exact ⟨A₂, a₂, Grows.refl _ _ _, rfl⟩
    · obtain ⟨A₃, a₃, g₃, k₉⟩ := catchHeader_defines (hcs _ _ _) hfresh a₂ lx' h₆ h₇ h₈ h₉
      exact ⟨A₃, a₃, g₃, k₉.loops⟩
  obtain ⟨A₃, a₃, g₃, l₃⟩ := n₃
  obtain ⟨A₄, a₄, g₄, c₄⟩ := hbody a₃ h₄
  have G₄ := g₃.trans g₄
  obtain ⟨A₅, a₅, g₅, -⟩ := finishArm_avail a₄ (c₄ b List.mem_cons_self) (G₄.listed lx').1
    (G₄.within lx'.1 lx'.subset) h₅
  have k₅ : Keeps s₃ s₅ := (lowerExpr_keeps body h₄).trans (finishArm_keeps h₅)
  have G₅ := (G₄.trans g₅).landing s₂.landing
  -- the landing block outside the `try` is back, and lowering goes on at the exit
  have c₅ : Certified names A₅ { s₅ with landing := s₂.landing } :=
    ⟨a₅.cursor, a₅.cert, a₅.loops, fun k hk => G₅.lt (a₂.landing k hk)⟩
  obtain ⟨b₅, gb₅⟩ := a₂.enterListed c₅ G₅ (k₅.loops.trans l₃) rfl (G₅.listed lx')
    (List.subset_append_left _ _)
  refine ⟨A₅, b₅, g₁.trans (g₂.trans gb₅), Covered.single (Covered.result ?_)⟩
  exact List.Subset.trans (List.subset_append_right _ _)
    (List.Subset.trans (G₅.listed lx').supset (State.subset_avail_moveTo _ _ _))

theorem freshEmit_avail {ty : Tree.Ty} {t t' : Graph.Ty} {dst : Var} {i : Instr} {v : Operand}
    {A : Nat → List Var} {s s₁ s₂ s' : State} (ha : Avail names Δ A s)
    (h₁ : lowerType ty ctx s = .ok (t, s₁)) (h₂ : freshVar t' ctx s₁ = .ok (dst, s₂))
    (hi : i.isTerminal = false) (hu : ∀ o ∈ i.operands, Covered names s A o)
    (h₃ : emit i ctx s₂ = .ok (v, s')) :
    ∃ A', Avail names Δ A' s' ∧ Grows names Δ s A s' A' ∧ ∀ o ∈ [v], Covered names s' A' o := by
  obtain ⟨a₁, g₁⟩ := lowerType_avail ha h₁
  obtain ⟨a₂, g₂⟩ := freshVar_avail a₁ h₂
  obtain ⟨A₃, a₃, g₃, -, c₃, rfl⟩ := emit_plain_avail a₂ hi
    (fun o ho => (hu o ho).grow (g₁.trans g₂)) h₃
  exact ⟨A₃, a₃, g₁.trans (g₂.trans g₃), Covered.single c₃⟩

theorem callOperands_defines {dispatch extension : Option Expr} {args : List Expr}
    (hd : Defines names (lowerOpt dispatch) Option.toList ctx Δ Δ)
    (he : Defines names (lowerOpt extension) Option.toList ctx Δ Δ)
    (hargs : Defines names (lowerList args) id ctx Δ Δ) ⦃A : Nat → List Var⦄ ⦃s s₁ s₂ s₃ : State⦄
    ⦃d e : Option Operand⦄ ⦃a : List Operand⦄ (ha : Avail names Δ A s)
    (h₁ : lowerOpt dispatch ctx s = .ok (d, s₁)) (h₂ : lowerOpt extension ctx s₁ = .ok (e, s₂))
    (h₃ : lowerList args ctx s₂ = .ok (a, s₃)) :
    ∃ A', Avail names Δ A' s₃ ∧ Grows names Δ s A s₃ A' ∧
      ∀ o ∈ d.toList ++ e.toList ++ a, Covered names s₃ A' o := by
  obtain ⟨A₁, a₁, g₁, c₁⟩ := hd ha h₁
  obtain ⟨A₂, a₂, g₂, c₂⟩ := he a₁ h₂
  obtain ⟨A₃, a₃, g₃, c₃⟩ := hargs a₂ h₃
  refine ⟨A₃, a₃, g₁.trans (g₂.trans g₃), fun o ho => ?_⟩
  rcases List.mem_append.1 ho with ho | ho
  · rcases List.mem_append.1 ho with ho | ho
    · exact (c₁ o ho).grow (g₂.trans g₃)
    · exact (c₂ o ho).grow g₃
  · exact c₃ o ho

theorem unsupported_defines {k : ExprKind} {ty span}
    (hk : (∃ args, k = .stringConcat args) ∨ (∃ cls, k = .classReference cls) ∨
      (∃ fn, k = .functionReference fn) ∨ (∃ cls name, k = .enumEntry cls name)) :
    Defines names (lowerKind k ty span) (fun v => [v]) ctx Δ Δ := by
  intro A s s' v ha h
  obtain ⟨what, h⟩ := unsupported_steps hk h
  rw [unsupportedNode_run] at h; cases h
  obtain ⟨a₁, g₁⟩ := ha.warn _ _ _
  exact ⟨A, a₁, g₁, Covered.single (Covered.of_vars_nil rfl)⟩

theorem literalOperand_vars (l : Tree.Literal) : (literalOperand l).vars = [] := by
  cases l <;> rfl

end Constructs

/-! ## Every lowering

By induction over the tree, every lowering of a scoped, regular tree keeps `Avail`; a declaration
brings its local into scope for what follows it. -/

section Lowering

variable {names : List String} {ctx : Context}

mutual

theorem lowerExpr_defines : ∀ (e : Expr) (Δ : List LocalId), e.scoped Δ = true →
    Regular names e.nodes → Defines names (lowerExpr e) (fun v => [v]) ctx Δ (e.declared ++ Δ)
  | .node k ty span, Δ => fun hs hr => by
    intro _ _ _ _ ha h
    exact lowerKind_defines k ty span Δ hs hr ha (by rwa [lowerExpr_node] at h)

theorem lowerKind_defines : ∀ (k : ExprKind) (ty : Tree.Ty) (span : Span) (Δ : List LocalId),
    k.scoped Δ = true → Regular names (.node k ty span :: k.nodes) →
    Defines names (lowerKind k ty span) (fun v => [v]) ctx Δ ((Expr.node k ty span).declared ++ Δ)
  | .literal l, ty, span, Δ => fun _ _ => by
    intro _ _ _ _ ha h
    obtain ⟨rfl, rfl⟩ := literal_steps h
    exact ⟨_, ha, Grows.refl _ _ _, Covered.single (Covered.of_vars_nil (literalOperand_vars l))⟩
  | .typeOp op arg operand, ty, span, Δ => fun hs hr => by
    intro _ _ _ _ ha h
    have harg := Defines.drop (lowerExpr_defines arg Δ hs hr.tail)
    cases op with
    | cast | safeCast =>
      obtain ⟨a, s₁, t, s₂, dst, s₃, h₁, h₂, h₃, h₄⟩ := cast_steps (by simp) h
      obtain ⟨A₁, a₁, g₁, c₁⟩ := harg ha h₁
      obtain ⟨A₄, a₄, g₄, c₄⟩ := freshEmit_avail a₁ h₂ h₃ rfl (by exact c₁) h₄
      exact ⟨A₄, a₄, g₁.trans g₄, c₄⟩
    | implicitCast => exact harg ha (implicitCast_steps h)
    | implicitNotNull =>
      obtain ⟨a, s₁, h₁, rfl, rfl⟩ := implicitNotNull_steps h
      obtain ⟨A₁, a₁, g₁, -⟩ := harg ha h₁
      obtain ⟨a₂, g₂⟩ := a₁.warn _ _ _
      exact ⟨A₁, a₂, g₁.trans g₂, Covered.single (Covered.of_vars_nil rfl)⟩
    | coercionToUnit =>
      obtain ⟨a, h₁, rfl⟩ := coercionToUnit_steps h
      obtain ⟨A₁, a₁, g₁, -⟩ := harg ha h₁
      exact ⟨A₁, a₁, g₁, Covered.single (Covered.of_vars_nil rfl)⟩
    | integerCoercion =>
      obtain ⟨a, s₁, -, h₁, h₂⟩ := integerCoercion_steps h
      obtain ⟨A₁, a₁, g₁, c₁⟩ := harg ha h₁
      obtain ⟨A₂, a₂, g₂, c₂⟩ := coerceInteger_avail a₁ (c₁ a List.mem_cons_self) h₂
      exact ⟨A₂, a₂, g₁.trans g₂, Covered.single c₂⟩
    | instanceOf | notInstanceOf =>
      obtain ⟨a, s₁, t, s₂, dst, s₃, h₁, h₂, h₃, h₄⟩ := typeTest_steps (by simp) h
      obtain ⟨A₁, a₁, g₁, c₁⟩ := harg ha h₁
      obtain ⟨A₄, a₄, g₄, c₄⟩ := freshEmit_avail a₁ h₂ h₃ rfl (by exact c₁) h₄
      exact ⟨A₄, a₄, g₁.trans g₄, c₄⟩
  | .call callee dispatch extension args, ty, span, Δ => fun hs hr => by
    intro _ _ _ _ ha h
    simp only [ExprKind.scoped, Bool.and_eq_true] at hs
    -- every shape lowers the receivers and the arguments in the same order
    have ops := callOperands_defines (lowerOpt_defines dispatch Δ hs.1.1 hr.tail.left.left)
      (lowerOpt_defines extension Δ hs.1.2 hr.tail.left.right)
      (lowerList_defines args Δ hs.2 hr.tail.right)
    cases hshape : CallShape.of callee dispatch extension args with
    | intrinsic =>
      obtain ⟨intr, d, s₁, e, s₂, a, s₃, -, h₁, h₂, h₃, h₄⟩ := intrinsicCall_steps hshape h
      obtain ⟨A₃, a₃, g₃, c₃⟩ := ops ha h₁ h₂ h₃
      obtain ⟨A₄, a₄, g₄, c₄⟩ := applyIntrinsic_avail a₃ c₃ h₄
      exact ⟨A₄, a₄, g₃.trans g₄, Covered.single c₄⟩
    | arithmetic op =>
      obtain ⟨d, s₁, e, s₂, a, s₃, t, s₄, dst, s₅, h₁, h₂, h₃, h₄, h₅, h₆⟩ :=
        arithmeticCall_steps hshape h
      obtain ⟨A₃, a₃, g₃, c₃⟩ := ops ha h₁ h₂ h₃
      obtain ⟨A₆, a₆, g₆, c₆⟩ := freshEmit_avail a₃ h₄ h₅ rfl
        (by exact Covered.pair (Covered.getD c₃ 0) (Covered.getD c₃ 1)) h₆
      exact ⟨A₆, a₆, g₃.trans g₆, c₆⟩
    | construct cls =>
      obtain ⟨k, s₁, obj, s₂, u, s₃, d, s₄, e, s₅, a, s₆, fn, s₇, r,
        h₁, h₂, h₃, h₄, h₅, h₆, h₇, h₈, rfl⟩ := constructCall_steps hshape h
      obtain ⟨a₁, g₁⟩ := klassId_avail ha h₁
      obtain ⟨a₂, g₂⟩ := freshVar_avail a₁ h₂
      obtain ⟨A₃, a₃, g₃, -, c₃, -⟩ := emit_plain_avail a₂ rfl (by simp [Instr.operands]) h₃
      have hobj : Covered names s₃ A₃ (.var obj) := c₃
      obtain ⟨A₆, a₆, g₆, c₆⟩ := ops a₃ h₄ h₅ h₆
      obtain ⟨a₇, g₇⟩ := calleeFor_avail a₆ h₇
      -- the new object is the receiver of its constructor and the value of the call
      obtain ⟨A₈, a₈, g₈, -⟩ := generateCall_avail a₇
        (Covered.cons (hobj.grow (g₆.trans g₇)) fun o ho => (c₆ o ho).grow g₇) h₈
      exact ⟨A₈, a₈, g₁.trans (g₂.trans (g₃.trans (g₆.trans (g₇.trans g₈)))),
        Covered.single (hobj.grow (g₆.trans (g₇.trans g₈)))⟩
    | plain =>
      obtain ⟨d, s₁, e, s₂, a, s₃, ret, s₄, fn, s₅, h₁, h₂, h₃, h₄, h₅, h₆⟩ :=
        plainCall_steps hshape h
      obtain ⟨A₃, a₃, g₃, c₃⟩ := ops ha h₁ h₂ h₃
      obtain ⟨a₄, g₄⟩ := lowerType_avail a₃ h₄
      obtain ⟨a₅, g₅⟩ := calleeFor_avail a₄ h₅
      obtain ⟨A₆, a₆, g₆, c₆⟩ := generateCall_avail a₅ (fun o ho => (c₃ o ho).grow (g₄.trans g₅)) h₆
      exact ⟨A₆, a₆, g₃.trans (g₄.trans (g₅.trans g₆)), Covered.single c₆⟩
  | .delegatingCall callee args, ty, span, Δ => fun hs hr => by
    intro _ _ _ _ ha h
    obtain ⟨receiver, a, s₁, fn, s₂, hrcv, h₁, h₂, h₃⟩ := delegatingCall_steps h
    obtain ⟨A₁, a₁, g₁, c₁⟩ := lowerList_defines args Δ hs hr.tail ha h₁
    obtain ⟨a₂, g₂⟩ := calleeFor_avail a₁ h₂
    -- the receiver is the first parameter of the function
    have hp : Covered names s₂ A₁ (.var receiver) :=
      Covered.param (by rw [g₂.params, g₁.params]; exact List.mem_of_mem_head? hrcv)
    obtain ⟨A₃, a₃, g₃, c₃⟩ := generateCall_avail a₂
      (Covered.cons hp fun o ho => (c₁ o ho).grow g₂) h₃
    exact ⟨A₃, a₃, g₁.trans (g₂.trans g₃), Covered.single c₃⟩
  | .instanceInit cls, ty, span, Δ => fun _ _ => by
    intro _ _ _ _ ha h
    obtain ⟨rfl, rfl⟩ := instanceInit_steps h
    exact ⟨_, ha, Grows.refl _ _ _, Covered.single (Covered.of_vars_nil rfl)⟩
  | .block stmts, ty, span, Δ => fun hs hr => by
    intro _ _ _ _ ha h
    exact lowerBlock_defines stmts Δ hs hr.tail ha (block_steps h)
  | .whileLoop loop cond body, ty, span, Δ => fun hs hr => by
    simp only [ExprKind.scoped, Bool.and_eq_true] at hs
    exact whileLoop_defines (Defines.drop (lowerExpr_defines cond Δ hs.1 hr.tail.left))
      (lowerOpt_defines body Δ hs.2 hr.tail.right)
  | .doWhile loop cond body, ty, span, Δ => fun hs hr => by
    simp only [ExprKind.scoped, Bool.and_eq_true] at hs
    exact doWhile_defines (Defines.drop (lowerExpr_defines cond Δ hs.1 hr.tail.left))
      (lowerOpt_defines body Δ hs.2 hr.tail.right)
  | .breakLoop loop, ty, span, Δ => fun _ _ => by
    intro _ _ _ _ ha h
    obtain ⟨fr, u, h₁, h₂, rfl⟩ := breakLoop_steps h
    exact loopJump_defines ha (findLoop_mem h₁).1 (.inr rfl) h₂
  | .continueLoop loop, ty, span, Δ => fun _ _ => by
    intro _ _ _ _ ha h
    obtain ⟨fr, u, h₁, h₂, rfl⟩ := continueLoop_steps h
    exact loopJump_defines ha (findLoop_mem h₁).1 (.inl rfl) h₂
  | .ret target value, ty, span, Δ => fun hs hr => by
    intro _ _ _ _ ha h
    obtain ⟨a, s₁, u, h₁, h₂, hv⟩ := ret_steps h
    obtain ⟨A₁, a₁, g₁, c₁⟩ := Defines.drop (lowerExpr_defines value Δ hs hr.tail) ha h₁
    obtain ⟨A₂, a₂, g₂, -, -, -⟩ := emit_avail a₁ (by exact c₁) Edges.ret h₂
    refine ⟨A₂, a₂, g₁.trans g₂, Covered.single ?_⟩
    rcases hv with rfl | rfl
    · exact Covered.of_vars_nil rfl
    · exact (c₁ _ List.mem_cons_self).grow g₂
  | .whenArms arms, ty, span, Δ => fun hs hr =>
    whenArms_defines (lowerArms_defines arms Δ hs hr.tail) hr.head.1
  | .declare var name varTy init, ty, span, Δ => fun hs hr => by
    intro _ _ _ _ ha h
    simp only [ExprKind.scoped, Bool.and_eq_true, Bool.not_eq_true', decide_eq_false_iff_not] at hs
    obtain ⟨o, s₁, h₁, rfl, rfl⟩ := declare_steps h
    obtain ⟨A₁, a₁, g₁, c₁⟩ := lowerOpt_defines init Δ hs.2 hr.tail ha h₁
    have co : Covered names s₁ A₁ (o.getD .null) := by
      cases o with
      | none => exact Covered.of_vars_nil rfl
      | some a => exact c₁ a List.mem_cons_self
    -- the declared local is not in scope yet: the locals in scope keep their bindings
    have ek : EnvKeeps names Δ s₁ { s₁ with env := [(var, o.getD .null)] ++ s₁.env } :=
      EnvKeeps.bind_fresh (by simpa using hs.1)
    exact ⟨A₁, a₁.bind co, g₁.trans (Grows.env_only ek), Covered.single (Covered.of_vars_nil rfl)⟩
  | .assign var name value, ty, span, Δ => fun hs hr => by
    intro _ _ _ _ ha h
    obtain ⟨a, s₁, u, s₂, h₁, h₂, rfl, rfl⟩ := assign_steps h
    have hn : name ∈ names := hr.head.2 name rfl
    obtain ⟨A₁, a₁, g₁, c₁⟩ := Defines.drop (lowerExpr_defines value Δ hs hr.tail) ha h₁
    obtain ⟨A₂, a₂, g₂, -, -, -⟩ := emit_plain_avail a₁ rfl (by exact c₁) h₂
    -- the local is bound to the variable the assignment writes, which is exempt by its name
    exact ⟨A₂, (a₂.bind (Covered.named hn)).mono (List.subset_cons_self _ _),
      g₁.trans (g₂.trans (Grows.env_only (EnvKeeps.bind_named hn))),
      Covered.single (Covered.of_vars_nil rfl)⟩
  | .read var name, ty, span, Δ => fun hs _ => by
    intro _ _ _ _ ha h
    rcases read_steps h with ⟨hv, rfl⟩ | ⟨-, rfl, rfl⟩
    · exact ⟨_, ha, Grows.refl _ _ _, Covered.single (ha.env var (of_decide_eq_true hs) _ hv)⟩
    · obtain ⟨a₁, g₁⟩ := ha.warn _ _ _
      exact ⟨_, a₁, g₁, Covered.single (Covered.of_vars_nil rfl)⟩
  | .vararg elems, ty, span, Δ => fun hs hr => by
    intro _ _ _ _ ha h
    obtain ⟨vs, s₁, t, h₁, h₂, rfl⟩ := vararg_steps h
    obtain ⟨A₁, a₁, g₁, c₁⟩ := lowerVararg_defines elems Δ hs hr.tail ha h₁
    obtain ⟨a₂, g₂⟩ := lowerType_avail a₁ h₂
    exact ⟨A₁, a₂, g₁.trans g₂, Covered.single (Covered.elements fun o ho => (c₁ o ho).grow g₂)⟩
  | .throw value, ty, span, Δ => fun hs hr => by
    intro _ _ _ _ ha h
    obtain ⟨a, s₁, h₁, rfl, rfl⟩ := throw_steps h
    obtain ⟨A₁, a₁, g₁, -⟩ := Defines.drop (lowerExpr_defines value Δ hs hr.tail) ha h₁
    obtain ⟨a₂, g₂⟩ := a₁.warn _ _ _
    exact ⟨A₁, a₂, g₁.trans g₂, Covered.single (Covered.of_vars_nil rfl)⟩
  | .tryCatch body catches, ty, span, Δ => fun hs hr => by
    simp only [ExprKind.scoped, Bool.and_eq_true] at hs
    exact tryCatch_defines (Defines.drop (lowerExpr_defines body Δ hs.1 hr.tail.left))
      (lowerHandlers_defines catches Δ _ hs.2 hr.tail.right)
      (Catch.param_not_mem_of_listScoped hs.2)
  | .getField field none, ty, span, Δ => fun _ _ => by
    intro _ _ _ _ ha h
    obtain ⟨address, offset, s₁, t, s₂, dst, s₃, hrcv, h₂, h₃, h₄⟩ := getField_steps h
    obtain ⟨-, rfl, rfl, rfl⟩ | ⟨r, s₀, hrcv, -⟩ := hrcv
    · exact freshEmit_avail ha h₂ h₃ rfl (by exact Covered.single (Covered.of_vars_nil rfl)) h₄
    · cases hrcv
  | .getField field (some r), ty, span, Δ => fun hs hr => by
    intro _ _ _ _ ha h
    obtain ⟨address, offset, s₁, t, s₂, dst, s₃, hrcv, h₂, h₃, h₄⟩ := getField_steps h
    obtain ⟨hrcv, -⟩ | ⟨r', s₀, hrcv, h₀, h₁⟩ := hrcv
    · cases hrcv
    · cases hrcv
      obtain ⟨a₀, g₀⟩ := fieldOffset_avail ha h₀
      obtain ⟨A₁, a₁, g₁, c₁⟩ := Defines.drop (lowerExpr_defines r Δ hs hr.tail) a₀ h₁
      obtain ⟨A₄, a₄, g₄, c₄⟩ := freshEmit_avail a₁ h₂ h₃ rfl (by exact c₁) h₄
      exact ⟨A₄, a₄, g₀.trans (g₁.trans g₄), c₄⟩
  | .setField field none value, ty, span, Δ => fun hs hr => by
    intro _ _ _ _ ha h
    obtain ⟨address, offset, s₁, a, s₂, u, hrcv, h₂, h₃, rfl⟩ := setField_steps h
    obtain ⟨-, rfl, rfl, rfl⟩ | ⟨r, s₀, hrcv, -⟩ := hrcv
    · obtain ⟨A₂, a₂, g₂, c₂⟩ := Defines.drop (lowerExpr_defines value Δ hs hr.tail) ha h₂
      obtain ⟨A₃, a₃, g₃, -, -, -⟩ := emit_plain_avail a₂ rfl
        (by exact Covered.pair (c₂ a List.mem_cons_self) (Covered.of_vars_nil rfl)) h₃
      exact ⟨A₃, a₃, g₂.trans g₃, Covered.single (Covered.of_vars_nil rfl)⟩
    · cases hrcv
  | .setField field (some r) value, ty, span, Δ => fun hs hr => by
    intro _ _ _ _ ha h
    obtain ⟨address, offset, s₁, a, s₂, u, hrcv, h₂, h₃, rfl⟩ := setField_steps h
    obtain ⟨hrcv, -⟩ | ⟨r', s₀, hrcv, h₀, h₁⟩ := hrcv
    · cases hrcv
    · cases hrcv
      simp only [ExprKind.scoped, Expr.optScoped, Bool.and_eq_true] at hs
      obtain ⟨a₀, g₀⟩ := fieldOffset_avail ha h₀
      obtain ⟨A₁, a₁, g₁, c₁⟩ := Defines.drop (lowerExpr_defines r Δ hs.1 hr.tail.left) a₀ h₁
      obtain ⟨A₂, a₂, g₂, c₂⟩ := Defines.drop (lowerExpr_defines value Δ hs.2 hr.tail.right) a₁ h₂
      obtain ⟨A₃, a₃, g₃, -, -, -⟩ := emit_plain_avail a₂ rfl
        (by exact Covered.pair (c₂ a List.mem_cons_self) ((c₁ address List.mem_cons_self).grow g₂))
        h₃
      exact ⟨A₃, a₃, g₀.trans (g₁.trans (g₂.trans g₃)), Covered.single (Covered.of_vars_nil rfl)⟩
  | .objectValue cls, ty, span, Δ => fun _ _ => by
    intro _ _ _ _ ha h
    obtain ⟨A', a', g', c'⟩ := objectValue_avail ha (objectValue_steps' h)
    exact ⟨A', a', g', Covered.single c'⟩
  | .stringConcat args, ty, span, Δ => fun _ _ => unsupported_defines (.inl ⟨args, rfl⟩)
  | .classReference cls, ty, span, Δ => fun _ _ => unsupported_defines (.inr (.inl ⟨cls, rfl⟩))
  | .functionReference fn, ty, span, Δ => fun _ _ =>
    unsupported_defines (.inr (.inr (.inl ⟨fn, rfl⟩)))
  | .enumEntry cls name, ty, span, Δ => fun _ _ =>
    unsupported_defines (.inr (.inr (.inr ⟨cls, name, rfl⟩)))

theorem lowerOpt_defines : ∀ (e : Option Expr) (Δ : List LocalId), Expr.optScoped Δ e = true →
    Regular names (Expr.optNodes e) → Defines names (lowerOpt e) Option.toList ctx Δ Δ
  | none, Δ => fun _ _ => by
    intro _ _ _ _ ha h
    obtain ⟨rfl, rfl⟩ := lowerOpt_none_steps h
    exact ⟨_, ha, Grows.refl _ _ _, fun o ho => absurd ho List.not_mem_nil⟩
  | some e, Δ => fun hs hr => by
    intro _ _ _ _ ha h
    obtain ⟨a, h₁, rfl⟩ := lowerOpt_some_steps h
    exact Defines.drop (lowerExpr_defines e Δ hs hr) ha h₁

theorem lowerList_defines : ∀ (es : List Expr) (Δ : List LocalId), Expr.listScoped Δ es = true →
    Regular names (Expr.listNodes es) → Defines names (lowerList es) id ctx Δ Δ
  | [], Δ => fun _ _ => by
    intro _ _ _ _ ha h
    obtain ⟨rfl, rfl⟩ := lowerList_nil_steps h
    exact ⟨_, ha, Grows.refl _ _ _, fun o ho => absurd ho List.not_mem_nil⟩
  | e :: es, Δ => fun hs hr => by
    intro _ _ _ _ ha h
    simp only [Expr.listScoped, Bool.and_eq_true] at hs
    obtain ⟨a, s₁, as, h₁, h₂, rfl⟩ := lowerList_cons_steps h
    obtain ⟨A₁, a₁, g₁, c₁⟩ := Defines.drop (lowerExpr_defines e Δ hs.1 hr.left) ha h₁
    obtain ⟨A₂, a₂, g₂, c₂⟩ := lowerList_defines es Δ hs.2 hr.right a₁ h₂
    exact ⟨A₂, a₂, g₁.trans g₂, Covered.cons ((c₁ a List.mem_cons_self).grow g₂) c₂⟩

theorem lowerBlock_defines : ∀ (es : List Expr) (Δ : List LocalId), Expr.blockScoped Δ es = true →
    Regular names (Expr.listNodes es) → Defines names (lowerBlock es) (fun v => [v]) ctx Δ Δ
  | [], Δ => fun _ _ => by
    intro _ _ _ _ ha h
    obtain ⟨rfl, rfl⟩ := lowerBlock_nil_steps h
    exact ⟨_, ha, Grows.refl _ _ _, Covered.single (Covered.of_vars_nil rfl)⟩
  | [e], Δ => fun hs hr => by
    intro _ _ _ _ ha h
    simp only [Expr.blockScoped, Bool.and_eq_true] at hs
    rw [lowerBlock_single] at h
    exact Defines.drop (lowerExpr_defines e Δ hs.1 hr.left) ha h
  | e :: e' :: es, Δ => fun hs hr => by
    intro _ _ _ _ ha h
    rw [Expr.blockScoped, Bool.and_eq_true] at hs
    obtain ⟨a, s₁, h₁, h₂⟩ := lowerBlock_cons_steps h
    obtain ⟨A₁, a₁, g₁, -⟩ := lowerExpr_defines e Δ hs.1 hr.left ha h₁
    obtain ⟨A₂, a₂, g₂, c₂⟩ := lowerBlock_defines (e' :: es) (e.declared ++ Δ) hs.2 hr.right a₁ h₂
    exact ⟨A₂, a₂.mono (List.subset_append_right _ _),
      g₁.trans (g₂.mono (List.subset_append_right _ _)), c₂⟩

theorem lowerArms_defines : ∀ (arms : List Arm) (Δ : List LocalId), Arm.listScoped Δ arms = true →
    Regular names (Arm.listNodes arms) → ∀ result exit, ArmsDefine names arms result exit ctx Δ
  | [], Δ => fun _ _ _ _ => lowerArms_nil_defines
  | .mk cond res :: rest, Δ => fun hs hr result exit => by
    simp only [Arm.listScoped, Bool.and_eq_true] at hs
    exact lowerArms_cons_defines (Defines.drop (lowerExpr_defines cond Δ hs.1.1 hr.left.left))
      (Defines.drop (lowerExpr_defines res Δ hs.1.2 hr.left.right))
      (lowerArms_defines rest Δ hs.2 hr.right result exit)

theorem lowerHandlers_defines : ∀ (cs : List Catch) (Δ Δh : List LocalId),
    Catch.listScoped Δ Δh cs = true → Regular names (Catch.listNodes cs) →
    ∀ exn result exit, HandlersDefine names cs exn result exit ctx Δh
  | [], Δ, Δh => fun _ _ _ _ _ => lowerHandlers_nil_defines
  | .mk p n ty res :: cs, Δ, Δh => fun hs hr exn result exit => by
    simp only [Catch.listScoped, Bool.and_eq_true] at hs
    exact lowerHandlers_cons_defines (Defines.drop (lowerExpr_defines res Δh hs.1.2 hr.left))
      (lowerHandlers_defines cs Δ Δh hs.2 hr.right exn result exit)

theorem lowerVararg_defines : ∀ (elems : List VarargElem) (Δ : List LocalId),
    VarargElem.listScoped Δ elems = true → Regular names (VarargElem.listNodes elems) →
    Defines names (lowerVararg elems) id ctx Δ Δ
  | [], Δ => fun _ _ => by
    intro _ _ _ _ ha h
    obtain ⟨rfl, rfl⟩ := lowerVararg_nil_steps h
    exact ⟨_, ha, Grows.refl _ _ _, fun o ho => absurd ho List.not_mem_nil⟩
  | .value e :: rest, Δ => fun hs hr => by
    intro _ _ _ _ ha h
    simp only [VarargElem.listScoped, Bool.and_eq_true] at hs
    obtain ⟨a, s₁, as, h₁, h₂, rfl⟩ := lowerVararg_value_steps h
    obtain ⟨A₁, a₁, g₁, c₁⟩ := Defines.drop (lowerExpr_defines e Δ hs.1 hr.left) ha h₁
    obtain ⟨A₂, a₂, g₂, c₂⟩ := lowerVararg_defines rest Δ hs.2 hr.right a₁ h₂
    exact ⟨A₂, a₂, g₁.trans g₂, Covered.cons ((c₁ a List.mem_cons_self).grow g₂) c₂⟩
  | .spread e :: rest, Δ => fun _ _ => by
    intro _ _ _ _ _ h
    exact (lowerVararg_spread h).elim

end

end Lowering

end Isel.Lower
