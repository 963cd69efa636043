import Isel.Proofs.Chains

/-! # Landing blocks

A call lowered while a landing block is set becomes an `invoke` that goes on at a fresh block
and unwinds to the landing block; otherwise it becomes a `call` and lowering stays in its block
(`generateCall_shape`). Only a `try` with handlers sets a landing block, and only for its body.
Its handlers come first, from a fresh header block that starts with a landing pad defining the
exception, under the landing block around the `try`, with every handler's parameter bound to
the exception (`tryCatch_header`); all but the last are entered through an instance test
(`lowerHandlers_test_edges`). The header is entered exactly by the calls of the body that no
inner `try` protects, and counted over any tree the protected calls become invokes
(`lowerExpr_tally`).
-/

namespace Isel.Lower

open Isel.Graph (Operand Instr Var Block BlocksGrow)
open Isel.Tree (Expr Catch LocalId)

variable {ctx : Context} {P : Cursor → Prop} {s s' : State}

/-! ## Calls -/

/-- A call: outside a protected region a `call` at the end of the block at the cursor, with no
edge; inside, an `invoke` whose normal successor is a fresh block, where lowering goes on, and
whose other successor is the landing block. -/
theorem generateCall_shape {callee : Nat} {ret : Graph.Ty} {args : List Operand} {v : Operand}
    (hr : InRange s) (h : generateCall callee ret args ctx s = .ok (v, s')) :
    ∃ dst, v = (dst.map Operand.var).getD .unit ∧
      ((s.landing = none ∧ s'.curBlock.instrs.getLast? = some (.call callee dst args) ∧
          ∀ t, s'.curFn.inDegree t = s.curFn.inDegree t) ∨
        ∃ (l g : Nat), s.landing = some l ∧ s'.cursor.block = s.curFn.blocks.length ∧
          s'.curBlock.instrs = [] ∧
          (∃ blk : Block, s'.curFn.blocks[g]? = some blk ∧
            blk.instrs.getLast? = some (.invoke callee dst args s.curFn.blocks.length l)) ∧
          ∀ t, s'.curFn.inDegree t = s.curFn.inDegree t + [s.curFn.blocks.length, l].count t) := by
  obtain ⟨dst, s₁, hd, hv, hcall⟩ := generateCall_steps h
  -- the destination, if there is one, is a fresh variable: no block changes
  have n₁ : s₁.curFn.blocks = s.curFn.blocks ∧ s₁.cursor = s.cursor ∧ s₁.landing = s.landing ∧
      InRange s₁ := by
    rcases hd with ⟨-, -, rfl⟩ | ⟨-, d, hf, -⟩
    · exact ⟨rfl, rfl, rfl, hr⟩
    · obtain ⟨fb, fc, -⟩ := freshVar_frame hr hf
      exact ⟨fb, fc, (freshVar_keeps hf).landing,
        (freshVar_quiet (n := 0) (L := []) (D := none) hr (Nat.zero_le _) hf).inRange⟩
  obtain ⟨fb, fc, fl, r₁⟩ := n₁
  have hlen : s₁.curFn.blocks.length = s.curFn.blocks.length := by rw [fb]
  refine ⟨dst, hv, ?_⟩
  rcases hcall with ⟨hl, u, he⟩ | ⟨l, normal, s₂, u, s₃, hl, hb, he, rfl⟩
  · obtain ⟨e, -⟩ := emit_effect r₁ he
    refine .inl ⟨fl ▸ hl, (emit_last r₁ he).2, fun t => ?_⟩
    rw [e t, inDegree_of_blocks fb]
    simp [Instr.successors]
  · obtain ⟨rfl, l₂, t₂⟩ := newBlock_tally (n := 0) (L := []) (D := none) r₁ (Nat.zero_le _) hb
    obtain ⟨e, -, -, fr₃, -, -⟩ := emit_effect t₂.inRange he
    obtain ⟨blk₃, last₃⟩ := emit_last t₂.inRange he
    rw [← hlen]
    refine .inr ⟨l, s₃.cursor.block, fl ▸ hl, rfl, ?_, ⟨s₃.curBlock, blk₃, last₃⟩, fun t => ?_⟩
    · -- the invoke went to the block at the cursor, older than the fresh one
      have hc : s₂.cursor.block < s₁.curFn.blocks.length := by
        rw [newBlock_cursor hb]
        exact r₁.2
      show (s₃.curFn.blocks.getD s₁.curFn.blocks.length default).instrs = []
      rw [List.getD_eq_getElem?_getD, fr₃ _ (by omega) (by omega), newBlock_block r₁ hb]
      rfl
    · rw [State.curFn_moveTo, e t, newBlock_inDegree r₁ hb, inDegree_of_blocks fb]
      rfl

/-! ## The header of a `try` -/

theorem lookup_param {e : Operand} {env : List (LocalId × Operand)} {cs : List Catch} {c : Catch}
    (hc : c ∈ cs) : ((cs.map fun c => (c.param, e)).reverse ++ env).lookup c.param = some e := by
  have hl : ∀ (l : List (LocalId × Operand)), (∀ p ∈ l, p.2 = e) → c.param ∈ l.map Prod.fst →
      l.lookup c.param = some e := by
    intro l
    induction l with
    | nil => intro _ hm; simp at hm
    | cons p l ih =>
      intro hv hm
      obtain ⟨k, o⟩ := p
      by_cases hk : c.param = k
      · subst hk
        rw [List.lookup_cons_self]
        exact congrArg some (hv _ List.mem_cons_self)
      · have hne : (c.param == k) = false := by simpa using hk
        simp only [List.lookup, hne]
        exact ih (fun q hq => hv q (List.mem_cons_of_mem _ hq)) (by simpa [hk] using hm)
  rw [List.lookup_append, hl _ (by simp) (by simpa using ⟨c, hc, rfl⟩), Option.some_or]

theorem catchHeader_start {exn : Var} {u : Operand} {header : Nat} {s₂ s₆ s₇ s₈ : State}
    (hr : InRange s₂) (h₆ : newBlock "catch.header" ctx s₂ = .ok (header, s₆))
    (h₇ : freshVar .ptr ctx (s₆.moveTo header) = .ok (exn, s₇))
    (h₈ : emit (.landingPad exn) ctx s₇ = .ok (u, s₈)) :
    header = s₂.curFn.blocks.length ∧ exn.ty = .ptr ∧ s₈.cursor.block = header ∧
      s₈.curFn.blocks[header]? = some ⟨"catch.header", [.landingPad exn]⟩ ∧
      s₈.curFn.blocks.length = header + 1 ∧ (∀ t, s₈.curFn.inDegree t = s₂.curFn.inDegree t) ∧
      Keeps s₂ s₈ ∧ InRange s₈ := by
  obtain ⟨rfl, l₆, t₆⟩ := newBlock_tally (n := 0) (L := []) (D := none) hr (Nat.zero_le _) h₆
  have r₆ : InRange (s₆.moveTo s₂.curFn.blocks.length) := t₆.inRange.moveTo (by omega)
  obtain ⟨f₇, c₇, ty₇⟩ := freshVar_frame r₆ h₇
  have r₇ := (freshVar_quiet (n := 0) (L := []) (D := none) r₆ (Nat.zero_le _) h₇).inRange
  -- the header is empty and open when the pad is emitted: the pad is its first instruction
  have hcb : s₇.curBlock = ⟨"catch.header", []⟩ := by
    show s₇.curFn.blocks.getD s₇.cursor.block default = _
    rw [f₇, c₇, List.getD_eq_getElem?_getD]
    simp [newBlock_block hr h₆]
  obtain rfl := emit_open (by rw [hcb]; rfl) h₈
  obtain ⟨e₈, -, -, len₈, r₈⟩ := push_effect r₇ (by rw [hcb]; rfl) (.landingPad exn)
  have hc₇ : s₇.cursor.block = s₂.curFn.blocks.length := by rw [c₇]; rfl
  refine ⟨rfl, ty₇, hc₇, ?_, by rw [len₈, f₇]; exact l₆, fun t => ?_, ?_, r₈⟩
  · rw [← hc₇]
    refine (State.block?_cursor r₈.2).trans ?_
    rw [State.curBlock_push r₇.1 r₇.2, hcb]
    rfl
  · rw [e₈ t, inDegree_of_blocks f₇, State.curFn_moveTo, newBlock_inDegree hr h₆]
    rfl
  · exact (((newBlock_keeps h₆).moveTo _).trans (freshVar_keeps h₇)).trans
      (Keeps.push s₇ _ (by rw [hcb]; rfl))

/-- A `try` with handlers. Its header, numbered right after its exit, starts with a landing pad
that defines a pointer `e`; the handlers are lowered from the header after the pad, under the
landing block and in the loops around the `try`, with every parameter bound to `e`. The body is
lowered where the `try` began, under the header, which exactly the calls of the body that no
inner `try` protects enter. Lowering goes on at the exit, under the landing block around the
`try`. -/
theorem tryCatch_header {body : Expr} {catches : List Catch} {ty : Tree.Ty} {span : Span}
    {v : Operand} (hb : Built P s) (hne : catches ≠ [])
    (h : lowerKind (.tryCatch body catches) ty span ctx s = .ok (v, s')) :
    s'.landing = s.landing ∧ s'.cursor.block = s.curFn.blocks.length ∧
    ∃ (e : Var) (result : Option Var) (sH sH' sB : State) (b : Operand) (sB' : State), e.ty = .ptr ∧
      (∃ (blk : Block) (rest : List Instr), s'.curFn.blocks[s.curFn.blocks.length + 1]? = some blk ∧
        blk.instrs = .landingPad e :: rest) ∧
      s'.curFn.inDegree (s.curFn.blocks.length + 1) = body.escapes.calls ∧
      sH.cursor.block = s.curFn.blocks.length + 1 ∧ sH.curBlock = ⟨"catch.header", [.landingPad e]⟩ ∧
      sH.landing = s.landing ∧
      sH.loops = s.loops ∧ (∀ c ∈ catches, sH.env.lookup c.param = some (.var e)) ∧
      lowerHandlers catches (.var e) result s.curFn.blocks.length ctx sH = .ok ((), sH') ∧
      sB.landing = some (s.curFn.blocks.length + 1) ∧ sB.loops = s.loops ∧ sB.cursor = s.cursor ∧
      lowerExpr body ctx sB = .ok (b, sB') := by
  obtain ⟨result, s₁, exit, s₂, s₃, b, s₄, s₅, h₁, h₂, h₃, h₄, h₅, rfl, -⟩ := tryCatch_steps h
  rcases h₃ with ⟨hc, -⟩ | ⟨-, header, s₆, exn, s₇, u, s₈, s₉, h₆, h₇, h₈, h₉, rfl⟩
  · exact absurd hc hne
  obtain ⟨f₁, c₁⟩ := resultVar_frame hb.inRange h₁
  have r₁ := (resultVar_built hb h₁).inRange
  obtain ⟨rfl, l₂, t₂⟩ := newBlock_tally (n := 0) (L := []) (D := none) r₁ (Nat.zero_le _) h₂
  obtain ⟨rfl, hty, hc₈, hblk₈, l₈, d₈, k₈, r₈⟩ := catchHeader_start t₂.inRange h₆ h₇ h₈
  have hx : s₁.curFn.blocks.length = s.curFn.blocks.length := by rw [f₁]
  have k₂ : Keeps s s₂ := (resultVar_keeps h₁).trans (newBlock_keeps h₂)
  rw [← hx, ← l₂]
  -- the handlers, sealed against the blocks up to the header
  have S₉ := lowerHandlers_sealed catches (n := s₈.curFn.blocks.length)
    (s := { s₈ with env := (catches.map fun c => (c.param, Operand.var exn)).reverse ++ s₈.env })
    r₈ (Nat.le_refl _) h₉
  have k₉ : Keeps s₂ s₉ := (k₈.bind _).trans S₉.keeps
  have hf₃ : ({ s₉ with cursor := s₂.cursor, landing := some s₂.curFn.blocks.length } :
      State).curFn = s₉.curFn := by
    show s₉.fn s₂.cursor.fn = s₉.fn s₉.cursor.fn
    rw [k₉.fn]
  have l₉ : s₂.curFn.blocks.length + 1 ≤ s₉.curFn.blocks.length := by
    have : s₈.curFn.blocks.length ≤ s₉.curFn.blocks.length := S₉.keeps.blocks.1
    omega
  -- the body, with the header as its landing block
  have r₃ : InRange { s₉ with cursor := s₂.cursor, landing := some s₂.curFn.blocks.length } :=
    ⟨Nat.lt_of_lt_of_le t₂.inRange.1 k₉.fnCount, by
      rw [hf₃]
      show s₂.cursor.block < _
      have := t₂.inRange.2
      omega⟩
  have tb := lowerExpr_tally body (n := s₂.curFn.blocks.length + 1) r₃ (by rw [hf₃]; omega) h₄
  have hu : Unnamed s.loops s.landing s₂.curFn.blocks.length := hb.unnamed (by omega)
  refine ⟨k₂.landing, rfl, exn, result,
    { s₈ with env := (catches.map fun c => (c.param, Operand.var exn)).reverse ++ s₈.env }, s₉,
    { s₉ with cursor := s₂.cursor, landing := some s₂.curFn.blocks.length }, b, s₄, hty, ?_, ?_, hc₈, ?_, k₈.landing.trans k₂.landing, k₈.loops.trans k₂.loops,
    fun c hc => lookup_param hc, h₉, rfl, k₉.loops.trans k₂.loops,
    (newBlock_cursor h₂).trans c₁, h₄⟩
  · -- the pad stays the first instruction of the header
    have g : BlocksGrow s₈.curFn.blocks s₅.curFn.blocks := by
      refine (S₉.keeps.blocks.trans ?_).trans (lowerExpr_keeps body h₄).blocks |>.trans
        (finishArm_keeps h₅).blocks
      rw [hf₃]
    obtain ⟨blk, hblk, pre⟩ := g.2 _ _ hblk₈
    obtain ⟨rest, hrest⟩ := pre
    exact ⟨blk, rest, hblk, hrest.symm⟩
  · -- calls of the body that unwind go to the header; nothing else enters it
    show s₅.curFn.inDegree s₂.curFn.blocks.length = _
    have h0 : ({ s₉ with cursor := s₂.cursor, landing := some s₂.curFn.blocks.length } :
        State).curFn.inDegree s₂.curFn.blocks.length = 0 := by
      rw [hf₃, S₉.inDegree _ (by omega) (by omega) (hu.keeps ((k₂.trans k₈).bind _))]
      show s₈.curFn.inDegree _ = 0
      rw [d₈, newBlock_inDegree r₁ h₂, inDegree_of_blocks f₁, hb.inDegree_eq_zero (by omega)]
    rw [finishArm_inDegree tb.inRange h₅ (by omega), tb.inDegree _ (by omega), h0]
    dsimp only
    rw [countP_resolve_of_unnamed (by rw [k₉.loops, k₂.loops]; exact hu.1), if_pos rfl]
    simp
  · -- the chain of handlers starts in the header, right after the pad
    show s₈.curFn.blocks.getD s₈.cursor.block default = _
    rw [List.getD_eq_getElem?_getD, hc₈, hblk₈]
    rfl

theorem tryCatch_nil_landing {body : Expr} {ty : Tree.Ty} {span : Span} {v : Operand}
    (hr : InRange s) (h : lowerKind (.tryCatch body []) ty span ctx s = .ok (v, s')) :
    s'.landing = s.landing ∧ ∃ (s₃ : State) (b : Operand) (s₄ : State), s₃.landing = s.landing ∧
      s₃.loops = s.loops ∧ s₃.cursor = s.cursor ∧ lowerExpr body ctx s₃ = .ok (b, s₄) := by
  obtain ⟨result, s₁, exit, s₂, s₃, b, s₄, s₅, h₁, h₂, h₃, h₄, -, rfl, -⟩ := tryCatch_steps h
  rcases h₃ with ⟨-, e₃⟩ | ⟨hne, -⟩
  · have k₂ : Keeps s s₂ := (resultVar_keeps h₁).trans (newBlock_keeps h₂)
    have c₂ : s₂.cursor = s.cursor := (newBlock_cursor h₂).trans (resultVar_frame hr h₁).2
    rw [e₃] at h₄
    exact ⟨k₂.landing, s₂, b, s₄, k₂.landing, k₂.loops, c₂, h₄⟩
  · exact absurd rfl hne

/-! ## The chain of handlers -/

theorem lowerHandlers_last (c : Catch) (exn : Operand) (result : Option Var) (exit : Nat) :
    lowerHandlers [c] exn result exit = (do let v ← lowerExpr c.result; finishArm v result exit) := by
  cases c
  rfl

theorem newBlock_curBlock {l : String} {b : Nat} (hr : InRange s)
    (h : newBlock l ctx s = .ok (b, s')) : s'.curBlock = s.curBlock := by
  obtain ⟨-, rfl, rfl⟩ := newBlock_ok h
  exact State.curBlock_addBlock hr.1 hr.2 l

/-- A tested handler, lowered from an open block. The block appends an instance test of the
exception against the handler's type and a branch on it to a fresh handler block, numbered
`|s|`, and to the next test, an empty block made right after it. Both are entered by these
edges alone; every path from the entry to the handler's code takes the true edge, and every path
to the rest of the chain the false edge. -/
theorem lowerHandlers_test_edges {c c' : Catch} {rest : List Catch} {exn : Operand}
    {result : Option Var} {exit : Nat} (hb : Built P s) (hx : exit < s.curFn.blocks.length)
    (ho : s.curBlock.isTerminal = false)
    (h : lowerHandlers (c :: c' :: rest) exn result exit ctx s = .ok ((), s')) :
    ∃ (t : Graph.Ty) (caught : Var) (s₁ s₆ : State) (a : Operand) (s₇ sN : State),
      lowerType c.ty ctx s = .ok (t, s₁) ∧ caught.ty = .boolean ∧
      s'.curFn.blocks[s.cursor.block]? = some { s.curBlock with instrs := s.curBlock.instrs ++
        [.typeTest .isInstance caught exn t,
          .condBr (.var caught) s.curFn.blocks.length (s.curFn.blocks.length + 1)] } ∧
      s'.curFn.preds s.curFn.blocks.length = [s.cursor.block] ∧
      s'.curFn.preds (s.curFn.blocks.length + 1) = [s.cursor.block] ∧
      lowerExpr c.result ctx (s₆.moveTo s.curFn.blocks.length) = .ok (a, s₇) ∧
      Built P sN ∧ exit < sN.curFn.blocks.length ∧ sN.cursor.block = s.curFn.blocks.length + 1 ∧
      sN.curBlock = ⟨"catch.next", []⟩ ∧
      lowerHandlers (c' :: rest) exn result exit ctx sN = .ok ((), s') ∧
      (∀ b, b = s.curFn.blocks.length ∨
          s₆.curFn.blocks.length ≤ b ∧ b < sN.curFn.blocks.length →
        s'.curFn.OnlyThrough (s.cursor.block, s.curFn.blocks.length) 0 b) ∧
      (∀ b, b = s.curFn.blocks.length + 1 ∨
          sN.curFn.blocks.length ≤ b ∧ b < s'.curFn.blocks.length →
        s'.curFn.OnlyThrough (s.cursor.block, s.curFn.blocks.length + 1) 0 b) := by
  obtain ⟨t, s₁, caught, s₂, u₁, s₃, body, s₄, next, s₅, u₂, s₆, a, s₇, s₈,
    h₁, h₂, h₃, h₄, h₅, h₆, h₇, h₈, h₉⟩ := lowerHandlers_test_steps h
  obtain ⟨b₃, e₆, b₈, hx₈⟩ :=
    lowerHandlers_test_states (lowerExpr_built c.result) hb hx h₁ h₂ h₃ h₄ h₅ h₆ h₇ h₈
  have b' := (lowerHandlers_built (c' :: rest) exn result exit b₈ hx₈ h₉).1
  -- the type and the test's variable change no block: the test goes into the open block
  have r₁ := (lowerType_quiet (n := 0) (L := []) (D := none) hb.inRange (Nat.zero_le _) h₁).inRange
  obtain ⟨f₁, c₁⟩ := lowerType_frame h₁
  obtain ⟨f₂, c₂, ty₂⟩ := freshVar_frame r₁ h₂
  have r₂ := (freshVar_quiet (n := 0) (L := []) (D := none) r₁ (Nat.zero_le _) h₂).inRange
  have cb₂ : s₂.curBlock = s.curBlock := by
    show s₂.curFn.blocks.getD s₂.cursor.block default = s.curFn.blocks.getD s.cursor.block default
    rw [f₂, c₂, f₁, c₁]
  obtain rfl := emit_open (by rw [cb₂]; exact ho) h₃
  obtain ⟨-, -, -, l₃, r₃⟩ := push_effect r₂ (by rw [cb₂]; exact ho) (.typeTest .isInstance caught exn t)
  have cb₃ := State.curBlock_push r₂.1 r₂.2 (.typeTest .isInstance caught exn t)
  have hl₃ : (s₂.push (.typeTest .isInstance caught exn t)).curFn.blocks.length =
      s.curFn.blocks.length := by rw [l₃, f₂, f₁]
  obtain ⟨hB, l₄, t₄⟩ := newBlock_tally (n := 0) (L := []) (D := none) r₃ (Nat.zero_le _) h₄
  obtain ⟨hN, l₅, t₅⟩ := newBlock_tally (n := 0) (L := []) (D := none) t₄.inRange (Nat.zero_le _) h₅
  have blk₅ := newBlock_block t₄.inRange h₅
  -- the branch follows the test in the same block
  have cb₅ : s₅.curBlock = { s.curBlock with instrs :=
      s.curBlock.instrs ++ [.typeTest .isInstance caught exn t] } := by
    rw [newBlock_curBlock t₄.inRange h₅, newBlock_curBlock r₃ h₄, cb₃, cb₂]
  have o₅ : s₅.curBlock.isTerminal = false := by
    rw [cb₅, Graph.Block.isTerminal, List.getLast?_concat]
    rfl
  obtain rfl := emit_open o₅ h₆
  rw [hl₃] at hB
  subst hB
  have hN' : next = s.curFn.blocks.length + 1 := by rw [hN, l₄]
  subst hN'
  obtain ⟨-, -, fr₆, len₆, r₆⟩ := push_effect t₅.inRange o₅
    (.condBr (.var caught) s.curFn.blocks.length (s.curFn.blocks.length + 1))
  have hcur : s₅.cursor.block = s.cursor.block := by
    rw [newBlock_cursor h₅, newBlock_cursor h₄]
    show s₂.cursor.block = _
    rw [c₂, c₁]
  have g₀ := hb.inRange.2
  -- the handler's code and its end, then the rest of the chain from the next test
  have t₇ := lowerExpr_tally c.result (n := (s₅.push _).curFn.blocks.length)
    (r₆.moveTo (show s.curFn.blocks.length < _ by omega)) (Nat.le_refl _) h₇
  have r₈ := finishArm_inRange t₇.inRange h₈
  have S₁ : Sealed _ exit _ _ _ s₈ := t₇.then (finishArm_then t₇.inRange t₇.grows h₈ (Sealed.refl r₈))
  have l₈ : (s₅.push _).curFn.blocks.length ≤ s₈.curFn.blocks.length := S₁.keeps.blocks.1
  have S₂ := lowerHandlers_sealed (c' :: rest) (n := s₈.curFn.blocks.length)
    (r₈.moveTo (show s.curFn.blocks.length + 1 < _ by omega)) (Nat.le_refl _) h₉
  have k₆ : Keeps s (s₅.push (.condBr (.var caught) s.curFn.blocks.length
      (s.curFn.blocks.length + 1))) :=
    ((lowerType_keeps h₁).trans (freshVar_keeps h₂)).trans
      ((Keeps.push s₂ _ (by rw [cb₂]; exact ho)).trans
      ((newBlock_keeps h₄).trans ((newBlock_keeps h₅).trans (Keeps.push s₅ _ o₅))))
  have k₈ : Keeps s (s₈.moveTo (s.curFn.blocks.length + 1)) :=
    ((k₆.moveTo _).trans S₁.keeps).moveTo _
  obtain ⟨hg, -, pr⟩ := branch_preds t₅.inRange h₆ (by omega) (by omega)
    ⟨by show s₅.cursor.block ≠ _; omega, by show s₅.cursor.block ≠ _; omega⟩ S₁ S₂
  -- the handler block and the next test are fresh: each is entered by the test's edge alone
  have fresh : ∀ y, (y = s.curFn.blocks.length ∨ y = s.curFn.blocks.length + 1) →
      s'.curFn.preds y = [s.cursor.block] := by
    intro y hy
    have hsy : s.curFn.blocks.length ≤ y := by rcases hy with rfl | rfl <;> omega
    have hu := hb.unnamed hsy
    rw [← hcur]
    refine pr y hy (by omega) (by omega) (hu.keeps (k₆.moveTo _)) (hu.keeps k₈) ?_
    rw [newBlock_inDegree t₄.inRange h₅, newBlock_inDegree r₃ h₄]
    exact b₃.inDegree_eq_zero (by omega)
  have pa := fresh _ (.inl rfl)
  have pN := fresh _ (.inr rfl)
  refine ⟨t, caught, s₁, s₅.push _, a, s₇, s₈.moveTo (s.curFn.blocks.length + 1), h₁, ty₂,
    ?_, pa, pN, h₇, b₈, hx₈, rfl, ?_, h₉, ?_, ?_⟩
  · rw [← hcur]
    refine hg.trans ?_
    rw [State.curBlock_push t₅.inRange.1 t₅.inRange.2, cb₅]
    simp
  · -- the next test is still the empty block made for it
    rw [State.curBlock_moveTo, List.getD_eq_getElem?_getD,
      S₁.frame _ (by omega) (by show _ ≠ s.curFn.blocks.length; omega), State.curFn_moveTo,
      fr₆ _ (by omega), blk₅]
    rfl
  · intro b hb'
    refine onlyThrough_region e₆ S₁ (fun y hy₁ hy₂ => ?_) pa
      (show s.curFn.blocks.length ≠ 0 by omega) b hb'
    have hy : (s₅.push _).curFn.blocks.length ≤ y := hy₁
    exact S₂.preds_eq b' hy₂ (by omega) ((hb.unnamed (by omega)).keeps k₈)
  · intro b hb'
    exact onlyThrough_region b₈ S₂ (fun _ _ _ => rfl) pN
      (show s.curFn.blocks.length + 1 ≠ 0 by omega) b hb'

/-! ## The landing discipline -/

/-- How calls and `try` are lowered. A call becomes a `call` that stays in its block when no
landing block is set, and otherwise an `invoke` that goes on at a fresh block and unwinds to the
landing block; over any tree, the calls no `try` of the tree protects go the one way or the other
by the landing block around the tree, and the protected ones all become invokes. A `try` without
handlers sets no landing block. A `try` with handlers makes a header that starts with a landing
pad defining a pointer `e`, lowers its handlers from there under the landing block around it with
every parameter bound to `e`, and lowers its body under the header, which the calls of the body
that no inner `try` protects enter, and nothing else; the landing block around it is restored
once it is done. Every handler but the last is entered through an instance test of `e` that
branches to it and to the next test; the last is entered with no test. -/
theorem try_landing_discipline :
    (∀ (callee : Nat) (ret : Graph.Ty) (args : List Operand) (ctx : Context) (s s' : State)
      (v : Operand), InRange s → generateCall callee ret args ctx s = .ok (v, s') →
      ∃ dst, v = (dst.map Operand.var).getD .unit ∧
        ((s.landing = none ∧ s'.curBlock.instrs.getLast? = some (.call callee dst args) ∧
            ∀ t, s'.curFn.inDegree t = s.curFn.inDegree t) ∨
          ∃ (l g : Nat), s.landing = some l ∧ s'.cursor.block = s.curFn.blocks.length ∧
            s'.curBlock.instrs = [] ∧
            (∃ blk : Block, s'.curFn.blocks[g]? = some blk ∧
              blk.instrs.getLast? = some (.invoke callee dst args s.curFn.blocks.length l)) ∧
            ∀ t, s'.curFn.inDegree t = s.curFn.inDegree t + [s.curFn.blocks.length, l].count t)) ∧
    (∀ (e : Expr) (ctx : Context) (s s' : State) (v : Operand), InRange s →
      lowerExpr e ctx s = .ok (v, s') →
      s'.curFn.countInstrs Instr.isCall = s.curFn.countInstrs Instr.isCall +
          (if s.landing = none then e.escapes.calls else 0) ∧
        s'.curFn.countInstrs Instr.isInvoke = s.curFn.countInstrs Instr.isInvoke +
          e.escapes.protectedCalls + (if s.landing = none then 0 else e.escapes.calls)) ∧
    (∀ (body : Expr) (ty : Tree.Ty) (span : Span) (ctx : Context) (s s' : State) (v : Operand),
      InRange s → lowerKind (.tryCatch body []) ty span ctx s = .ok (v, s') →
      s'.landing = s.landing ∧ ∃ (s₃ : State) (b : Operand) (s₄ : State),
        s₃.landing = s.landing ∧ s₃.loops = s.loops ∧ s₃.cursor = s.cursor ∧
        lowerExpr body ctx s₃ = .ok (b, s₄)) ∧
    (∀ (P : Cursor → Prop) (body : Expr) (catches : List Catch) (ty : Tree.Ty) (span : Span)
      (ctx : Context) (s s' : State) (v : Operand), Built P s → catches ≠ [] →
      lowerKind (.tryCatch body catches) ty span ctx s = .ok (v, s') →
      s'.landing = s.landing ∧ s'.cursor.block = s.curFn.blocks.length ∧
      ∃ (e : Var) (result : Option Var) (sH sH' sB : State) (b : Operand) (sB' : State),
        e.ty = .ptr ∧
        (∃ (blk : Block) (rest : List Instr),
          s'.curFn.blocks[s.curFn.blocks.length + 1]? = some blk ∧
          blk.instrs = .landingPad e :: rest) ∧
        s'.curFn.inDegree (s.curFn.blocks.length + 1) = body.escapes.calls ∧
        sH.cursor.block = s.curFn.blocks.length + 1 ∧
        sH.curBlock = ⟨"catch.header", [.landingPad e]⟩ ∧
        sH.landing = s.landing ∧ sH.loops = s.loops ∧
        (∀ c ∈ catches, sH.env.lookup c.param = some (.var e)) ∧
        lowerHandlers catches (.var e) result s.curFn.blocks.length ctx sH = .ok ((), sH') ∧
        sB.landing = some (s.curFn.blocks.length + 1) ∧ sB.loops = s.loops ∧
        sB.cursor = s.cursor ∧ lowerExpr body ctx sB = .ok (b, sB')) ∧
    (∀ (c : Catch) (exn : Operand) (result : Option Var) (exit : Nat),
      lowerHandlers [c] exn result exit =
        (do let v ← lowerExpr c.result; finishArm v result exit)) ∧
    (∀ (P : Cursor → Prop) (c c' : Catch) (rest : List Catch) (exn : Operand)
      (result : Option Var) (exit : Nat) (ctx : Context) (s s' : State), Built P s →
      exit < s.curFn.blocks.length → s.curBlock.isTerminal = false →
      lowerHandlers (c :: c' :: rest) exn result exit ctx s = .ok ((), s') →
      ∃ (t : Graph.Ty) (caught : Var) (s₁ s₆ : State) (a : Operand) (s₇ sN : State),
        lowerType c.ty ctx s = .ok (t, s₁) ∧ caught.ty = .boolean ∧
        s'.curFn.blocks[s.cursor.block]? = some { s.curBlock with instrs := s.curBlock.instrs ++
          [.typeTest .isInstance caught exn t,
            .condBr (.var caught) s.curFn.blocks.length (s.curFn.blocks.length + 1)] } ∧
        s'.curFn.preds s.curFn.blocks.length = [s.cursor.block] ∧
        s'.curFn.preds (s.curFn.blocks.length + 1) = [s.cursor.block] ∧
        lowerExpr c.result ctx (s₆.moveTo s.curFn.blocks.length) = .ok (a, s₇) ∧
        Built P sN ∧ exit < sN.curFn.blocks.length ∧ sN.cursor.block = s.curFn.blocks.length + 1 ∧
        sN.curBlock = ⟨"catch.next", []⟩ ∧
        lowerHandlers (c' :: rest) exn result exit ctx sN = .ok ((), s') ∧
        (∀ b, b = s.curFn.blocks.length ∨
            s₆.curFn.blocks.length ≤ b ∧ b < sN.curFn.blocks.length →
          s'.curFn.OnlyThrough (s.cursor.block, s.curFn.blocks.length) 0 b) ∧
        (∀ b, b = s.curFn.blocks.length + 1 ∨
            sN.curFn.blocks.length ≤ b ∧ b < s'.curFn.blocks.length →
          s'.curFn.OnlyThrough (s.cursor.block, s.curFn.blocks.length + 1) 0 b)) := by
  refine ⟨?_, ?_, ?_, ?_, lowerHandlers_last, ?_⟩
  · intro callee ret args ctx s s' v hr h
    exact generateCall_shape hr h
  · -- the tally of the tree, measured against no block
    intro e ctx s s' v hr h
    have tally := lowerExpr_tally e (n := 0) hr (Nat.zero_le _) h
    exact ⟨tally.calls, tally.invokes⟩
  · intro body ty span ctx s s' v hr h
    exact tryCatch_nil_landing hr h
  · intro P body catches ty span ctx s s' v hb hne h
    exact tryCatch_header hb hne h
  · intro P c c' rest exn result exit ctx s s' hb hx ho h
    exact lowerHandlers_test_edges hb hx ho h

/-- `try { g() } catch (e: C) { 0 }`: one call, protected by one handler. -/
def guardedCall : Expr :=
  .node (.tryCatch (.node (.call ⟨⟨2⟩, "g", .function⟩ none none []) .unit ⟨0, 0, 1, 1⟩)
    [.mk ⟨1⟩ "e" (.classRef ⟨3⟩) (.node (.literal (.int 0)) .int ⟨0, 0, 2, 1⟩)]) .unit ⟨0, 0, 1, 1⟩

/-- Lowered at the start of selection, the call becomes the one invoke and no plain call is
made; the header is entered by that invoke's unwinding edge alone, and the landing block is
unset again afterwards, as it is after a `try` with no handler. -/
theorem guardedCall_landing :
    (∃ v s', lowerExpr guardedCall ⟨[], 8⟩ (State.start "init") = .ok (v, s') ∧
      s'.curFn.countInstrs Instr.isCall = 0 ∧ s'.curFn.countInstrs Instr.isInvoke = 1 ∧
      s'.curFn.inDegree 2 = 1 ∧ s'.landing = none) ∧
    ∃ v s', lowerKind (.tryCatch (.node (.call ⟨⟨2⟩, "g", .function⟩ none none []) .unit
        ⟨0, 0, 1, 1⟩) []) .unit ⟨0, 0, 1, 1⟩ ⟨[], 8⟩ (State.start "init") = .ok (v, s') ∧
      s'.landing = none := by
  obtain ⟨-, hcount, hnil, htry, -, -⟩ := try_landing_discipline
  have hb := (Ready.start "init").built
  constructor
  · have hok : (lowerExpr guardedCall ⟨[], 8⟩ (State.start "init")).isOk = true := by decide +kernel
    cases h : lowerExpr guardedCall ⟨[], 8⟩ (State.start "init") with
    | error e =>
      rw [h] at hok
      cases hok
    | ok r =>
      obtain ⟨hc, hi⟩ := hcount _ _ _ _ _ hb.inRange h
      obtain ⟨hl, -, e, -, -, -, -, -, -, -, -, hin, -⟩ :=
        htry _ _ _ _ _ _ _ _ _ hb (List.cons_ne_nil _ _) (by rwa [guardedCall, lowerExpr_node] at h)
      exact ⟨r.1, r.2, rfl, hc.trans (by decide), hi.trans (by decide), hin.trans (by decide), hl⟩
  · have hok : (lowerKind (.tryCatch (.node (.call ⟨⟨2⟩, "g", .function⟩ none none []) .unit
        ⟨0, 0, 1, 1⟩) []) .unit ⟨0, 0, 1, 1⟩ ⟨[], 8⟩ (State.start "init")).isOk = true := by
      decide +kernel
    cases h : lowerKind (.tryCatch (.node (.call ⟨⟨2⟩, "g", .function⟩ none none []) .unit
        ⟨0, 0, 1, 1⟩) []) .unit ⟨0, 0, 1, 1⟩ ⟨[], 8⟩ (State.start "init") with
    | error e =>
      rw [h] at hok
      cases hok
    | ok r => exact ⟨r.1, r.2, rfl, (hnil _ _ _ _ _ _ _ hb.inRange h).1⟩

end Isel.Lower
