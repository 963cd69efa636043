import Isel.Proofs.Sealing

/-! # Chains of tests

The arms of a `when` and the handlers of a `try` are lowered as chains of tests. Each test ends
its block in a conditional branch to two fresh blocks, an arm and the next test, and each arm
ends in a branch to the exit of the chain, a block made before it. `Sealed` states what such a
chain leaves of the blocks below a bound: the edges into every block that no enclosing loop
names and that is neither the landing block nor the exit, and every block but the one it
started in. A chain is sealed by induction over its tests (`lowerArms_sealed`,
`lowerHandlers_sealed`), each test a composition of tallied code and single steps.

With it, a block entered by a single edge, and every block made after it, are reached from the
entry only through that edge (`onlyThrough_region`).
-/

namespace Isel.Lower

open Isel.Graph (Operand Instr Var)
open Isel.Tree (Expr Arm Catch)

variable {ctx : Context} {Q : Cursor → Prop} {n exit : Nat} {L : List LoopFrame}
  {D : Option Nat} {s s₁ s₂ s' : State} {x : Escapes}

/-- What lowering part of a chain with exit `exit`, from `s` to `s'`, leaves of the blocks below
`n`, with `L` the enclosing loops and `D` the landing block. It may end at the exit. -/
structure Sealed (n exit : Nat) (L : List LoopFrame) (D : Option Nat) (s s' : State) : Prop where
  inDegree : ∀ t < n, t ≠ exit → Unnamed L D t → s'.curFn.inDegree t = s.curFn.inDegree t
  cursor : s'.cursor.block = s.cursor.block ∨ n ≤ s'.cursor.block ∨ s'.cursor.block = exit
  frame : ∀ a < n, a ≠ s.cursor.block → s'.curFn.blocks[a]? = s.curFn.blocks[a]?
  keeps : Keeps s s'
  inRange : InRange s'

namespace Sealed

theorem refl (hr : InRange s) : Sealed n exit L D s s where
  inDegree _ _ _ _ := rfl
  cursor := .inl rfl
  frame _ _ _ := rfl
  keeps := Keeps.refl s
  inRange := hr

theorem trans (h₁ : Sealed n exit L D s s₁) (h₂ : Sealed n exit L D s₁ s₂)
    (hc : s₁.cursor.block = s.cursor.block ∨ n ≤ s₁.cursor.block) : Sealed n exit L D s s₂ where
  inDegree t ht hx hu := by rw [h₂.inDegree t ht hx hu, h₁.inDegree t ht hx hu]
  cursor := by
    rcases h₂.cursor with h | h
    · rw [h]
      exact hc.imp_right .inl
    · exact .inr h
  frame a ha hne := by
    have hne₁ : a ≠ s₁.cursor.block := by
      rcases hc with h | h
      · rw [h]
        exact hne
      · omega
    rw [h₂.frame a ha hne₁, h₁.frame a ha hne]
  keeps := h₁.keeps.trans h₂.keeps
  inRange := h₂.inRange

theorem join (h₁ : Sealed n exit s.loops s.landing s s₁)
    (h₂ : Sealed n exit s₁.loops s₁.landing s₁ s₂)
    (hc : s₁.cursor.block = s.cursor.block ∨ n ≤ s₁.cursor.block) :
    Sealed n exit s.loops s.landing s s₂ := by
  rw [h₁.keeps.loops, h₁.keeps.landing] at h₂
  exact h₁.trans h₂ hc

theorem of_tally (h : Tally n L D s s' x) : Sealed n exit L D s s' where
  inDegree _ ht _ hu := h.inDegree_unnamed ht hu
  cursor := h.cursor.imp_right .inl
  frame := h.frame
  keeps := h.keeps
  inRange := h.inRange

theorem moveTo (hr : InRange s) {b : Nat} (hb : b < s.curFn.blocks.length)
    (hn : n ≤ b ∨ b = exit) : Sealed n exit L D s (s.moveTo b) where
  inDegree _ _ _ _ := rfl
  cursor := .inr hn
  frame _ _ _ := rfl
  keeps := (Keeps.refl s).moveTo b
  inRange := hr.moveTo hb

theorem preds_eq {t : Nat} (h : Sealed n exit L D s s') (hb : Built Q s') (ht : t < n)
    (hx : t ≠ exit) (hu : Unnamed L D t) : s'.curFn.preds t = s.curFn.preds t :=
  h.keeps.preds_eq hb (h.inDegree t ht hx hu)

end Sealed

/-! ## Steps that keep the blocks -/

theorem freshVar_frame {ty : Graph.Ty} {d : Var} (hr : InRange s)
    (h : freshVar ty ctx s = .ok (d, s')) :
    s'.curFn.blocks = s.curFn.blocks ∧ s'.cursor = s.cursor ∧ d.ty = ty := by
  obtain ⟨-, rfl, rfl⟩ := freshVar_ok h
  exact ⟨by rw [State.curFn_mapFn hr.1, Graph.Function.bump_blocks], rfl, rfl⟩

theorem lowerType_frame {t : Tree.Ty} {t' : Graph.Ty} (h : lowerType t ctx s = .ok (t', s')) :
    s'.curFn.blocks = s.curFn.blocks ∧ s'.cursor = s.cursor := by
  obtain ⟨fs, ks, tf, tk, hfs, -, rfl⟩ := lowerType_registers h
  exact ⟨State.blocks_fn_extend hfs _, rfl⟩

theorem resultVar_frame {ty : Tree.Ty} {r : Option Var} (hr : InRange s)
    (h : resultVar ty ctx s = .ok (r, s')) :
    s'.curFn.blocks = s.curFn.blocks ∧ s'.cursor = s.cursor := by
  rcases resultVar_steps h with ⟨-, -, rfl⟩ | ⟨-, -, t, s₁, d, h₁, h₂, -⟩
  · exact ⟨rfl, rfl⟩
  · have r₁ := (lowerType_quiet (n := 0) (L := []) (D := none) hr (Nat.zero_le _) h₁).inRange
    obtain ⟨f₁, c₁⟩ := lowerType_frame h₁
    obtain ⟨f₂, c₂, -⟩ := freshVar_frame r₁ h₂
    exact ⟨f₂.trans f₁, c₂.trans c₁⟩

theorem inDegree_of_blocks {t : Nat} (h : s'.curFn.blocks = s.curFn.blocks) :
    s'.curFn.inDegree t = s.curFn.inDegree t := by
  simp [Graph.Function.inDegree_eq_sum, h]

theorem newBlock_block {l : String} {b : Nat} (hr : InRange s)
    (h : newBlock l ctx s = .ok (b, s')) : s'.curFn.blocks[b]? = some ⟨l, []⟩ := by
  obtain ⟨-, rfl, rfl⟩ := newBlock_ok h
  rw [State.curFn_addBlock hr.1]
  simp

theorem emit_open {i : Instr} {u : Operand} (ho : s.curBlock.isTerminal = false)
    (h : emit i ctx s = .ok (u, s')) : s' = s.push i := by
  obtain ⟨-, -, rfl⟩ := emit_ok h
  rw [State.reopen, if_neg (by simp [ho])]

theorem finishArm_inDegree {a : Operand} {result : Option Var} {t : Nat} (hr : InRange s)
    (h : finishArm a result exit ctx s = .ok ((), s')) (ht : t ≠ exit) :
    s'.curFn.inDegree t = s.curFn.inDegree t := by
  rcases finishArm_steps h with ⟨-, rfl⟩ | ⟨-, s₁, u, h₁, h₂⟩
  · rfl
  · have e₁ : s₁.curFn.inDegree t = s.curFn.inDegree t ∧ InRange s₁ := by
      rcases h₁ with ⟨-, rfl⟩ | ⟨r, u₀, -, h₁⟩
      · exact ⟨rfl, hr⟩
      · obtain ⟨e, -, -, -, -, r₁⟩ := emit_effect hr h₁
        exact ⟨by simp [e, Instr.successors], r₁⟩
    obtain ⟨e₂, -⟩ := emit_effect e₁.2 h₂
    rw [e₂, e₁.1, Instr.successors, List.count_singleton]
    simp [Ne.symm ht]

/-! ## The steps of a chain

Each lemma takes one step and the rest of the chain after it. -/

theorem Tally.then (h₁ : Tally n s.loops s.landing s s₁ x)
    (h₂ : Sealed n exit s₁.loops s₁.landing s₁ s₂) : Sealed n exit s.loops s.landing s s₂ :=
  (Sealed.of_tally h₁).join h₂ h₁.cursor

theorem emit_then {i : Instr} {u : Operand} (hr : InRange s) (hn : n ≤ s.curFn.blocks.length)
    (hi : ∀ t ∈ i.successors, t = exit ∨ n ≤ t) (h : emit i ctx s = .ok (u, s₁))
    (h₂ : Sealed n exit s₁.loops s₁.landing s₁ s₂) : Sealed n exit s.loops s.landing s s₂ := by
  obtain ⟨e, -, hc, hf, -, hr'⟩ := emit_effect hr h
  have hc' : s₁.cursor.block = s.cursor.block ∨ n ≤ s₁.cursor.block :=
    hc.imp_right fun h => by omega
  refine Sealed.join ⟨fun t ht hx _ => ?_, hc'.imp_right .inl, fun a ha => hf a (by omega),
    emit_keeps h, hr'⟩ h₂ hc'
  have hm : t ∉ i.successors := fun hm => by
    rcases hi t hm with h | h <;> omega
  rw [e t, List.count_eq_zero_of_not_mem hm, Nat.add_zero]

theorem InRange.reopen (hr : InRange s) : InRange s.reopen := by
  unfold State.reopen
  split
  · refine ⟨by rw [State.moveTo, State.addBlock, State.length_mapFn]; exact hr.1, ?_⟩
    show s.curFn.blocks.length < (s.addBlock "unreachable").curFn.blocks.length
    rw [State.curFn_addBlock hr.1, List.length_append, List.length_singleton]
    exact Nat.lt_succ_self _
  · exact hr

theorem emit_last {i : Instr} {u : Operand} (hr : InRange s) (h : emit i ctx s = .ok (u, s')) :
    s'.curFn.blocks[s'.cursor.block]? = some s'.curBlock ∧ s'.curBlock.instrs.getLast? = some i := by
  obtain ⟨-, -, rfl⟩ := emit_ok h
  have hr' := hr.reopen
  refine ⟨State.block?_cursor (emit_effect hr h).2.2.2.2.2.2, ?_⟩
  rw [State.curBlock_push hr'.1 hr'.2]
  simp

theorem moveTo_then {b : Nat} (hr : InRange s) (hb : b < s.curFn.blocks.length) (hn : n ≤ b)
    (h₂ : Sealed n exit (s.moveTo b).loops (s.moveTo b).landing (s.moveTo b) s₂) :
    Sealed n exit s.loops s.landing s s₂ :=
  (Sealed.moveTo hr hb (.inl hn)).join h₂ (.inr hn)

theorem finishArm_inRange {a : Operand} {result : Option Var} (hr : InRange s)
    (h : finishArm a result exit ctx s = .ok ((), s')) : InRange s' :=
  (finishArm_tally (n := 0) (L := []) (D := none) hr (Nat.zero_le _) (Nat.zero_le _) h).inRange

theorem finishArm_then {a : Operand} {result : Option Var} (hr : InRange s)
    (hn : n ≤ s.curFn.blocks.length) (h : finishArm a result exit ctx s = .ok ((), s₁))
    (h₂ : Sealed n exit s₁.loops s₁.landing s₁ s₂) : Sealed n exit s.loops s.landing s s₂ := by
  rcases finishArm_steps h with ⟨-, rfl⟩ | ⟨-, s₃, u, h₁, h₃⟩
  · exact h₂
  · have t₃ : Tally n s.loops s.landing s s₃ 0 := by
      rcases h₁ with ⟨-, rfl⟩ | ⟨r, u₀, -, h₁⟩
      · exact Tally.refl hr
      · exact emit_local hr hn (Instr.staysAbove_of_successors rfl rfl rfl) h₁
    exact t₃.then (emit_then t₃.inRange (Nat.le_trans hn t₃.grows)
      (by simp [Instr.successors]) h₃ h₂)

theorem condBr_successors {c : Operand} {t f : Nat} (ht : n ≤ t) (hf : f = exit ∨ n ≤ f) :
    ∀ y ∈ (Instr.condBr c t f).successors, y = exit ∨ n ≤ y := by
  intro y hy
  simp only [Instr.successors, List.mem_cons, List.not_mem_nil, or_false] at hy
  rcases hy with rfl | rfl
  · exact .inr ht
  · exact hf

/-! ## Sealed chains -/

theorem lowerArms_sealed : ∀ (arms : List Arm) {n : Nat} {s s' : State} {result : Option Var}
    {exit : Nat}, InRange s → n ≤ s.curFn.blocks.length → exit < s.curFn.blocks.length →
    lowerArms arms result exit ctx s = .ok ((), s') → Sealed n exit s.loops s.landing s s'
  | [], _, _, _, _, _, hr, _, _, h => by
    rw [lowerArms_nil_steps h]
    exact Sealed.refl hr
  | .mk cond res :: rest, n, s, s', result, exit, hr, hn, hx, h => by
    cases hc : cond.isTrueLiteral with
    | true =>
      obtain ⟨a, s₁, h₁, h₂⟩ := lowerArms_true_steps hc h
      have t₁ := lowerExpr_tally res hr hn h₁
      exact t₁.then (finishArm_then t₁.inRange (Nat.le_trans hn t₁.grows) h₂
        (Sealed.refl (finishArm_inRange t₁.inRange h₂)))
    | false =>
      obtain ⟨c, s₁, arm, s₂, next, s₃, u, s₄, a, s₅, s₆, h₁, h₂, h₃, h₄, h₅, h₆, h₇⟩ :=
        lowerArms_test_steps hc h
      have t₁ := lowerExpr_tally cond hr hn h₁
      have l₁ : s.curFn.blocks.length ≤ s₁.curFn.blocks.length := t₁.grows
      obtain ⟨rfl, l₂, t₂⟩ := newBlock_tally (n := n) (L := s₁.loops) (D := s₁.landing)
        t₁.inRange (by omega) h₂
      -- the next test is a new block, or the exit after the last arm
      have n₃ : Tally n s₂.loops s₂.landing s₂ s₃ 0 ∧
          s₂.curFn.blocks.length ≤ s₃.curFn.blocks.length ∧ next < s₃.curFn.blocks.length ∧
          (rest = [] ∧ next = exit ∨ rest ≠ [] ∧ next = s₂.curFn.blocks.length) := by
        rcases h₃ with ⟨hr', rfl, rfl⟩ | ⟨hr', h₃⟩
        · exact ⟨Tally.refl t₂.inRange, Nat.le_refl _, by omega, .inl ⟨hr', rfl⟩⟩
        · obtain ⟨rfl, l₃, t₃⟩ := newBlock_tally (n := n) t₂.inRange (by omega) h₃
          exact ⟨t₃, by omega, by omega, .inr ⟨hr', rfl⟩⟩
      obtain ⟨t₃, l₃, hn₃, hnext⟩ := n₃
      have hx₁ : exit < s₁.curFn.blocks.length := by omega
      obtain ⟨-, -, -, -, l₄, r₄⟩ := emit_effect t₃.inRange h₄
      have t₅ := lowerExpr_tally res (n := n)
        (r₄.moveTo (show s₁.curFn.blocks.length < s₄.curFn.blocks.length by omega))
        (show n ≤ s₄.curFn.blocks.length by omega) h₅
      have l₅ : s₄.curFn.blocks.length ≤ s₅.curFn.blocks.length := t₅.grows
      have r₆ := finishArm_inRange t₅.inRange h₆
      have l₆ : s₅.curFn.blocks.length ≤ s₆.curFn.blocks.length := (finishArm_keeps h₆).blocks.1
      -- the rest of the chain starts at the next test, or is over at the exit
      have tail : Sealed n exit s₆.loops s₆.landing s₆ s' := by
        rcases hnext with ⟨rfl, rfl⟩ | ⟨hne, rfl⟩
        · rw [lowerArms_nil_steps h₇]
          exact Sealed.moveTo r₆ (by omega) (.inr rfl)
        · exact moveTo_then r₆ (by omega) (by omega)
            (lowerArms_sealed rest (r₆.moveTo (by omega)) (by show n ≤ s₆.curFn.blocks.length; omega)
              (by show exit < s₆.curFn.blocks.length; omega) h₇)
      exact t₁.then (t₂.then (t₃.then (emit_then t₃.inRange (by omega)
        (condBr_successors (by omega) (hnext.imp (fun h => h.2) fun h => by omega)) h₄
        (moveTo_then r₄ (by omega) (by omega) (t₅.then (finishArm_then t₅.inRange (by omega) h₆
          tail))))))

theorem lowerHandlers_sealed : ∀ (cs : List Catch) {n : Nat} {s s' : State} {exn : Operand}
    {result : Option Var} {exit : Nat}, InRange s → n ≤ s.curFn.blocks.length →
    lowerHandlers cs exn result exit ctx s = .ok ((), s') → Sealed n exit s.loops s.landing s s'
  | [], _, _, _, _, _, _, hr, _, h => by
    rw [lowerHandlers_nil_steps h]
    exact Sealed.refl hr
  | [c], n, s, s', exn, result, exit, hr, hn, h => by
    obtain ⟨a, s₁, h₁, h₂⟩ := lowerHandlers_last_steps h
    have t₁ := lowerExpr_tally c.result hr hn h₁
    exact t₁.then (finishArm_then t₁.inRange (Nat.le_trans hn t₁.grows) h₂
      (Sealed.refl (finishArm_inRange t₁.inRange h₂)))
  | c :: c' :: rest, n, s, s', exn, result, exit, hr, hn, h => by
    obtain ⟨t, s₁, caught, s₂, u₁, s₃, body, s₄, next, s₅, u₂, s₆, a, s₇, s₈,
      h₁, h₂, h₃, h₄, h₅, h₆, h₇, h₈, h₉⟩ := lowerHandlers_test_steps h
    -- the type test stays in the block
    have t₃ : Tally n s.loops s.landing s s₃ 0 := ((lowerType_quiet hr hn h₁).seqQuiet hn
      freshVar_quiet h₂).seqQuiet hn (emit_quiet rfl rfl rfl) h₃
    have l₃ : s.curFn.blocks.length ≤ s₃.curFn.blocks.length := t₃.grows
    obtain ⟨rfl, l₄, t₄⟩ := newBlock_tally (n := n) (L := s₃.loops) (D := s₃.landing) t₃.inRange
      (by omega) h₄
    obtain ⟨rfl, l₅, t₅⟩ := newBlock_tally (n := n) (L := s₄.loops) (D := s₄.landing) t₄.inRange
      (by omega) h₅
    obtain ⟨-, -, -, -, l₆, r₆⟩ := emit_effect t₅.inRange h₆
    have t₇ := lowerExpr_tally c.result (n := n)
      (r₆.moveTo (show s₃.curFn.blocks.length < s₆.curFn.blocks.length by omega))
      (show n ≤ s₆.curFn.blocks.length by omega) h₇
    have l₇ : s₆.curFn.blocks.length ≤ s₇.curFn.blocks.length := t₇.grows
    have r₈ := finishArm_inRange t₇.inRange h₈
    have l₈ : s₇.curFn.blocks.length ≤ s₈.curFn.blocks.length := (finishArm_keeps h₈).blocks.1
    exact t₃.then (t₄.then (t₅.then (emit_then t₅.inRange (by omega)
      (condBr_successors (by omega) (.inr (by omega))) h₆
      (moveTo_then r₆ (by omega) (by omega) (t₇.then (finishArm_then t₇.inRange (by omega) h₈
        (moveTo_then r₈ (by omega) (by omega)
          (lowerHandlers_sealed (c' :: rest) (r₈.moveTo (by omega))
            (by show n ≤ s₈.curFn.blocks.length; omega) h₉))))))))

/-! ## Blocks entered by a single edge -/

theorem Built.edge_lt {P : Cursor → Prop} (hb : Built P s) {a t : Nat}
    (he : (a, t) ∈ s.curFn.edges) : t < s.curFn.blocks.length := by
  obtain ⟨b, hb', ht⟩ := Graph.Function.mem_edges.1 he
  exact (hb.sound ⟨s.cursor.fn, a⟩ b hb').successor_lt ht

/-- A run from `u` to `v` that appends only to the block `c` it started at and to the blocks it
makes: if a single edge from `g` enters `c` in a later function `w` in which the blocks the run
made have the edges in they had at `v`, then every path from the entry to `c` or to one of
these blocks takes that edge. -/
theorem onlyThrough_region {u v w : State} {g : Nat} (hu : Built Q u)
    (h : Sealed u.curFn.blocks.length exit L D u v)
    (hw : ∀ y, u.curFn.blocks.length ≤ y → y < v.curFn.blocks.length →
      w.curFn.preds y = v.curFn.preds y)
    (hc : w.curFn.preds u.cursor.block = [g]) (h0 : u.cursor.block ≠ 0) (b : Nat)
    (hb : b = u.cursor.block ∨ u.curFn.blocks.length ≤ b ∧ b < v.curFn.blocks.length) :
    w.curFn.OnlyThrough (g, u.cursor.block) 0 b := by
  refine Graph.Function.onlyThrough_of_entries
    (S := fun y => y = u.cursor.block ∨ u.curFn.blocks.length ≤ y ∧ y < v.curFn.blocks.length)
    ?_ hb ?_
  · -- the entry is a block from before the run, and not the one it started at
    have := hu.cursor.2
    rintro (h | ⟨h, -⟩)
    · exact h0 h.symm
    · omega
  · rintro x y hxy hx (rfl | ⟨hy₁, hy₂⟩)
    · -- the single edge into the start
      have hm := Graph.Function.mem_preds.2 hxy
      rw [hc, List.mem_singleton] at hm
      rw [hm]
    · -- an edge into a new block comes from the start or from a new block
      have hv : (x, y) ∈ v.curFn.edges := by
        rw [← Graph.Function.mem_preds, ← hw y hy₁ hy₂, Graph.Function.mem_preds]
        exact hxy
      obtain ⟨blk, hblk, hs⟩ := Graph.Function.mem_edges.1 hv
      have hxv : x < v.curFn.blocks.length := (List.getElem?_eq_some_iff.1 hblk).1
      have hxu : x < u.curFn.blocks.length :=
        Nat.lt_of_not_le fun hle => hx (.inr ⟨hle, hxv⟩)
      rw [h.frame x hxu fun he => hx (.inl he)] at hblk
      have := hu.edge_lt (Graph.Function.mem_edges.2 ⟨blk, hblk, hs⟩)
      omega

/-! ## The blocks a test branches to -/

/-- A test that branches from the block `g` it ends in to two blocks `A` and `N`, then code
lowered from `A` and sealed against the blocks made up to the test, then code lowered from `N`
and sealed against those made up to it: `g` keeps its last instruction, and a block among `A`
and `N` that no edge entered before the test is entered by the test's edge alone. -/
theorem branch_preds {w w₄ w₆ : State} {c u : Operand} {A N : Nat}
    {L₁ L₂ : List LoopFrame} {D₁ D₂ : Option Nat} (hw : InRange w)
    (h : emit (.condBr c A N) ctx w = .ok (u, w₄)) (hA : A < w.curFn.blocks.length)
    (hN : N < w.curFn.blocks.length) (hg : w₄.cursor.block ≠ A ∧ w₄.cursor.block ≠ N)
    (S₁ : Sealed w₄.curFn.blocks.length exit L₁ D₁ (w₄.moveTo A) w₆)
    (S₂ : Sealed w₆.curFn.blocks.length exit L₂ D₂ (w₆.moveTo N) s') :
    s'.curFn.blocks[w₄.cursor.block]? = some w₄.curBlock ∧
      w₄.curBlock.instrs.getLast? = some (.condBr c A N) ∧
      ∀ t, (t = A ∨ t = N) → A ≠ N → t ≠ exit → Unnamed L₁ D₁ t → Unnamed L₂ D₂ t →
        w.curFn.inDegree t = 0 → s'.curFn.preds t = [w₄.cursor.block] := by
  obtain ⟨e, -, -, -, l₄, r₄⟩ := emit_effect hw h
  obtain ⟨blk, last⟩ := emit_last hw h
  have l₆ : w₄.curFn.blocks.length ≤ w₆.curFn.blocks.length := S₁.keeps.blocks.1
  have g₄ := r₄.2
  -- the block of the test is left alone by the code lowered from `A` and from `N`
  have hblk : s'.curFn.blocks[w₄.cursor.block]? = some w₄.curBlock := by
    rw [S₂.frame _ (by omega) hg.2, State.curFn_moveTo, S₁.frame _ (by omega) hg.1,
      State.curFn_moveTo]
    exact blk
  refine ⟨hblk, last, fun t ht hAN hx hu₁ hu₂ h0 => ?_⟩
  have edge : (w₄.cursor.block, t) ∈ s'.curFn.edges := by
    refine Graph.Function.mem_edges.2 ⟨w₄.curBlock, hblk, ?_⟩
    rw [Graph.Block.successors, last]
    rcases ht with rfl | rfl <;> simp [Instr.isTerminal, Instr.successors]
  refine Graph.Function.preds_eq_singleton edge ?_
  have htw : t < w.curFn.blocks.length := by
    rcases ht with rfl | rfl <;> assumption
  rw [S₂.inDegree t (by omega) hx hu₂]
  show w₆.curFn.inDegree t = 1
  rw [S₁.inDegree t (by omega) hx hu₁]
  show w₄.curFn.inDegree t = 1
  rw [e t, h0]
  rcases ht with rfl | rfl <;> simp [Instr.successors, hAN, Ne.symm hAN]

end Isel.Lower
