import Isel.Proofs.Escapes
import Isel.Proofs.Edges

/-! # What lowering adds to the function it builds

Lowering a tree appends blocks and instructions to the function at the cursor. Measured against
the blocks that were there before it started, it does four things, and `Tally` states them.
It appends instructions only to the block where it started and to blocks it made, and leaves
the cursor in one of these. Its edges into earlier blocks are those of its free jumps, each to
the block `resolve` gives among the enclosing loops, and one for each of its calls that unwinds
to the enclosing landing block. Each call it lowers outside a protected body becomes a `call`,
or an `invoke` if a landing block encloses it. Each protected call becomes an `invoke`.

The escapes of the tree (`Expr.escapes`) are what it tallies: `lowerExpr_tally`, by induction
over the tree, from one lemma per construct.
-/

namespace Isel.Lower

open Isel.Graph (Operand Instr Var Block)
open Isel.Tree (Expr ExprKind Arm Catch VarargElem LoopId)

def InRange (s : State) : Prop :=
  s.cursor.fn < s.program.functions.length ∧ s.cursor.block < s.curFn.blocks.length

theorem Built.inRange {P : Cursor → Prop} {s : State} (hb : Built P s) : InRange s := hb.cursor

/-- An edge to block `t`, made by instruction `i`, that code sending out `x` may make out of the
blocks it builds: the `br` of one of its free jumps, to where `resolve` sends the jump among
`loops`, or the landing edge of an `invoke` to the landing block, when the code makes a call. -/
def Escapes.Exits (x : Escapes) (loops : List LoopFrame) (landing : Option Nat) (i : Instr)
    (t : Nat) : Prop :=
  (i = .br t ∧ ∃ j ∈ x.jumps, resolve loops j = some t) ∨
    ((∃ callee dst args normal, i = .invoke callee dst args normal t) ∧ landing = some t ∧
      0 < x.calls)

namespace Escapes.Exits

variable {x y : Escapes} {L : List LoopFrame} {D : Option Nat} {i : Instr} {t : Nat}

theorem not_zero : ¬ (0 : Escapes).Exits L D i t := by
  simp [Escapes.Exits]

theorem add_left (h : x.Exits L D i t) (y : Escapes) : (x + y).Exits L D i t := by
  rcases h with ⟨hi, j, hj, hr⟩ | ⟨hi, hl, hc⟩
  · exact .inl ⟨hi, j, List.mem_append_left _ hj, hr⟩
  · exact .inr ⟨hi, hl, by simp; omega⟩

theorem add_right (h : y.Exits L D i t) (x : Escapes) : (x + y).Exits L D i t := by
  rcases h with ⟨hi, j, hj, hr⟩ | ⟨hi, hl, hc⟩
  · exact .inl ⟨hi, j, List.mem_append_right _ hj, hr⟩
  · exact .inr ⟨hi, hl, by simp; omega⟩

theorem bind {fr : LoopFrame} (h : x.Exits (fr :: L) D i t) (hc : fr.check ≠ t)
    (he : fr.exit ≠ t) : (x.bind fr.loop).Exits L D i t := by
  rcases h with ⟨hi, j, hj, hr⟩ | hinv
  · refine .inl ⟨hi, j, ?_⟩
    by_cases hl : fr.loop = j.2
    · rw [resolve_cons_of_eq hl, Option.some_inj] at hr
      obtain ⟨k, l⟩ := j
      cases k with
      | breakLoop => exact absurd hr he
      | continueLoop => exact absurd hr hc
    · rw [resolve_cons_of_ne hl] at hr
      exact ⟨List.mem_filter.2 ⟨hj, bne_iff_ne.2 (Ne.symm hl)⟩, hr⟩
  · exact .inr hinv

theorem protect {l : Nat} (h : x.Exits L (some l) i t) (hl : l ≠ t) (D' : Option Nat) :
    x.protect.Exits L D' i t := by
  rcases h with hbr | ⟨-, hlt, -⟩
  · exact .inl hbr
  · exact absurd (Option.some_inj.1 hlt) hl

end Escapes.Exits

/-- What a lowering from `s` to `s'` did to the function it builds, as the escapes `x` of the
code say, measured against the blocks below `n`, with `loops` the enclosing loops and `landing`
the landing block for calls. -/
structure Tally (n : Nat) (loops : List LoopFrame) (landing : Option Nat) (s s' : State)
    (x : Escapes) : Prop where
  resolved : ∀ j ∈ x.jumps, (resolve loops j).isSome
  inDegree : ∀ t < n, s'.curFn.inDegree t =
    s.curFn.inDegree t + x.jumps.countP (fun j => resolve loops j == some t) +
      if landing = some t then x.calls else 0
  calls : s'.curFn.countInstrs Instr.isCall =
    s.curFn.countInstrs Instr.isCall + if landing = none then x.calls else 0
  invokes : s'.curFn.countInstrs Instr.isInvoke =
    s.curFn.countInstrs Instr.isInvoke + x.protectedCalls + if landing = none then 0 else x.calls
  cursor : s'.cursor.block = s.cursor.block ∨ n ≤ s'.cursor.block
  frame : ∀ a < n, a ≠ s.cursor.block → s'.curFn.blocks[a]? = s.curFn.blocks[a]?
  keeps : Keeps s s'
  inRange : InRange s'
  exits : ∀ l i t, Graph.Added s.curFn.blocks s'.curFn.blocks l i → t ∈ i.successors → t < n →
    x.Exits loops landing i t

namespace Tally

variable {m n : Nat} {L : List LoopFrame} {D : Option Nat} {s s₁ s₂ s' : State} {x y : Escapes}

theorem of_blocks (hb : s'.curFn.blocks = s.curFn.blocks) (hc : s'.cursor.block = s.cursor.block)
    (hk : Keeps s s') (hr : InRange s') : Tally n L D s s' 0 where
  resolved := by simp
  inDegree t _ := by simp [Graph.Function.inDegree_eq_sum, hb]
  calls := by simp [Graph.Function.countInstrs, hb]
  invokes := by simp [Graph.Function.countInstrs, hb]
  cursor := .inl hc
  frame a _ _ := by rw [hb]
  keeps := hk
  inRange := hr
  exits l i t ha := by
    rw [hb] at ha
    exact absurd ha Graph.Added.not_refl

theorem refl (hr : InRange s) : Tally n L D s s 0 := of_blocks rfl rfl (Keeps.refl s) hr

theorem trans (h₁ : Tally n L D s s₁ x) (h₂ : Tally n L D s₁ s₂ y) : Tally n L D s s₂ (x + y) where
  resolved j hj := by
    rcases List.mem_append.1 hj with hj | hj
    · exact h₁.resolved j hj
    · exact h₂.resolved j hj
  inDegree t ht := by
    rw [h₂.inDegree t ht, h₁.inDegree t ht, Escapes.add_jumps, Escapes.add_calls,
      List.countP_append]
    split <;> omega
  calls := by
    rw [h₂.calls, h₁.calls, Escapes.add_calls]
    split <;> omega
  invokes := by
    rw [h₂.invokes, h₁.invokes, Escapes.add_calls, Escapes.add_protectedCalls]
    split <;> omega
  cursor := by
    rcases h₂.cursor with h | h
    · rw [h]
      exact h₁.cursor
    · exact .inr h
  frame a ha hne := by
    -- the second part starts where the first ended, which is not an earlier block `a`
    have hne₁ : a ≠ s₁.cursor.block := by
      rcases h₁.cursor with h | h
      · rw [h]
        exact hne
      · omega
    rw [h₂.frame a ha hne₁, h₁.frame a ha hne]
  keeps := h₁.keeps.trans h₂.keeps
  inRange := h₂.inRange
  exits l i t ha hi ht := by
    rcases Graph.Added.split h₂.keeps.blocks ha with ha | ha
    · exact (h₁.exits l i t ha hi ht).add_left y
    · exact (h₂.exits l i t ha hi ht).add_right x

theorem trans_zero (h₁ : Tally n L D s s₁ x) (h₂ : Tally n L D s₁ s₂ 0) : Tally n L D s s₂ x := by
  simpa using h₁.trans h₂

theorem zero_trans (h₁ : Tally n L D s s₁ 0) (h₂ : Tally n L D s₁ s₂ x) : Tally n L D s s₂ x := by
  simpa using h₁.trans h₂

theorem grows (h : Tally n L D s s' x) : s.curFn.blocks.length ≤ s'.curFn.blocks.length :=
  h.keeps.blocks.1

theorem mono (h : Tally m L D s s' x) (hn : n ≤ m) : Tally n L D s s' x where
  resolved := h.resolved
  inDegree t ht := h.inDegree t (by omega)
  calls := h.calls
  invokes := h.invokes
  cursor := h.cursor.imp_right fun h => by omega
  frame a ha := h.frame a (by omega)
  keeps := h.keeps
  inRange := h.inRange
  exits l i t ha hi ht := h.exits l i t ha hi (by omega)

theorem bind {fr : LoopFrame} (h : Tally n (fr :: L) D s s' x) (hc : n ≤ fr.check)
    (he : n ≤ fr.exit) : Tally n L D s s' (x.bind fr.loop) where
  resolved := resolved_of_cons h.resolved
  inDegree t ht := by
    rw [h.inDegree t ht, countP_resolve_cons (by omega) (by omega), Escapes.bind_jumps,
      Escapes.bind_calls]
  calls := h.calls
  invokes := h.invokes
  cursor := h.cursor
  frame := h.frame
  keeps := h.keeps
  inRange := h.inRange
  exits l i t ha hi ht := (h.exits l i t ha hi ht).bind (by omega) (by omega)

theorem protect {l : Nat} (h : Tally n L (some l) s s' x) (hl : n ≤ l) (D' : Option Nat) :
    Tally n L D' s s' x.protect where
  resolved := h.resolved
  inDegree t ht := by
    have hne : some l ≠ some t := by simp; omega
    rw [h.inDegree t ht, if_neg hne]
    simp
  calls := by simpa using h.calls
  invokes := by
    rw [h.invokes]
    simp
    omega
  cursor := h.cursor
  frame := h.frame
  keeps := h.keeps
  inRange := h.inRange
  exits l i t ha hi ht := (h.exits l i t ha hi ht).protect (by omega) D'

theorem moveTo (h : Tally n L D s s' x) {b : Nat} (hb : b < s'.curFn.blocks.length)
    (hn : n ≤ b) : Tally n L D s (s'.moveTo b) x :=
  { h with
    cursor := .inr hn
    keeps := h.keeps.moveTo b
    inRange := ⟨h.inRange.1, hb⟩ }

end Tally

/-! ## The primitives -/

section Primitives

variable {ctx : Context} {n : Nat} {L : List LoopFrame} {D : Option Nat} {s s' : State}

theorem InRange.moveTo (hr : InRange s) {b : Nat} (hb : b < s.curFn.blocks.length) :
    InRange (s.moveTo b) :=
  ⟨hr.1, hb⟩

theorem push_effect (hr : InRange s) (ho : s.curBlock.isTerminal = false) (i : Instr) :
    (∀ t, (s.push i).curFn.inDegree t = s.curFn.inDegree t + i.successors.count t) ∧
    (∀ p, (s.push i).curFn.countInstrs p = s.curFn.countInstrs p + if p i then 1 else 0) ∧
    (∀ a, a ≠ s.cursor.block → (s.push i).curFn.blocks[a]? = s.curFn.blocks[a]?) ∧
    (s.push i).curFn.blocks.length = s.curFn.blocks.length ∧ InRange (s.push i) := by
  have hf : (s.push i).curFn = s.curFn.pushAt s.cursor.block i := State.curFn_mapFn hr.1
  have hk : s.curFn.blocks[s.cursor.block]? = some s.curBlock := by
    simp [State.curBlock, List.getD_eq_getElem?_getD, List.getElem?_eq_getElem hr.2]
  have hlen : (s.push i).curFn.blocks.length = s.curFn.blocks.length := by
    rw [hf, Graph.Function.pushAt_blocks, List.length_modify]
  refine ⟨fun t => ?_, fun p => ?_, fun a ha => ?_, hlen, ⟨?_, hlen ▸ hr.2⟩⟩
  · rw [hf, Graph.Function.inDegree_pushAt hk ho]
  · rw [hf, Graph.Function.countInstrs_pushAt hk]
  · rw [hf, Graph.Function.pushAt_blocks, List.getElem?_modify]
    simp [Ne.symm ha]
  · simpa [State.push, State.length_mapFn] using hr.1

theorem emit_effect {i : Instr} {u : Operand} (hr : InRange s) (h : emit i ctx s = .ok (u, s')) :
    (∀ t, s'.curFn.inDegree t = s.curFn.inDegree t + i.successors.count t) ∧
    (∀ p, s'.curFn.countInstrs p = s.curFn.countInstrs p + if p i then 1 else 0) ∧
    (s'.cursor.block = s.cursor.block ∨ s.curFn.blocks.length ≤ s'.cursor.block) ∧
    (∀ a < s.curFn.blocks.length, a ≠ s.cursor.block → s'.curFn.blocks[a]? = s.curFn.blocks[a]?) ∧
    s.curFn.blocks.length ≤ s'.curFn.blocks.length ∧ InRange s' := by
  obtain ⟨-, -, rfl⟩ := emit_ok h
  unfold State.reopen
  split
  · -- a fresh `unreachable` block at the end takes the instruction
    have hlen : (s.addBlock "unreachable").curFn.blocks.length = s.curFn.blocks.length + 1 := by
      rw [State.curFn_addBlock hr.1, List.length_append, List.length_singleton]
    have hr' : InRange ((s.addBlock "unreachable").moveTo s.curFn.blocks.length) :=
      ⟨by rw [State.moveTo, State.addBlock, State.length_mapFn]; exact hr.1, by
        show s.curFn.blocks.length < (s.addBlock "unreachable").curFn.blocks.length
        omega⟩
    have ho : ((s.addBlock "unreachable").moveTo s.curFn.blocks.length).curBlock.isTerminal =
        false := by
      rw [State.curBlock_moveTo, State.curFn_addBlock hr.1]
      simp [Graph.Block.isTerminal]
    have hf : ((s.addBlock "unreachable").moveTo s.curFn.blocks.length).curFn =
        s.curFn.addBlock "unreachable" := State.curFn_mapFn hr.1
    obtain ⟨e₁, e₂, e₃, e₄, e₅⟩ := push_effect hr' ho i
    refine ⟨fun t => ?_, fun p => ?_, .inr (Nat.le_refl _), fun a ha hne => ?_, ?_, e₅⟩
    · rw [e₁, hf, Graph.Function.inDegree_addBlock]
    · rw [e₂, hf, Graph.Function.countInstrs_addBlock]
    · rw [e₃ a (Nat.ne_of_lt ha), hf, Graph.Function.addBlock_blocks,
        List.getElem?_append_left ha]
    · rw [e₄, hf, Graph.Function.addBlock_blocks, List.length_append]
      omega
  · rename_i ho
    obtain ⟨e₁, e₂, e₃, e₄, e₅⟩ := push_effect hr (by simpa using ho) i
    exact ⟨e₁, e₂, .inl rfl, fun a _ hne => e₃ a hne, Nat.le_of_eq e₄.symm, e₅⟩

theorem State.curFn_mapFn_cases (s : State) (g : Graph.Function → Graph.Function) :
    (s.mapFn s.cursor.fn g).curFn = g s.curFn ∨ (s.mapFn s.cursor.fn g).curFn = s.curFn := by
  simp only [State.curFn, State.mapFn_cursor, State.fn_mapFn]
  split
  · exact .inl rfl
  · exact .inr rfl

theorem emit_added {i i' : Instr} {u : Operand} {l : Nat} (h : emit i ctx s = .ok (u, s'))
    (ha : Graph.Added s.curFn.blocks s'.curFn.blocks l i') : i' = i := by
  obtain ⟨-, -, rfl⟩ := emit_ok h
  rcases Graph.Added.split (Keeps.push _ i (State.reopen_open s)).blocks ha with ha | ha
  · -- reopening appends an empty block at most
    exfalso
    unfold State.reopen at ha
    split at ha
    · rw [State.curFn_moveTo] at ha
      rcases State.curFn_mapFn_cases s (·.addBlock "unreachable") with hf | hf <;>
        rw [State.addBlock, hf] at ha
      · exact Graph.Added.not_append ha
      · exact Graph.Added.not_refl ha
    · exact Graph.Added.not_refl ha
  · rcases State.curFn_mapFn_cases s.reopen (·.pushAt s.reopen.cursor.block i) with hf | hf <;>
      rw [State.push, hf] at ha
    · exact Graph.Added.eq_of_push ha
    · exact absurd ha Graph.Added.not_refl

theorem emit_tally {i : Instr} {u : Operand} {x : Escapes} (hr : InRange s)
    (hn : n ≤ s.curFn.blocks.length) (h : emit i ctx s = .ok (u, s'))
    (hres : ∀ j ∈ x.jumps, (resolve L j).isSome)
    (hdeg : ∀ t < n, i.successors.count t =
      x.jumps.countP (fun j => resolve L j == some t) + if D = some t then x.calls else 0)
    (hcall : (if i.isCall then 1 else 0) = if D = none then x.calls else 0)
    (hinv : (if i.isInvoke then 1 else 0) = x.protectedCalls + if D = none then 0 else x.calls)
    (hexit : ∀ t ∈ i.successors, t < n → x.Exits L D i t) :
    Tally n L D s s' x := by
  obtain ⟨e₁, e₂, e₃, e₄, e₅, e₆⟩ := emit_effect hr h
  refine ⟨hres, fun t ht => ?_, ?_, ?_, e₃.imp_right fun h => by omega,
    fun a ha => e₄ a (by omega), emit_keeps h, e₆, fun l i' t ha => ?_⟩
  · rw [e₁, hdeg t ht, Nat.add_assoc]
  · rw [e₂, hcall]
  · rw [e₂, hinv, Nat.add_assoc]
  · obtain rfl := emit_added h ha
    exact hexit t

def Instr.StaysAbove (n : Nat) (i : Instr) : Prop :=
  (∀ t ∈ i.successors, n ≤ t) ∧ i.isCall = false ∧ i.isInvoke = false

theorem Instr.staysAbove_of_successors {n : Nat} {i : Instr} (hs : i.successors = [])
    (hc : i.isCall = false) (hi : i.isInvoke = false) : Instr.StaysAbove n i :=
  ⟨by simp [hs], hc, hi⟩

theorem Instr.staysAbove_br {n t : Nat} (ht : n ≤ t) : Instr.StaysAbove n (.br t) :=
  ⟨by simpa [Instr.successors] using ht, rfl, rfl⟩

theorem Instr.staysAbove_condBr {n t f : Nat} {c : Operand} (ht : n ≤ t) (hf : n ≤ f) :
    Instr.StaysAbove n (.condBr c t f) :=
  ⟨by simp [Instr.successors, ht, hf], rfl, rfl⟩

theorem emit_local {i : Instr} {u : Operand} (hr : InRange s) (hn : n ≤ s.curFn.blocks.length)
    (hi : Instr.StaysAbove n i) (h : emit i ctx s = .ok (u, s')) : Tally n L D s s' 0 := by
  refine emit_tally hr hn h (by simp) (fun t ht => ?_) (by simp [hi.2.1]) (by simp [hi.2.2])
    fun t ht hlt => absurd (hi.1 t ht) (by omega)
  have : t ∉ i.successors := fun hm => absurd (hi.1 t hm) (by omega)
  simp [List.count_eq_zero_of_not_mem this]

theorem newBlock_tally {l : String} {b : Nat} (hr : InRange s) (hn : n ≤ s.curFn.blocks.length)
    (h : newBlock l ctx s = .ok (b, s')) :
    b = s.curFn.blocks.length ∧ s'.curFn.blocks.length = b + 1 ∧ Tally n L D s s' 0 := by
  obtain ⟨-, rfl, rfl⟩ := newBlock_ok h
  have hb := State.curFn_addBlock hr.1 l
  have hlen : (s.addBlock l).curFn.blocks.length = s.curFn.blocks.length + 1 := by
    rw [hb, List.length_append, List.length_singleton]
  have := hr.2
  refine ⟨rfl, hlen, ⟨by simp, fun t _ => ?_, ?_, ?_, .inl rfl, fun a ha _ => ?_, Keeps.addBlock s l,
    ⟨?_, ?_⟩, fun a i t ha => ?_⟩⟩
  · simp [Graph.Function.inDegree_eq_sum, hb]
  · simp [Graph.Function.countInstrs, hb]
  · simp [Graph.Function.countInstrs, hb]
  · rw [hb, List.getElem?_append_left (by omega)]
  · simpa [State.addBlock, State.length_mapFn] using hr.1
  · show s.cursor.block < (s.addBlock l).curFn.blocks.length
    omega
  · rw [hb] at ha
    exact absurd ha Graph.Added.not_append

def Quiet {α : Type} (m : LowerM α) (ctx : Context) : Prop :=
  ∀ {n : Nat} {L : List LoopFrame} {D : Option Nat} {s s' : State} {a : α}, InRange s →
    n ≤ s.curFn.blocks.length → m ctx s = .ok (a, s') → Tally n L D s s' 0

theorem freshVar_quiet {ty : Graph.Ty} : Quiet (freshVar ty) ctx := by
  intro n L D s s' v hr _ h
  obtain ⟨-, rfl, rfl⟩ := freshVar_ok h
  have hf := State.curFn_mapFn (g := Graph.Function.bump) hr.1
  refine Tally.of_blocks (by rw [hf]; rfl) rfl (Keeps.bump s) ⟨?_, ?_⟩
  · simpa [State.length_mapFn] using hr.1
  · rw [hf]
    exact hr.2

theorem Registers.quiet {s' : State} (h : Registers s s') (hr : InRange s) :
    Tally n L D s s' 0 := by
  have hk := Keeps.of_registers h
  obtain ⟨fs, ks, tf, tk, hfs, -, rfl⟩ := h
  have hb : (s.extend fs ks tf tk).curFn.blocks = s.curFn.blocks := State.blocks_fn_extend hfs _
  refine Tally.of_blocks hb rfl hk ⟨?_, ?_⟩
  · simp only [State.extend, List.length_append]
    have := hr.1
    omega
  · rw [hb]
    exact hr.2

theorem lowerType_quiet {t : Tree.Ty} : Quiet (lowerType t) ctx := fun hr _ h =>
  (lowerType_registers h).quiet hr

theorem klassId_quiet {cls : Tree.DefId} : Quiet (klassId cls) ctx := fun hr _ h =>
  (klassId_registers h).1.quiet hr

theorem calleeFor_quiet {callee : Tree.Callee} {args : List Operand} {ret : Graph.Ty} :
    Quiet (calleeFor callee args ret) ctx := fun hr _ h =>
  (calleeFor_registers h).1.quiet hr

theorem Tally.warn (h : Tally n L D s s' x) (code : Code) (message : String) (span : Span) :
    Tally n L D s (s'.warn code message span) x := { h with keeps := h.keeps.warn code message span }

theorem Tally.bindEnv (h : Tally n L D s s' x) (xs : List (Tree.LocalId × Operand)) :
    Tally n L D s { s' with env := xs ++ s'.env } x := { h with keeps := h.keeps.bind xs }

theorem jumpIfOpen_tally {t : Nat} (hr : InRange s) (hn : n ≤ s.curFn.blocks.length) (ht : n ≤ t)
    (h : jumpIfOpen t ctx s = .ok ((), s')) : Tally n L D s s' 0 := by
  obtain ⟨-, rfl⟩ := jumpIfOpen_ok h
  split
  · exact Tally.refl hr
  · rename_i ho
    have he : emit (.br t) ctx s = .ok (.unit, s.push (.br t)) := by
      rw [emit_run _ _ hr, State.reopen, if_neg ho]
      rfl
    exact emit_local hr hn (Instr.staysAbove_br ht) he

theorem finishArm_tally {a : Operand} {result : Option Var} {exit : Nat} (hr : InRange s)
    (hn : n ≤ s.curFn.blocks.length) (he : n ≤ exit)
    (h : finishArm a result exit ctx s = .ok ((), s')) : Tally n L D s s' 0 := by
  rcases finishArm_steps h with ⟨-, rfl⟩ | ⟨-, s₁, u, h₁, h₂⟩
  · exact Tally.refl hr
  · -- the result is moved first, if there is one, then the arm branches to the exit
    have t₁ : Tally n L D s s₁ 0 := by
      rcases h₁ with ⟨-, rfl⟩ | ⟨r, u₀, -, h₁⟩
      · exact Tally.refl hr
      · exact emit_local hr hn (Instr.staysAbove_of_successors rfl rfl rfl) h₁
    exact t₁.trans_zero (emit_local t₁.inRange (Nat.le_trans hn t₁.grows)
      (Instr.staysAbove_br he) h₂)

theorem generateCall_tally {callee : Nat} {ret : Graph.Ty} {args : List Operand} {v : Operand}
    (hr : InRange s) (hn : n ≤ s.curFn.blocks.length)
    (h : generateCall callee ret args ctx s = .ok (v, s')) :
    Tally n L s.landing s s' Escapes.call := by
  obtain ⟨dst, s₁, hd, -, hcall⟩ := generateCall_steps h
  have t₁ : Tally n L s.landing s s₁ 0 ∧ s₁.landing = s.landing := by
    rcases hd with ⟨-, -, rfl⟩ | ⟨-, d, hf, -⟩
    · exact ⟨Tally.refl hr, rfl⟩
    · exact ⟨freshVar_quiet hr hn hf, (freshVar_keeps hf).landing⟩
  obtain ⟨t₁, hl₁⟩ := t₁
  have hn₁ := Nat.le_trans hn t₁.grows
  rcases hcall with ⟨hl, u, he⟩ | ⟨l, normal, s₂, u, s₃, hl, hb, he, rfl⟩
  · -- outside a protected region: a `call`
    rw [hl₁] at hl
    refine t₁.zero_trans (emit_tally t₁.inRange hn₁ he (by simp) (fun t _ => ?_) ?_ ?_ ?_) <;>
      simp [hl, Instr.successors, Instr.isCall, Instr.isInvoke]
  · -- inside: an `invoke` to the landing block, going on at a new block
    rw [hl₁] at hl
    obtain ⟨rfl, l₂, t₂⟩ := newBlock_tally (L := L) (D := s.landing) t₁.inRange hn₁ hb
    have t₃ : Tally n L s.landing s₂ s₃ Escapes.call := by
      refine emit_tally t₂.inRange (by omega) he (by simp) (fun t ht => ?_) ?_ ?_ ?_
      · have hne : s₁.curFn.blocks.length ≠ t := by omega
        by_cases hlt : l = t
        · simp [hl, hlt, Instr.successors, hne]
        · simp [hl, hlt, Instr.successors, hne]
      · simp [hl, Instr.isCall]
      · simp [hl, Instr.isInvoke]
      · -- the normal block is new; an edge below `n` is the unwinding one
        intro t ht hlt
        simp only [Instr.successors, List.mem_cons, List.not_mem_nil, or_false] at ht
        rcases ht with rfl | rfl
        · omega
        · exact .inr ⟨⟨callee, dst, args, _, rfl⟩, hl, by simp⟩
    exact (t₁.zero_trans t₂).zero_trans t₃ |>.moveTo (by have := t₃.grows; omega) (by omega)

theorem resultVar_quiet {ty : Tree.Ty} : Quiet (resultVar ty) ctx := by
  intro n L D s s' r hr hn h
  rcases resultVar_steps h with ⟨-, -, rfl⟩ | ⟨-, -, t, s₁, d, h₁, h₂, -⟩
  · exact Tally.refl hr
  · have t₁ : Tally n L D s s₁ 0 := lowerType_quiet hr hn h₁
    exact t₁.trans_zero (freshVar_quiet t₁.inRange (Nat.le_trans hn t₁.grows) h₂)

theorem coerceInteger_quiet {value : Operand} {target : Tree.Ty} :
    Quiet (coerceInteger value target) ctx := by
  intro n L D s s' v hr hn h
  rcases coerceInteger_steps h with ⟨-, -, rfl⟩ | ⟨-, t, s₁, h₁, ⟨-, -, rfl⟩ | ⟨-, dst, s₂, h₂, h₃⟩⟩
  · exact Tally.refl hr
  · exact lowerType_quiet hr hn h₁
  · have t₁ : Tally n L D s s₁ 0 := lowerType_quiet hr hn h₁
    have t₂ := t₁.trans_zero (freshVar_quiet t₁.inRange (Nat.le_trans hn t₁.grows) h₂)
    exact t₂.trans_zero (emit_local t₂.inRange (Nat.le_trans hn t₂.grows)
      (Instr.staysAbove_of_successors (by split <;> rfl) (by split <;> rfl) (by split <;> rfl)) h₃)

theorem emit_quiet {i : Instr} (hs : i.successors = []) (hc : i.isCall = false)
    (hi : i.isInvoke = false) : Quiet (emit i) ctx := by
  intro n L D s s' u hr hn h
  exact emit_local hr hn (Instr.staysAbove_of_successors hs hc hi) h

theorem Tally.seqQuiet {α : Type} {m : LowerM α} {a : α} {s₁ s₂ : State} {x : Escapes}
    (h₁ : Tally n L D s s₁ x) (hn : n ≤ s.curFn.blocks.length) (hq : Quiet m ctx)
    (h : m ctx s₁ = .ok (a, s₂)) : Tally n L D s s₂ x :=
  h₁.trans_zero (hq h₁.inRange (Nat.le_trans hn h₁.grows) h)

theorem Tally.seqEmit {i : Instr} {u : Operand} {s₁ s₂ : State} {x : Escapes}
    (h₁ : Tally n L D s s₁ x) (hn : n ≤ s.curFn.blocks.length) (hi : Instr.StaysAbove n i)
    (h : emit i ctx s₁ = .ok (u, s₂)) : Tally n L D s s₂ x :=
  h₁.trans_zero (emit_local h₁.inRange (Nat.le_trans hn h₁.grows) hi h)

theorem applyIntrinsic_quiet {intr : Intrinsic} {name : String} {args : List Operand}
    {ty : Tree.Ty} {span : Span} : Quiet (applyIntrinsic intr name args ty span) ctx := by
  intro n L D s s' v hr hn h
  rcases applyIntrinsic_steps h with ⟨rfl, -⟩ | ⟨t, dst, s₁, h₁, h₂⟩ |
    ⟨t, s₁, p, s₂, u, s₃, dst, s₄, h₁, h₂, h₃, h₄, h₅⟩ | ⟨p, s₁, u, s₂, u', h₁, h₂, h₃, -⟩ |
    ⟨t, s₁, h₁, ⟨-, -, rfl⟩ | ⟨dst, s₂, h₂, h₃⟩⟩
  · exact Tally.refl hr
  · exact (freshVar_quiet hr hn h₁).seqQuiet hn
      (emit_quiet (by split <;> rfl) (by split <;> rfl) (by split <;> rfl)) h₂
  · exact ((((lowerType_quiet hr hn h₁).seqQuiet hn freshVar_quiet h₂).seqQuiet hn
      (emit_quiet rfl rfl rfl) h₃).seqQuiet hn freshVar_quiet h₄).seqQuiet hn
      (emit_quiet rfl rfl rfl) h₅
  · exact (((freshVar_quiet hr hn h₁).seqQuiet hn (emit_quiet rfl rfl rfl) h₂).seqQuiet hn
      (emit_quiet rfl rfl rfl) h₃)
  · exact lowerType_quiet hr hn h₁
  · exact ((lowerType_quiet hr hn h₁).seqQuiet hn freshVar_quiet h₂).seqQuiet hn
      (emit_quiet rfl rfl rfl) h₃

theorem fieldOffset_quiet {field : Tree.FieldRef} {receiverTy : Tree.Ty} {span : Span} :
    Quiet (fieldOffset field receiverTy span) ctx := by
  intro n L D s s' off hr hn h
  obtain ⟨cls, k, -, hk, -⟩ := fieldOffset_steps h
  exact klassId_quiet hr hn hk

theorem objectValue_quiet {cls : Tree.DefId} {span : Span} : Quiet (objectValue cls span) ctx := by
  intro n L D s s' v hr hn h
  rcases objectValue_steps h with ⟨-, rfl⟩ |
    ⟨k, s₁, inst, s₂, u₁, s₃, ok, s₄, u₂, s₅, cont, s₆, init, s₇, u₃, s₈, u₄, s₉,
      h₁, h₂, h₃, h₄, h₅, h₆, h₇, h₈, h₉, rfl, -⟩
  · exact Tally.refl hr
  · have t₅ : Tally n L D s s₅ 0 :=
      ((((klassId_quiet hr hn h₁).seqQuiet hn freshVar_quiet h₂).seqQuiet hn
        (emit_quiet rfl rfl rfl) h₃).seqQuiet hn freshVar_quiet h₄).seqQuiet hn
        (emit_quiet rfl rfl rfl) h₅
    have hn₅ := Nat.le_trans hn t₅.grows
    obtain ⟨rfl, l₆, t₆⟩ := newBlock_tally (L := L) (D := D) t₅.inRange hn₅ h₆
    obtain ⟨rfl, l₇, t₇⟩ := newBlock_tally (n := n) (L := L) (D := D) t₆.inRange
      (by rw [l₆]; exact Nat.le_succ_of_le hn₅) h₇
    have t₈ := (t₅.zero_trans t₆ |>.zero_trans t₇).seqEmit hn
      (Instr.staysAbove_condBr (by omega) (by omega)) h₈
    -- the initialization block only branches on to the continuation
    have l₈ := (emit_keeps h₈).blocks.1
    have t₈' : Tally n L D s (s₈.moveTo s₆.curFn.blocks.length) 0 := t₈.moveTo (by omega) (by omega)
    have t₉ := (t₈'.warn _ _ _).seqEmit hn (Instr.staysAbove_br hn₅) h₉
    have l₉ : s₈.curFn.blocks.length ≤ s₉.curFn.blocks.length := (emit_keeps h₉).blocks.1
    exact t₉.moveTo (by omega) hn₅

end Primitives

/-! ## Composing tallies -/

section Composing

variable {ctx : Context} {n : Nat} {L : List LoopFrame} {D : Option Nat}
  {s s₁ s₂ s' : State} {x y : Escapes}

/-- A lowering whose code sends out `x`: a run of it from a state in range is tallied against
any earlier blocks, in the loops and under the landing block of the state it starts from. -/
def Tallies {α : Type} (m : LowerM α) (x : Escapes) (ctx : Context) : Prop :=
  ∀ {n : Nat} {s s' : State} {a : α}, InRange s → n ≤ s.curFn.blocks.length →
    m ctx s = .ok (a, s') → Tally n s.loops s.landing s s' x

def ArmsTally (arms : List Arm) (x : Escapes) (ctx : Context) : Prop :=
  ∀ {n : Nat} {s s' : State} {result : Option Var} {exit : Nat}, InRange s → n ≤ exit →
    exit < s.curFn.blocks.length → lowerArms arms result exit ctx s = .ok ((), s') →
    Tally n s.loops s.landing s s' x

/-- The handlers of a `try` whose code sends out `x`, lowered into an exit block made before
them. -/
def HandlersTally (cs : List Catch) (x : Escapes) (ctx : Context) : Prop :=
  ∀ {n : Nat} {s s' : State} {exn : Operand} {result : Option Var} {exit : Nat}, InRange s →
    n ≤ exit → exit < s.curFn.blocks.length →
    lowerHandlers cs exn result exit ctx s = .ok ((), s') → Tally n s.loops s.landing s s' x

theorem Tally.join (h₁ : Tally n s.loops s.landing s s₁ x)
    (h₂ : Tally n s₁.loops s₁.landing s₁ s₂ y) : Tally n s.loops s.landing s s₂ (x + y) := by
  rw [h₁.keeps.loops, h₁.keeps.landing] at h₂
  exact h₁.trans h₂

theorem Tally.zero_join (h₁ : Tally n s.loops s.landing s s₁ 0)
    (h₂ : Tally n s₁.loops s₁.landing s₁ s₂ y) : Tally n s.loops s.landing s s₂ y := by
  simpa using h₁.join h₂

theorem Tally.seq {α : Type} {m : LowerM α} {a : α} (h₁ : Tally n s.loops s.landing s s₁ x)
    (hn : n ≤ s.curFn.blocks.length) (hm : Tallies m y ctx) (h : m ctx s₁ = .ok (a, s₂)) :
    Tally n s.loops s.landing s s₂ (x + y) :=
  h₁.join (hm h₁.inRange (Nat.le_trans hn h₁.grows) h)

theorem Tally.zero_seq {α : Type} {m : LowerM α} {a : α} (h₁ : Tally n s.loops s.landing s s₁ 0)
    (hn : n ≤ s.curFn.blocks.length) (hm : Tallies m y ctx) (h : m ctx s₁ = .ok (a, s₂)) :
    Tally n s.loops s.landing s s₂ y :=
  h₁.zero_join (hm h₁.inRange (Nat.le_trans hn h₁.grows) h)

theorem Tally.withLoop {fr : LoopFrame} {b e : Nat}
    (h : Tally n (fr :: s.loops) s.landing ({ s with loops := fr :: s.loops }.moveTo b) s' x)
    (hb : n ≤ b) (hc : n ≤ fr.check) (hx : n ≤ fr.exit) (he : e < s'.curFn.blocks.length)
    (hne : n ≤ e) :
    Tally n s.loops s.landing s ({ s' with loops := s'.loops.tail }.moveTo e) (x.bind fr.loop) :=
  have h' := h.bind hc hx
  { resolved := h'.resolved
    inDegree := h'.inDegree
    calls := h'.calls
    invokes := h'.invokes
    cursor := .inr hne
    frame := fun a ha _ => h'.frame a ha (by show a ≠ b; omega)
    keeps := Keeps.withLoop h.keeps
    inRange := ⟨h.inRange.1, he⟩
    exits := h'.exits }

theorem Tallies.inLoop {α : Type} {m : LowerM α} {a : α} {fr : LoopFrame} {b : Nat}
    (hm : Tallies m x ctx) (hr : InRange s) (hn : n ≤ s.curFn.blocks.length)
    (hb : b < s.curFn.blocks.length)
    (h : m ctx ({ s with loops := fr :: s.loops }.moveTo b) = .ok (a, s')) :
    Tally n ({ s with loops := fr :: s.loops }.moveTo b).loops
      ({ s with loops := fr :: s.loops }.moveTo b).landing ({ s with loops := fr :: s.loops }.moveTo b)
      s' x :=
  hm (s := { s with loops := fr :: s.loops }.moveTo b) ⟨hr.1, hb⟩ hn h

theorem Tally.restoreCursor (h : Tally n L D s s' x) (hr : InRange s) :
    Tally n L D s { s' with cursor := s.cursor } x := by
  have hf : ({ s' with cursor := s.cursor } : State).curFn = s'.curFn := by
    show s'.fn s.cursor.fn = s'.fn s'.cursor.fn
    rw [h.keeps.fn]
  refine ⟨h.resolved, fun t ht => ?_, ?_, ?_, .inl rfl, fun a ha hne => ?_, h.keeps.restore rfl,
    ⟨?_, ?_⟩, ?_⟩
  · rw [hf]
    exact h.inDegree t ht
  · rw [hf]
    exact h.calls
  · rw [hf]
    exact h.invokes
  · rw [hf]
    exact h.frame a ha hne
  · exact Nat.lt_of_lt_of_le hr.1 h.keeps.fnCount
  · rw [hf]
    exact Nat.lt_of_lt_of_le hr.2 h.grows
  · rw [hf]
    exact h.exits

theorem Tally.withLanding {l l' : Option Nat} (h : Tally n L D { s with landing := l } s' x)
    (hl : s.landing = l') : Tally n L D s { s' with landing := l' } x :=
  { h with keeps := Keeps.withLanding h.keeps hl }

end Composing

end Isel.Lower
