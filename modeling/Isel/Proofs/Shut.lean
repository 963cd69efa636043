import Isel.Proofs.Regions

/-! # Blocks that later code leaves alone

A set `I` of blocks of function `F` is fenced in a state when `F` is a function of the program,
the state's cursor is in range, the blocks exist and, while `F` is being built, no enclosing
loop nor the landing block names one of them. Code that runs from such a state appends no
instruction that branches into `I`, and leaves `I` fenced: `Shut` states this of a run and
composes along runs made one after the other. At the end of a shut run, every edge into `I` is
one that was there at its start (`Shut.edges`).

Selection branches to the blocks a construct has made, to the blocks of the loops around it, to
the landing block, and to blocks it makes later. Each step below is shut when the blocks it is
handed lie outside `I`; a whole lowering is shut from a fenced state, since its tally sends
every edge to an older block through an enclosing loop or the landing block.
-/

namespace Isel.Graph

theorem Block.mem_successors {b : Block} {t : Nat} (ht : t ∈ b.successors) :
    ∃ i, b.instrs.getLast? = some i ∧ t ∈ i.successors := by
  unfold Block.successors at ht
  split at ht
  · rename_i i hl
    split at ht
    · exact ⟨i, hl, ht⟩
    · simp at ht
  · simp at ht

/-- An edge out of a block of grown blocks is an edge the block had, or an edge of an
instruction appended to it. -/
theorem Added.of_successor {bs bs' : List Block} {a t : Nat} {b' : Block} (g : BlocksGrow bs bs')
    (hb : bs'[a]? = some b') (ht : t ∈ b'.successors) :
    (∃ b, bs[a]? = some b ∧ t ∈ b.successors) ∨ ∃ i, Added bs bs' a i ∧ t ∈ i.successors := by
  obtain ⟨i, hl, hi⟩ := Block.mem_successors ht
  cases hb₀ : bs[a]? with
  | none =>
    -- a new block: all its instructions were appended
    exact .inr ⟨i, ⟨b', hb, by simpa [instrCount, hb₀] using List.mem_of_getLast? hl⟩, hi⟩
  | some b =>
    obtain ⟨b'', hb'', r, hr⟩ := g.2 a b hb₀
    rw [hb, Option.some_inj] at hb''
    subst hb''
    by_cases hr₀ : r = []
    · -- nothing was appended: the block ends as it did
      subst hr₀
      rw [List.append_nil] at hr
      refine .inl ⟨b, rfl, ?_⟩
      unfold Block.successors at ht ⊢
      rw [hr]
      exact ht
    · -- the last instruction is an appended one
      rw [← hr, List.getLast?_append_of_ne_nil _ hr₀] at hl
      refine .inr ⟨i, ⟨b', hb, ?_⟩, hi⟩
      rw [instrCount_of_getElem? hb₀, ← hr, List.drop_left]
      exact List.mem_of_getLast? hl

end Isel.Graph

namespace Isel.Lower

open Isel.Graph (Block Instr Operand BlocksGrow)
open Isel.Tree (Expr Arm Catch)

theorem Unnamed.tail {L : List LoopFrame} {D : Option Nat} {t : Nat} (h : Unnamed L D t) :
    Unnamed L.tail D t :=
  ⟨fun fr hfr => h.1 fr (List.mem_of_mem_tail hfr), h.2⟩

theorem Unnamed.cons {L : List LoopFrame} {D : Option Nat} {t : Nat} {fr : LoopFrame}
    (h : Unnamed L D t) (hc : fr.check ≠ t) (he : fr.exit ≠ t) : Unnamed (fr :: L) D t := by
  refine ⟨fun f hf => ?_, h.2⟩
  rcases List.mem_cons.1 hf with rfl | hf
  · exact ⟨hc, he⟩
  · exact h.1 f hf

/-- The blocks `I` of function `F` of the program exist, and while `F` is built no enclosing
loop nor the landing block names one of them; the cursor is in range. -/
structure Fenced (F : Nat) (I : Nat → Prop) (s : State) : Prop where
  fn : F < s.program.functions.length
  placed : InRange s
  made : ∀ t, I t → t < (s.fn F).blocks.length
  unnamed : s.cursor.fn = F → ∀ t, I t → Unnamed s.loops s.landing t

/-- From `s` to `s'` the blocks of `F` only grow, no instruction appended to them branches into
`I`, and `I` stays fenced. -/
structure Shut (F : Nat) (I : Nat → Prop) (s s' : State) : Prop where
  grows : BlocksGrow (s.fn F).blocks (s'.fn F).blocks
  added : ∀ l i, Graph.Added (s.fn F).blocks (s'.fn F).blocks l i → ∀ t ∈ i.successors, ¬ I t
  fenced : Fenced F I s'

variable {ctx : Context} {F : Nat} {I : Nat → Prop} {s s₁ s₂ s' : State}

namespace Fenced

theorem keeps (hs : Fenced F I s) (hk : Keeps s s') (hr : InRange s') : Fenced F I s' :=
  ⟨Nat.lt_of_lt_of_le hs.fn hk.fnCount, hr,
    fun t ht => Nat.lt_of_lt_of_le (hs.made t ht) (hk.grows F).1,
    fun hF t ht => (hs.unnamed (hk.fn.symm.trans hF) t ht).keeps hk⟩

/-- A block made after `I` was fenced is not in `I`. -/
theorem not_mem (hs : Fenced F I s) (hF : s.cursor.fn = F) {b : Nat}
    (hb : s.curFn.blocks.length ≤ b) : ¬ I b := fun hI => by
  have hlt := hs.made b hI
  rw [← hF] at hlt
  exact absurd hb (Nat.not_le.2 hlt)

theorem moveTo (hs : Fenced F I s) {b : Nat} (hb : b < s.curFn.blocks.length) :
    Fenced F I (s.moveTo b) :=
  ⟨hs.fn, hs.placed.moveTo hb, hs.made, hs.unnamed⟩

/-- Entering a loop whose blocks lie outside `I`. -/
theorem enterLoop (hs : Fenced F I s) {fr : LoopFrame} (hc : ¬ I fr.check) (he : ¬ I fr.exit)
    {b : Nat} (hb : b < s.curFn.blocks.length) :
    Fenced F I ({ s with loops := fr :: s.loops }.moveTo b) :=
  ⟨hs.fn, ⟨hs.placed.1, hb⟩, hs.made, fun hF t ht =>
    (hs.unnamed hF t ht).cons (fun h => hc (h ▸ ht)) fun h => he (h ▸ ht)⟩

theorem leaveLoop (hs : Fenced F I s) {b : Nat} (hb : b < s.curFn.blocks.length) :
    Fenced F I ({ s with loops := s.loops.tail }.moveTo b) :=
  ⟨hs.fn, ⟨hs.placed.1, hb⟩, hs.made, fun hF t ht => (hs.unnamed hF t ht).tail⟩

end Fenced

namespace Shut

theorem refl (hs : Fenced F I s) : Shut F I s s :=
  ⟨BlocksGrow.refl _, fun _ _ ha => absurd ha Graph.Added.not_refl, hs⟩

theorem trans (h₁ : Shut F I s s₁) (h₂ : Shut F I s₁ s₂) : Shut F I s s₂ :=
  ⟨h₁.grows.trans h₂.grows,
    fun l i ha => (Graph.Added.split h₂.grows ha).elim (h₁.added l i) (h₂.added l i), h₂.fenced⟩

/-- A step that changes no block of `F`. -/
theorem of_blocks (hs : Fenced F I s') (hb : (s'.fn F).blocks = (s.fn F).blocks) :
    Shut F I s s' := by
  refine ⟨by rw [hb], fun l i ha => ?_, hs⟩
  rw [hb] at ha
  exact absurd ha Graph.Added.not_refl

theorem moveTo (hs : Fenced F I s) {b : Nat} (hb : b < s.curFn.blocks.length) :
    Shut F I s (s.moveTo b) :=
  of_blocks (hs.moveTo hb) rfl

/-- Every edge into `I` at the end of a shut run was there at its start. -/
theorem edges (h : Shut F I s s') {a t : Nat} (he : (a, t) ∈ (s'.fn F).edges) (ht : I t) :
    (a, t) ∈ (s.fn F).edges := by
  obtain ⟨b', hb', hs⟩ := Graph.Function.mem_edges.1 he
  rcases Graph.Added.of_successor h.grows hb' hs with ⟨b, hb, hs'⟩ | ⟨i, ha, hi⟩
  · exact Graph.Function.mem_edges.2 ⟨b, hb, hs'⟩
  · exact absurd ht (h.added a i ha t hi)

end Shut

/-- A step that keeps the frame is shut when what it appends to `F` branches outside `I`. -/
theorem Keeps.shut (hk : Keeps s s') (hs : Fenced F I s) (hr : InRange s')
    (ha : s.cursor.fn = F → ∀ l i, Graph.Added s.curFn.blocks s'.curFn.blocks l i →
      ∀ t ∈ i.successors, ¬ I t) : Shut F I s s' := by
  refine ⟨hk.grows F, fun l i hl => ?_, hs.keeps hk hr⟩
  by_cases hF : s.cursor.fn = F
  · subst hF
    have hcur : s'.fn s.cursor.fn = s'.curFn := by rw [State.curFn, hk.fn]
    rw [hcur] at hl
    exact ha rfl l i hl
  · rw [hk.others F (Ne.symm hF)] at hl
    exact absurd hl Graph.Added.not_refl

/-- A tallied run from a fenced state is shut: its edges into older blocks go to an enclosing
loop or to the landing block, which name no block of `I`, and the blocks it makes are new. -/
theorem Tally.shut {x : Escapes} (h : Tally s.curFn.blocks.length s.loops s.landing s s' x)
    (hs : Fenced F I s) : Shut F I s s' := by
  refine h.keeps.shut hs h.inRange fun hF l i ha t ht hI => ?_
  have hlt := hs.made t hI
  rw [← hF] at hlt
  have hu := hs.unnamed hF t hI
  rcases (h.exits l i t ha ht hlt).loop_or_landing with ⟨-, fr, hfr, hft⟩ | ⟨-, hl⟩
  · rcases hft with hft | hft
    · exact (hu.1 fr hfr).1 hft.symm
    · exact (hu.1 fr hfr).2 hft.symm
  · exact hu.2 hl

theorem Tallies.shut {α : Type} {m : LowerM α} {a : α} {x : Escapes} (hm : Tallies m x ctx)
    (hs : Fenced F I s) (h : m ctx s = .ok (a, s')) : Shut F I s s' :=
  (hm hs.placed (Nat.le_refl _) h).shut hs

theorem Quiet.shut {α : Type} {m : LowerM α} {a : α} (hm : Quiet m ctx) (hs : Fenced F I s)
    (h : m ctx s = .ok (a, s')) : Shut F I s s' :=
  (hm (L := s.loops) (D := s.landing) hs.placed (Nat.le_refl _) h).shut hs

/-! ## The steps -/

theorem push_added {i i' : Instr} {l : Nat}
    (ha : Graph.Added s.curFn.blocks (s.push i).curFn.blocks l i') : i' = i := by
  rcases State.curFn_mapFn_cases s (·.pushAt s.cursor.block i) with hf | hf <;>
    rw [State.push, hf] at ha
  · exact Graph.Added.eq_of_push ha
  · exact absurd ha Graph.Added.not_refl

theorem emit_shut {i : Instr} {u : Operand} (hs : Fenced F I s) (h : emit i ctx s = .ok (u, s'))
    (hi : ∀ t ∈ i.successors, ¬ I t) : Shut F I s s' :=
  (emit_keeps h).shut hs (emit_effect hs.placed h).2.2.2.2.2 fun _ _ _ ha => by
    rw [emit_added h ha]
    exact hi

theorem jumpIfOpen_shut {b : Nat} (hs : Fenced F I s) (h : jumpIfOpen b ctx s = .ok ((), s'))
    (hb : ¬ I b) : Shut F I s s' := by
  refine (jumpIfOpen_keeps h).shut hs (jumpIfOpen_tally (n := 0) (L := []) (D := none) hs.placed
    (Nat.zero_le _) (Nat.zero_le _) h).inRange fun _ l i ha => ?_
  obtain ⟨-, rfl⟩ := jumpIfOpen_ok h
  split at ha
  · exact absurd ha Graph.Added.not_refl
  · rw [push_added ha]
    simpa [Instr.successors] using hb

theorem finishArm_shut {a : Operand} {result : Option Graph.Var} {exit : Nat} (hs : Fenced F I s)
    (h : finishArm a result exit ctx s = .ok ((), s')) (he : ¬ I exit) : Shut F I s s' := by
  rcases finishArm_steps h with ⟨-, rfl⟩ | ⟨-, s₁, u, h₁, h₂⟩
  · exact Shut.refl hs
  · -- the result is moved first, if there is one, then the arm branches to the exit
    have k₁ : Shut F I s s₁ := by
      rcases h₁ with ⟨-, rfl⟩ | ⟨r, u₀, -, h₁⟩
      · exact Shut.refl hs
      · exact emit_shut hs h₁ (by simp [Instr.successors])
    exact k₁.trans (emit_shut k₁.fenced h₂ (by simpa [Instr.successors] using he))

theorem newBlock_shut {l : String} {b : Nat} (hs : Fenced F I s)
    (h : newBlock l ctx s = .ok (b, s')) : Shut F I s s' := by
  refine (newBlock_keeps h).shut hs (newBlock_tally (n := 0) (L := []) (D := none) hs.placed
    (Nat.zero_le _) h).2.2.inRange fun _ k i ha => ?_
  obtain ⟨-, -, rfl⟩ := newBlock_ok h
  rcases State.curFn_mapFn_cases s (·.addBlock l) with hf | hf <;> rw [State.addBlock, hf] at ha
  · exact absurd ha Graph.Added.not_append
  · exact absurd ha Graph.Added.not_refl

/-- The block `newBlock` makes is not in a fenced `I`. -/
theorem newBlock_not_mem {l : String} {b : Nat} (hs : Fenced F I s) (hF : s.cursor.fn = F)
    (h : newBlock l ctx s = .ok (b, s')) : ¬ I b := by
  obtain ⟨-, rfl, -⟩ := newBlock_ok h
  exact hs.not_mem hF (Nat.le_refl _)

end Isel.Lower
