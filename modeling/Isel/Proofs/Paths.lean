import Isel.Graph.Program

/-! # Variables defined before their use

A path through a function starts at its entry block and goes from each block to a successor of
its terminator. Along a path every instruction defines its destination, except that an `invoke`
defines its result only when the path takes its normal edge. A function defines before use when
every variable an instruction reads is a parameter, an exempt variable, or defined by an
instruction earlier on every path to it.

This is shown by a certificate: for every block a list of variables, defined on every path to
it, that is empty at the entry and that every instruction and every edge respects.
-/

namespace Isel.Graph

mutual

def Operand.vars : Operand → List Var
  | .var v => [v]
  | .const _ c => c.vars
  | .null | .unit => []

def ConstValue.vars : ConstValue → List Var
  | .elements items => Operand.listVars items
  | _ => []

def Operand.listVars : List Operand → List Var
  | [] => []
  | o :: os => o.vars ++ Operand.listVars os

end

theorem Operand.mem_listVars {v : Var} :
    ∀ {os : List Operand}, v ∈ Operand.listVars os ↔ ∃ o ∈ os, v ∈ o.vars
  | [] => by simp [Operand.listVars]
  | o :: os => by simp [Operand.listVars, Operand.mem_listVars]

namespace Instr

def operands : Instr → List Operand
  | .binary _ _ a b | .compare _ _ a b | .gep _ a b | .store a b _ => [a, b]
  | .load _ a _ | .cast _ a | .trunc _ a | .sext _ a | .bitcast _ a | .mov _ a
  | .typeTest _ _ a _ | .condBr a _ _ | .ret a => [a]
  | .call _ _ args | .invoke _ _ args _ _ => args
  | .alloc _ _ | .br _ | .landingPad _ => []

def uses (i : Instr) : List Var := Operand.listVars i.operands

/-- What an instruction defines whichever way control leaves it: its destination, but nothing
for an `invoke`. -/
def defs : Instr → List Var
  | .invoke .. => []
  | i => i.dst?.toList

/-- What an instruction defines when control goes on to block `t`: an `invoke` defines its
result on its normal edge only. -/
def defsTowards (t : Nat) : Instr → List Var
  | .invoke _ d _ n _ => if n = t then d.toList else []
  | i => i.dst?.toList

theorem defs_subset_defsTowards (i : Instr) (t : Nat) : i.defs ⊆ i.defsTowards t := by
  cases i <;> simp [defs, defsTowards]

end Instr

def Block.defsTowards (b : Block) (t : Nat) : List Var := b.instrs.flatMap (·.defsTowards t)

namespace Function

/-- `f.Reaches b vs`: a path from the entry reaches block `b` having defined `vs`. -/
inductive Reaches (f : Function) : Nat → List Var → Prop
  | entry : f.Reaches 0 []
  | step {b t : Nat} {vs : List Var} {blk : Block} : f.Reaches b vs → f.blocks[b]? = some blk →
      t ∈ blk.successors → f.Reaches t (vs ++ blk.defsTowards t)

/-- Every variable an instruction reads is a parameter, exempt, or defined before it on the path
that reached it, whichever path that is. -/
def DefinesBeforeUse (f : Function) (exempt : Var → Prop) : Prop :=
  ∀ b vs blk, f.Reaches b vs → f.blocks[b]? = some blk → ∀ k i, blk.instrs[k]? = some i →
    ∀ v ∈ i.uses, v ∈ f.params ∨ exempt v ∨ v ∈ vs ∨ v ∈ (blk.instrs.take k).flatMap Instr.defs

/-- `A b` lists variables that every path defines before it enters block `b`. -/
structure Certificate (f : Function) (exempt : Var → Prop) (A : Nat → List Var) : Prop where
  entry : A 0 = []
  uses : ∀ b blk, f.blocks[b]? = some blk → ∀ k i, blk.instrs[k]? = some i → ∀ v ∈ i.uses,
    v ∈ f.params ∨ exempt v ∨ v ∈ A b ∨ v ∈ (blk.instrs.take k).flatMap Instr.defs
  edges : ∀ b blk, f.blocks[b]? = some blk → ∀ t ∈ blk.successors,
    t < f.blocks.length ∧ A t ⊆ A b ++ blk.defsTowards t

variable {f : Function} {exempt : Var → Prop} {A : Nat → List Var}

theorem Certificate.reaches (hc : f.Certificate exempt A) {b : Nat} {vs : List Var}
    (h : f.Reaches b vs) : A b ⊆ vs := by
  induction h with
  | entry => simp [hc.entry]
  | step _ hblk ht ih =>
    intro v hv
    rcases List.mem_append.1 ((hc.edges _ _ hblk _ ht).2 hv) with hv | hv
    · exact List.mem_append_left _ (ih hv)
    · exact List.mem_append_right _ hv

theorem Certificate.definesBeforeUse (hc : f.Certificate exempt A) : f.DefinesBeforeUse exempt := by
  intro b vs blk hr hblk k i hi v hv
  rcases hc.uses b blk hblk k i hi v hv with hp | he | ha | hd
  · exact .inl hp
  · exact .inr (.inl he)
  · exact .inr (.inr (.inl (hc.reaches hr ha)))
  · exact .inr (.inr (.inr hd))

end Function

end Isel.Graph
