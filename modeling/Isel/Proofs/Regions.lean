import Isel.Proofs.Sealing
import Isel.Proofs.Reach

/-! # The blocks of an expression form a region entered at its start

Lowering an expression appends its instructions to the block `b₀` at the cursor when it
starts, or to the blocks it makes; these are numbered from the length `n` the function had
then. The blocks below `n` other than `b₀` keep their instructions, and each was sound before,
so none branches to a block from `n` on: every edge into the new blocks leaves `b₀` or a new
block, and every path from the entry to a new block goes through `b₀`.

The edges the code adds back below `n` are those its tally allows (`Tally.exits`): a `break` or
a `continue` to a block of an enclosing loop, or a call unwinding to the landing block of the
innermost `try` with handlers. Lowering ends at `b₀` or at a new block, every other new block
has ended, and no enclosing loop nor the landing block names a new block, so code lowered later
adds no edge into the region (`lowerExpr_preds_sealed`).
-/

namespace Isel.Graph.Function

/-- Every path from the entry to block `t` takes a step out of block `d`: no path that never
leaves `d` reaches `t`. For `t ≠ d` this is that `d` dominates `t`. -/
def Dominates (f : Function) (d t : Nat) : Prop :=
  ¬ Relation.ReflTransGen (fun x y => x ≠ d ∧ f.Step x y) 0 t

theorem dominates_of_entries {f : Function} {S : Nat → Prop} {d t : Nat} (h₀ : ¬ S 0)
    (hin : ∀ x y, f.Step x y → ¬ S x → S y → x = d) (ht : S t) : f.Dominates d t := by
  intro hpath
  -- along a path that never leaves `d`, every block is outside `S`
  have hout : ∀ y, Relation.ReflTransGen (fun x y => x ≠ d ∧ f.Step x y) 0 y → ¬ S y := by
    intro y hy
    induction hy with
    | refl => exact h₀
    | tail _ hxy ih => exact fun hy => hxy.1 (hin _ _ hxy.2 ih hy)
  exact hout t hpath ht

end Isel.Graph.Function

namespace Isel.Lower

open Isel.Graph (Block Instr Operand)
open Isel.Tree (Expr)

theorem Escapes.Exits.loop_or_landing {x : Escapes} {L : List LoopFrame} {D : Option Nat}
    {i : Instr} {t : Nat} (h : x.Exits L D i t) :
    (i = .br t ∧ ∃ fr ∈ L, t = fr.check ∨ t = fr.exit) ∨
      ((∃ callee dst args normal, i = .invoke callee dst args normal t) ∧ D = some t) := by
  rcases h with ⟨hi, j, -, hr⟩ | ⟨hi, hl, -⟩
  · obtain ⟨fr, hfr, ht⟩ := resolve_eq_some hr
    refine .inl ⟨hi, fr, hfr, ?_⟩
    obtain ⟨k, l⟩ := j
    cases k with
    | breakLoop => exact .inr ht.symm
    | continueLoop => exact .inl ht.symm
  · exact .inr ⟨hi, hl⟩

/-- What lowering from `s` to `s'` makes of the blocks from `s.curFn.blocks.length` on, the
region, with `s.cursor.block` its entry. -/
structure SingleEntry (s s' : State) : Prop where
  /-- No other function gains or loses a block. -/
  others : ∀ j, j ≠ s.cursor.fn → (s'.fn j).blocks = (s.fn j).blocks
  /-- Instructions go to the entry or to the region. -/
  appended : ∀ l i, Graph.Added s.curFn.blocks s'.curFn.blocks l i →
    l = s.cursor.block ∨ s.curFn.blocks.length ≤ l
  /-- Every edge into the region leaves the entry or the region. -/
  entries : ∀ a t, (a, t) ∈ s'.curFn.edges → s.curFn.blocks.length ≤ t →
    a = s.cursor.block ∨ s.curFn.blocks.length ≤ a
  /-- Hence every path from the entry of the function to the region goes through the entry. -/
  dominated : ∀ t, s.curFn.blocks.length ≤ t → s'.curFn.Dominates s.cursor.block t
  /-- An edge added out of the region is a `break` or a `continue` to a block of an enclosing
  loop, or a call unwinding to the landing block. -/
  exits : ∀ l i t, Graph.Added s.curFn.blocks s'.curFn.blocks l i → t ∈ i.successors →
    t < s.curFn.blocks.length →
    (i = .br t ∧ ∃ fr ∈ s.loops, t = fr.check ∨ t = fr.exit) ∨
      ((∃ callee dst args normal, i = .invoke callee dst args normal t) ∧ s.landing = some t)
  /-- Lowering ends at the entry or in the region, -/
  cursor : s'.cursor.block = s.cursor.block ∨ s.curFn.blocks.length ≤ s'.cursor.block
  /-- and the blocks of the region it leaves have ended. -/
  ended : ∀ t (b : Block), s'.curFn.blocks[t]? = some b → s.curFn.blocks.length ≤ t →
    t ≠ s'.cursor.block → b.isTerminal = true
  /-- No enclosing loop nor the landing block names a block of the region. -/
  unnamed : ∀ t, s.curFn.blocks.length ≤ t → Unnamed s'.loops s'.landing t

variable {ctx : Context} {P : Cursor → Prop} {L : List LoopFrame} {D : Option Nat}
  {s s' : State} {x : Escapes}

theorem Tally.appended {n l : Nat} {i : Instr} (h : Tally n L D s s' x)
    (ha : Graph.Added s.curFn.blocks s'.curFn.blocks l i) : l = s.cursor.block ∨ n ≤ l := by
  by_cases hc : l = s.cursor.block
  · exact .inl hc
  refine .inr (Nat.le_of_not_lt fun hl => ?_)
  exact Graph.Added.not_of_getElem?_eq (h.frame l hl hc) ha

theorem Tally.entries (h : Tally s.curFn.blocks.length L D s s' x) (hb : Built P s) {a t : Nat}
    (he : (a, t) ∈ s'.curFn.edges) (ht : s.curFn.blocks.length ≤ t) :
    a = s.cursor.block ∨ s.curFn.blocks.length ≤ a := by
  by_cases hc : a = s.cursor.block
  · exact .inl hc
  refine .inr (Nat.le_of_not_lt fun ha => ?_)
  obtain ⟨b, hab, hs⟩ := Graph.Function.mem_edges.1 he
  rw [h.frame a ha hc] at hab
  have hlt : t < s.curFn.blocks.length := (hb.sound ⟨s.cursor.fn, a⟩ b hab).successor_lt hs
  omega

/-- Lowering an expression makes a region entered at its start, when the pending blocks of the
function are blocks it had then. The region's instructions go to the block at the cursor when
it starts, its entry, or to the blocks it makes, and no other function changes. Every edge into
a new block leaves the entry or a new block, so the entry dominates the new blocks. An edge
added back to an earlier block is a `break` or a `continue` to the test or the exit of an
enclosing loop, or a call unwinding to the landing block of the innermost `try` with handlers.
Lowering ends at the entry or at a new block, and the other new blocks have ended; as no
enclosing loop nor the landing block names a new block, code lowered later adds no edge into
them. -/
theorem lowerExpr_single_entry {e : Expr} {v : Operand} (hb : Built P s)
    (hP : ∀ c, P c → c.fn = s.cursor.fn → c.block < s.curFn.blocks.length)
    (h : lowerExpr e ctx s = .ok (v, s')) : SingleEntry s s' := by
  have tally := lowerExpr_tally e hb.inRange (Nat.le_refl _) h
  have built := lowerExpr_built e hb h
  refine ⟨tally.keeps.others, fun l i ha => tally.appended ha,
    fun a t he ht => tally.entries hb he ht, fun t ht => ?_,
    fun l i t ha hs ht => (tally.exits l i t ha hs ht).loop_or_landing, tally.cursor,
    fun t b hbt ht hne => ?_, fun t ht => (hb.unnamed ht).keeps tally.keeps⟩
  · -- the entry block is an old block, as the cursor's block is one
    refine Graph.Function.dominates_of_entries (S := (s.curFn.blocks.length ≤ ·))
      (by have := hb.cursor.2; omega) (fun a u hau ha hu => ?_) ht
    obtain ⟨bl, hbl, hu'⟩ := hau
    exact (tally.entries hb (Graph.Function.mem_edges.2 ⟨bl, hbl, hu'⟩) hu).resolve_right ha
  · -- a new block that has not ended is the cursor's or pending, and pending blocks are old
    rcases built.closed ⟨s'.cursor.fn, t⟩ b hbt with hend | hcur | hp
    · exact hend
    · exact absurd (congrArg Cursor.block hcur) hne
    · have hlt : t < s.curFn.blocks.length := hP _ hp tally.keeps.fn
      omega

end Isel.Lower
