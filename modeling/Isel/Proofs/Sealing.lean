import Isel.Proofs.LowerTally
import Isel.Proofs.Closed

/-! # Blocks out of reach of later code

Code branches to an earlier block only through a jump that an enclosing loop resolves or a call
that lands on the enclosing landing block. So a block that no enclosing loop names and that is
not the landing block keeps the edges into it while any expression is lowered
(`lowerExpr_preds_sealed`), and a block made fresh starts with none. Between the two, the tally
of the code in between counts the edges into the blocks a construct makes.
-/

namespace Isel.Graph

theorem Block.Sound.successor_lt {m t : Nat} {bs : List Block} {b : Block} (hs : b.Sound m bs)
    (ht : t ∈ b.successors) : t < bs.length := by
  unfold Block.successors at ht
  split at ht
  · rename_i i hi
    split at ht
    · exact (hs.instrs i (List.mem_of_getLast? hi)).targets t ht
    · simp at ht
  · simp at ht

end Isel.Graph

namespace Isel.Lower

open Isel.Graph (Block Instr)
open Isel.Tree (Expr)

variable {ctx : Context} {P : Cursor → Prop} {n : Nat} {L : List LoopFrame} {D : Option Nat}
  {s s' : State} {x : Escapes} {t : Nat}

def Unnamed (L : List LoopFrame) (D : Option Nat) (t : Nat) : Prop :=
  (∀ fr ∈ L, fr.check ≠ t ∧ fr.exit ≠ t) ∧ D ≠ some t

theorem Unnamed.keeps (h : Unnamed s.loops s.landing t) (hk : Keeps s s') :
    Unnamed s'.loops s'.landing t := by
  rw [hk.loops, hk.landing]
  exact h

theorem Built.inDegree_eq_zero (hb : Built P s) (ht : s.curFn.blocks.length ≤ t) :
    s.curFn.inDegree t = 0 := by
  rw [Graph.Function.inDegree_eq_sum]
  refine List.sum_eq_zero_iff_forall_eq_nat.2 fun k hk => ?_
  obtain ⟨b, hm, rfl⟩ := List.mem_map.1 hk
  obtain ⟨i, hi, rfl⟩ := List.getElem_of_mem hm
  have hs : s.curFn.blocks[i].Sound s.program.functions.length s.curFn.blocks :=
    hb.sound ⟨s.cursor.fn, i⟩ _ (List.getElem?_eq_getElem hi)
  refine List.count_eq_zero_of_not_mem fun hmem => ?_
  have := hs.successor_lt hmem
  omega

theorem Built.unnamed (hb : Built P s) (ht : s.curFn.blocks.length ≤ t) :
    Unnamed s.loops s.landing t := by
  refine ⟨fun fr hfr => ?_, fun hl => ?_⟩
  · have := hb.loops fr hfr
    omega
  · obtain ⟨b, hb', -⟩ := hb.landing t hl
    have := (List.getElem?_eq_some_iff.1 hb').1
    omega

theorem resolve_eq_some {j : LoopExit × Tree.LoopId} (h : resolve L j = some t) :
    ∃ fr ∈ L, j.1.target fr = t := by
  unfold resolve at h
  obtain ⟨fr, hf, rfl⟩ := Option.map_eq_some_iff.1 h
  exact ⟨fr, List.mem_of_find?_eq_some hf, rfl⟩

theorem countP_resolve_of_unnamed (hL : ∀ fr ∈ L, fr.check ≠ t ∧ fr.exit ≠ t)
    (js : List (LoopExit × Tree.LoopId)) : js.countP (fun j => resolve L j == some t) = 0 := by
  refine List.countP_eq_zero.2 fun j _ hj => ?_
  obtain ⟨fr, hfr, heq⟩ := resolve_eq_some (beq_iff_eq.1 hj)
  obtain ⟨k, l⟩ := j
  cases k with
  | breakLoop => exact (hL fr hfr).2 heq
  | continueLoop => exact (hL fr hfr).1 heq

theorem countP_resolve_frame (k : LoopExit) {fr : LoopFrame}
    (hL : ∀ fr' ∈ L, fr'.check ≠ k.target fr ∧ fr'.exit ≠ k.target fr) (hcx : fr.check ≠ fr.exit)
    (js : List (LoopExit × Tree.LoopId)) :
    js.countP (fun j => resolve (fr :: L) j == some (k.target fr)) = js.count (k, fr.loop) := by
  induction js with
  | nil => rfl
  | cons j js ih =>
    obtain ⟨k', l⟩ := j
    rw [List.countP_cons, List.count_cons, ih]
    congr 1
    by_cases hl : fr.loop = l
    · rw [resolve_cons_of_eq hl]
      cases k <;> cases k' <;> simp [LoopExit.target, hl, hcx, Ne.symm hcx]
    · -- a jump the loop does not bind goes where the enclosing loops send it
      have hne : resolve L (k', l) ≠ some (k.target fr) := fun he => by
        obtain ⟨fr', hfr', heq⟩ := resolve_eq_some he
        cases k' with
        | breakLoop => exact (hL fr' hfr').2 heq
        | continueLoop => exact (hL fr' hfr').1 heq
      rw [resolve_cons_of_ne hl]
      simp [hne, Ne.symm hl]

theorem Tally.inDegree_unnamed (h : Tally n L D s s' x) (ht : t < n) (hu : Unnamed L D t) :
    s'.curFn.inDegree t = s.curFn.inDegree t := by
  rw [h.inDegree t ht, countP_resolve_of_unnamed hu.1, if_neg hu.2]
  rfl

theorem Tally.inDegree_frame {fr : LoopFrame} {L' : List LoopFrame} (h : Tally n L' D s s' x)
    (hfr : L' = fr :: L) (ht : t < n) (hu : Unnamed L D t) (hcx : fr.check ≠ fr.exit) :
    s'.curFn.inDegree t = s.curFn.inDegree t +
      (if t = fr.check then x.jumps.count (.continueLoop, fr.loop) else 0) +
      (if t = fr.exit then x.jumps.count (.breakLoop, fr.loop) else 0) := by
  subst hfr
  rw [h.inDegree t ht, if_neg hu.2]
  by_cases hc : t = fr.check
  · subst hc
    have hk := countP_resolve_frame .continueLoop (fun fr' h' => hu.1 fr' h') hcx x.jumps
    rw [show LoopExit.continueLoop.target fr = fr.check from rfl] at hk
    rw [hk, if_pos rfl, if_neg hcx]
  · by_cases he : t = fr.exit
    · subst he
      have hk := countP_resolve_frame .breakLoop (fun fr' h' => hu.1 fr' h') hcx x.jumps
      rw [show LoopExit.breakLoop.target fr = fr.exit from rfl] at hk
      rw [hk, if_neg (Ne.symm hcx), if_pos rfl]
      omega
    · have hu' : ∀ fr' ∈ fr :: L, fr'.check ≠ t ∧ fr'.exit ≠ t := by
        intro fr' h'
        rcases List.mem_cons.1 h' with rfl | h'
        · exact ⟨Ne.symm hc, Ne.symm he⟩
        · exact hu.1 fr' h'
      rw [countP_resolve_of_unnamed hu', if_neg hc, if_neg he]

/-! ## Steps that make blocks and branches -/

theorem newBlock_inDegree {l : String} {b : Nat} (hr : InRange s)
    (h : newBlock l ctx s = .ok (b, s')) (t : Nat) : s'.curFn.inDegree t = s.curFn.inDegree t := by
  obtain ⟨-, rfl, rfl⟩ := newBlock_ok h
  rw [State.addBlock, State.curFn_mapFn hr.1, Graph.Function.inDegree_addBlock]

theorem jumpIfOpen_inDegree {b : Nat} (hr : InRange s) (h : jumpIfOpen b ctx s = .ok ((), s'))
    (t : Nat) : s'.curFn.inDegree t =
      s.curFn.inDegree t + if t = b then (if s.curBlock.isTerminal then 0 else 1) else 0 := by
  obtain ⟨-, rfl⟩ := jumpIfOpen_ok h
  split
  · simp
  · rename_i ho
    rw [(push_effect hr (by simpa using ho) (.br b)).1 t]
    by_cases htb : t = b
    · simp [htb, Instr.successors]
    · simp [htb, Instr.successors, Ne.symm htb]

/-! ## Sealed blocks -/

theorem Keeps.preds_eq {Q : Cursor → Prop} (hk : Keeps s s') (hb : Built Q s')
    (h : s'.curFn.inDegree t = s.curFn.inDegree t) : s'.curFn.preds t = s.curFn.preds t := by
  have hsub := Graph.Function.preds_sublist (hk.edges_sublist hb) t
  exact (hsub.eq_of_length h.symm).symm

theorem lowerExpr_preds_sealed {e : Expr} {v : Graph.Operand} (hb : Built P s)
    (ht : t < s.curFn.blocks.length) (hu : Unnamed s.loops s.landing t)
    (h : lowerExpr e ctx s = .ok (v, s')) : s'.curFn.preds t = s.curFn.preds t := by
  have tally := lowerExpr_tally e hb.inRange (Nat.le_refl _) h
  exact tally.keeps.preds_eq (lowerExpr_built e hb h) (tally.inDegree_unnamed ht hu)

end Isel.Lower
