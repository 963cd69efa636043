import Mathlib
import Isel.Proofs.Built

/-! # Edges into a block

The edges of a function go from each block to the successors of its terminator. This module
counts the edges into a block (`inDegree`), lists where they come from (`preds`), and says when
every path between two blocks must take a given edge (`OnlyThrough`): when that edge is the
only way into a set of blocks that holds the target and not the source.

Selection only ever appends: blocks are added at the end and instructions at the end of a block
that has not ended yet. So a block that ends keeps its successors, and every edge a function has
stays among its edges while it is built (`Keeps.edges_sublist`).
-/

namespace Isel.Graph

theorem Instr.successors_eq_nil {i : Instr} (h : i.isTerminal = false) : i.successors = [] := by
  cases i <;> simp_all [Instr.isTerminal, Instr.successors]

def Instr.isCall : Instr → Bool
  | .call .. => true
  | _ => false

def Instr.isInvoke : Instr → Bool
  | .invoke .. => true
  | _ => false

namespace Block

theorem successors_eq_nil {b : Block} (h : b.isTerminal = false) : b.successors = [] := by
  unfold isTerminal at h
  unfold successors
  split
  · rename_i i hi
    rw [hi] at h
    simp [h]
  · rfl

theorem successors_push (b : Block) (i : Instr) :
    ({ b with instrs := b.instrs ++ [i] } : Block).successors = i.successors := by
  cases h : i.isTerminal
  · simp [successors, h, Instr.successors_eq_nil h]
  · simp [successors, h]

@[simp] theorem successors_empty (l : String) : (⟨l, []⟩ : Block).successors = [] := rfl

theorem Sound.instrs_eq_of_prefix {n : Nat} {bs : List Block} {b b' : Block}
    (ht : b.isTerminal = true) (hp : b.instrs <+: b'.instrs) (hs : b'.Sound n bs) :
    b'.instrs = b.instrs := by
  obtain ⟨m, hm⟩ := hp
  cases m with
  | nil => simp [← hm]
  | cons x xs =>
    -- the terminator of `b` would stand before the end of `b'`
    have hne : b.instrs ≠ [] := by
      intro h
      simp [isTerminal, h] at ht
    have hlast : b.instrs.getLast hne ∈ b'.instrs.dropLast := by
      rw [← hm, List.dropLast_append_of_ne_nil (List.cons_ne_nil x xs)]
      exact List.mem_append_left _ (List.getLast_mem hne)
    have := hs.early _ hlast
    simp [isTerminal, List.getLast?_eq_some_getLast hne, this] at ht

end Block

namespace Function

variable {f g : Function}

/-! ## Counting edges -/

def preds (f : Function) (t : Nat) : List Nat := (f.edges.filter (·.2 == t)).map (·.1)

def inDegree (f : Function) (t : Nat) : Nat := (f.preds t).length

theorem mem_edges {a t : Nat} :
    (a, t) ∈ f.edges ↔ ∃ b, f.blocks[a]? = some b ∧ t ∈ b.successors := by
  simp only [edges, List.mem_flatMap, List.mem_map, Prod.mk.injEq]
  constructor
  · rintro ⟨⟨b, i⟩, hb, t', ht', rfl, rfl⟩
    exact ⟨b, List.mem_zipIdx_iff_getElem?.1 hb, ht'⟩
  · rintro ⟨b, hb, ht⟩
    exact ⟨(b, a), List.mem_zipIdx_iff_getElem?.2 hb, t, ht, rfl, rfl⟩

@[simp] theorem mem_preds {a t : Nat} : a ∈ f.preds t ↔ (a, t) ∈ f.edges := by
  simp only [preds, List.mem_map, List.mem_filter, beq_iff_eq]
  constructor
  · rintro ⟨⟨a', t'⟩, ⟨he, rfl⟩, rfl⟩
    exact he
  · intro he
    exact ⟨(a, t), ⟨he, rfl⟩, rfl⟩

private theorem countP_edges (t : Nat) :
    ∀ (bs : List Block) (n : Nat),
      ((bs.zipIdx n).flatMap fun p => p.1.successors.map fun u => (p.2, u)).countP (·.2 == t) =
        (bs.map fun b => b.successors.count t).sum
  | [], _ => rfl
  | b :: bs, n => by
    rw [List.zipIdx_cons, List.flatMap_cons, List.countP_append, countP_edges t bs (n + 1),
      List.map_cons, List.sum_cons, List.countP_map, List.count_eq_countP]
    rfl

theorem inDegree_eq_sum (f : Function) (t : Nat) :
    f.inDegree t = (f.blocks.map fun b => b.successors.count t).sum := by
  rw [inDegree, preds, List.length_map, ← List.countP_eq_length_filter]
  exact countP_edges t f.blocks 0

private theorem sum_map_modify {α : Type} (F : α → Nat) (h : α → α) :
    ∀ (l : List α) (k : Nat) (a : α), l[k]? = some a →
      ((l.modify k h).map F).sum + F a = (l.map F).sum + F (h a)
  | [], _, _, hk => by simp at hk
  | x :: l, 0, a, hk => by
    simp only [List.getElem?_cons_zero, Option.some.injEq] at hk
    subst hk
    simp only [List.modify_zero_cons, List.map_cons, List.sum_cons]
    omega
  | x :: l, k + 1, a, hk => by
    have ih := sum_map_modify F h l k a (by simpa using hk)
    simp only [List.modify_succ_cons, List.map_cons, List.sum_cons]
    omega

@[simp] theorem inDegree_addBlock (f : Function) (l : String) (t : Nat) :
    (f.addBlock l).inDegree t = f.inDegree t := by
  simp [inDegree_eq_sum]

theorem inDegree_pushAt {k : Nat} {b : Block} (hk : f.blocks[k]? = some b)
    (ho : b.isTerminal = false) (i : Instr) (t : Nat) :
    (f.pushAt k i).inDegree t = f.inDegree t + i.successors.count t := by
  have := sum_map_modify (fun b : Block => b.successors.count t)
    (fun b => { b with instrs := b.instrs ++ [i] }) f.blocks k b hk
  simp only [Block.successors_eq_nil ho, List.count_nil, Block.successors_push] at this
  rw [inDegree_eq_sum, inDegree_eq_sum, pushAt_blocks]
  omega

def countInstrs (f : Function) (p : Instr → Bool) : Nat :=
  (f.blocks.map fun b => b.instrs.countP p).sum

@[simp] theorem countInstrs_addBlock (f : Function) (l : String) (p : Instr → Bool) :
    (f.addBlock l).countInstrs p = f.countInstrs p := by
  simp [countInstrs]

theorem countInstrs_pushAt {k : Nat} {b : Block} (hk : f.blocks[k]? = some b) (i : Instr)
    (p : Instr → Bool) : (f.pushAt k i).countInstrs p = f.countInstrs p + if p i then 1 else 0 := by
  have := sum_map_modify (fun b : Block => b.instrs.countP p)
    (fun b => { b with instrs := b.instrs ++ [i] }) f.blocks k b hk
  simp only [List.countP_append, List.countP_singleton] at this
  rw [countInstrs, countInstrs, pushAt_blocks]
  split at this <;> simp_all <;> omega

theorem preds_eq_singleton {a t : Nat} (he : (a, t) ∈ f.edges) (h : f.inDegree t = 1) :
    f.preds t = [a] := by
  have hmem : a ∈ f.preds t := mem_preds.2 he
  unfold inDegree at h
  match hp : f.preds t, h with
  | [x], _ =>
    rw [hp, List.mem_singleton] at hmem
    rw [hmem]

/-! ## Edges kept while a function grows -/

private theorem flatMap_zipIdx_sublist (E : Block × Nat → List (Nat × Nat))
    (hE : ∀ b n, b.isTerminal = false → E (b, n) = []) :
    ∀ (bs cs : List Block) (n : Nat), bs.length ≤ cs.length →
      (∀ (i : Nat) (b : Block), bs[i]? = some b → b.isTerminal = true →
        ∃ c : Block, cs[i]? = some c ∧ E (c, n + i) = E (b, n + i)) →
      ((bs.zipIdx n).flatMap E).Sublist ((cs.zipIdx n).flatMap E)
  | [], cs, n, _, _ => List.nil_sublist _
  | b :: bs, [], n, hlen, _ => by simp at hlen
  | b :: bs, c :: cs, n, hlen, h => by
    rw [List.zipIdx_cons, List.zipIdx_cons, List.flatMap_cons, List.flatMap_cons]
    have ih := flatMap_zipIdx_sublist E hE bs cs (n + 1) (by simpa using hlen) fun i b' hb' ht => by
      obtain ⟨c', hc', he⟩ := h (i + 1) b' (by simpa using hb') ht
      exact ⟨c', by simpa using hc', by simpa [Nat.add_assoc, Nat.add_comm 1 i] using he⟩
    cases ht : b.isTerminal with
    | false => exact (hE b n ht ▸ List.nil_sublist _).append ih
    | true =>
      obtain ⟨c', hc', he⟩ := h 0 b rfl ht
      simp only [List.getElem?_cons_zero, Option.some.injEq] at hc'
      subst hc'
      simp only [Nat.add_zero] at he
      rw [he]
      exact (List.Sublist.refl _).append ih

theorem edges_sublist (hlen : f.blocks.length ≤ g.blocks.length)
    (h : ∀ (i : Nat) (b : Block), f.blocks[i]? = some b → b.isTerminal = true →
      ∃ c : Block, g.blocks[i]? = some c ∧ c.successors = b.successors) :
    f.edges.Sublist g.edges := by
  apply flatMap_zipIdx_sublist _ (fun b n ht => by simp [Block.successors_eq_nil ht]) _ _ 0 hlen
  intro i b hb ht
  obtain ⟨c, hc, hs⟩ := h i b hb ht
  exact ⟨c, hc, by simp [hs]⟩

theorem preds_sublist (h : f.edges.Sublist g.edges) (t : Nat) : (f.preds t).Sublist (g.preds t) :=
  (h.filter _).map _

/-! ## Paths that must take an edge -/

/-- Every path of `f` from block `a` to block `b` takes the edge `e`: without `e`, `a` does not
reach `b`. -/
def OnlyThrough (f : Function) (e : Nat × Nat) (a b : Nat) : Prop :=
  ¬ Relation.ReflTransGen (fun x y => (x, y) ∈ f.edges ∧ (x, y) ≠ e) a b

theorem onlyThrough_of_entries {S : Nat → Prop} {e : Nat × Nat} {a b : Nat} (ha : ¬ S a)
    (hb : S b) (hin : ∀ x y, (x, y) ∈ f.edges → ¬ S x → S y → (x, y) = e) :
    f.OnlyThrough e a b := by
  intro hpath
  -- every block a path avoiding `e` reaches from `a` is outside `S`
  have hout : ∀ y, Relation.ReflTransGen (fun x y => (x, y) ∈ f.edges ∧ (x, y) ≠ e) a y → ¬ S y := by
    intro y hy
    induction hy with
    | refl => exact ha
    | tail _ hxy ih =>
      intro hy
      exact hxy.2 (hin _ _ hxy.1 ih hy)
  exact hout b hpath hb

end Function

end Isel.Graph

namespace Isel.Lower

open Isel.Graph (Block)

variable {P : Cursor → Prop} {s s' : State}

theorem Keeps.edges_sublist (hk : Keeps s s') (hb : Built P s') :
    s.curFn.edges.Sublist s'.curFn.edges := by
  refine Graph.Function.edges_sublist hk.blocks.1 fun i b hi ht => ?_
  obtain ⟨c, hc, hp⟩ := hk.blocks.2 i b hi
  have hs : c.Sound s'.program.functions.length (s'.fn s'.cursor.fn).blocks :=
    hb.sound ⟨s'.cursor.fn, i⟩ c hc
  refine ⟨c, hc, ?_⟩
  unfold Block.successors
  rw [hs.instrs_eq_of_prefix ht hp]

end Isel.Lower
