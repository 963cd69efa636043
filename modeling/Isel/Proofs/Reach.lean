import Mathlib.Logic.Relation
import Isel.Graph.Program

/-! # Blocks reached from the entry

A step goes from a block to a successor of its terminator, and a block is reachable when it
exists and a path of such steps, possibly empty, leads to it from the entry block. Targets past
the last block are never marked.

`Function.reachable` searches with a worklist. What holds at every round is `Searching`: each
marked block and each block on the stack is reached by a path, and a step out of a marked block
leads to a block that is marked or still on the stack. A round keeps it, whether it marks the top
block or drops it, so it holds once the stack is empty; the marks are then closed under steps,
and they are exactly the reachable blocks (`worklist_marks_reachable`). This makes reachability
decidable.
-/

namespace Isel.Graph.Function

def Step (f : Function) (a b : Nat) : Prop := ∃ bl, f.blocks[a]? = some bl ∧ b ∈ bl.successors

def Reachable (f : Function) (i : Nat) : Prop :=
  i < f.blocks.length ∧ Relation.ReflTransGen f.Step 0 i

variable {f : Function} {marks : List Bool} {b : Nat} {rest stack : List Nat}

private theorem getD_false_iff {l : List Bool} {i : Nat} :
    l.getD i false = true ↔ l[i]? = some true := by
  rw [List.getD_eq_getElem?_getD]
  cases l[i]? <;> simp

theorem Step.lt {a b : Nat} (h : f.Step a b) : a < f.blocks.length := by
  obtain ⟨bl, hbl, -⟩ := h
  exact (List.getElem?_eq_some_iff.1 hbl).1

theorem step_iff_mem_succs {a c : Nat} : f.Step a c ↔ c ∈ f.succs a := by
  unfold Step succs
  cases f.blocks[a]? <;> simp

/-! ## One round of the loop -/

theorem visit_nil (marks : List Bool) : f.visit marks [] = marks := by
  rw [visit]

theorem visit_mark (h : marks[b]? = some false) :
    f.visit marks (b :: rest) = f.visit (marks.set b true) ((f.succs b).reverse ++ rest) := by
  rw [visit, dif_pos h]

theorem visit_skip (h : marks[b]? ≠ some false) : f.visit marks (b :: rest) = f.visit marks rest := by
  rw [visit, dif_neg h]

theorem getElem?_set_true {i : Nat} (hb : b < marks.length) :
    (marks.set b true)[i]? = some true ↔ i = b ∨ marks[i]? = some true := by
  by_cases hi : i = b
  · subst hi
    simp [hb]
  · simp [List.getElem?_set_ne (Ne.symm hi), hi]

/-- What holds at every round: the marks and the stack hold only blocks reached by a path, and
a step out of a marked block leads to a marked block, to a block still on the stack, or past
the last block. The entry is marked or on the stack. -/
structure Searching (f : Function) (marks : List Bool) (stack : List Nat) : Prop where
  length : marks.length = f.blocks.length
  marked : ∀ i, marks[i]? = some true → Relation.ReflTransGen f.Step 0 i
  pending : ∀ c ∈ stack, Relation.ReflTransGen f.Step 0 c
  closed : ∀ i j, marks[i]? = some true → f.Step i j → j < f.blocks.length →
    marks[j]? = some true ∨ j ∈ stack
  entry : 0 < f.blocks.length → marks[0]? = some true ∨ 0 ∈ stack

namespace Searching

theorem start (f : Function) : Searching f (List.replicate f.blocks.length false) [0] where
  length := List.length_replicate
  marked i hi := by simp [List.getElem?_replicate] at hi
  pending c hc := List.mem_singleton.1 hc ▸ .refl
  closed i j hi := by simp [List.getElem?_replicate] at hi
  entry _ := .inr (List.mem_singleton_self 0)

theorem empty (he : f.blocks = []) : Searching f (List.replicate f.blocks.length false) [] where
  length := List.length_replicate
  marked i hi := by simp [List.getElem?_replicate] at hi
  pending c hc := absurd hc List.not_mem_nil
  closed i j hi := by simp [List.getElem?_replicate] at hi
  entry hn := absurd hn (by simp [he])

private theorem pending_mark (hb : b < marks.length) {j : Nat}
    (h : marks[j]? = some true ∨ j ∈ b :: rest) :
    (marks.set b true)[j]? = some true ∨ j ∈ (f.succs b).reverse ++ rest := by
  rcases h with h | h
  · exact .inl ((getElem?_set_true hb).2 (.inr h))
  · rcases List.mem_cons.1 h with rfl | h
    · exact .inl ((getElem?_set_true hb).2 (.inl rfl))
    · exact .inr (List.mem_append_right _ h)

theorem mark (hs : Searching f marks (b :: rest)) (h : marks[b]? = some false) :
    Searching f (marks.set b true) ((f.succs b).reverse ++ rest) := by
  have hb : b < marks.length := (List.getElem?_eq_some_iff.1 h).1
  have hpath : Relation.ReflTransGen f.Step 0 b := hs.pending b List.mem_cons_self
  refine ⟨by rw [List.length_set, hs.length], fun i hi => ?_, fun c hc => ?_,
    fun i j hi hij hj => ?_, fun hn => pending_mark hb (hs.entry hn)⟩
  · rcases (getElem?_set_true hb).1 hi with rfl | hi
    · exact hpath
    · exact hs.marked i hi
  · rcases List.mem_append.1 hc with hc | hc
    · exact hpath.tail (step_iff_mem_succs.2 (List.mem_reverse.1 hc))
    · exact hs.pending c (List.mem_cons_of_mem b hc)
  · rcases (getElem?_set_true hb).1 hi with rfl | hi
    · -- the successors of the block just marked are now on the stack
      exact .inr (List.mem_append_left _ (List.mem_reverse.2 (step_iff_mem_succs.1 hij)))
    · exact pending_mark hb (hs.closed i j hi hij hj)

theorem skip (hs : Searching f marks (b :: rest)) (h : marks[b]? ≠ some false) :
    Searching f marks rest := by
  have drop : ∀ j, j < f.blocks.length → marks[j]? = some true ∨ j ∈ b :: rest →
      marks[j]? = some true ∨ j ∈ rest := by
    intro j hj hm
    rcases hm with hm | hm
    · exact .inl hm
    · rcases List.mem_cons.1 hm with rfl | hm
      · rw [List.getElem?_eq_getElem (hs.length ▸ hj)] at h ⊢
        exact .inl (by simpa using h)
      · exact .inr hm
  exact ⟨hs.length, hs.marked, fun c hc => hs.pending c (List.mem_cons_of_mem b hc),
    fun i j hi hij hj => drop j hj (hs.closed i j hi hij hj), fun hn => drop 0 hn (hs.entry hn)⟩

theorem visit (hs : Searching f marks stack) : Searching f (f.visit marks stack) [] := by
  fun_induction f.visit marks stack with
  | case1 marks => exact hs
  | case2 marks b rest h ih => exact ih (hs.mark h)
  | case3 marks b rest h ih => exact ih (hs.skip h)

theorem marked_iff (hs : Searching f marks []) (i : Nat) :
    marks[i]? = some true ↔ f.Reachable i := by
  constructor
  · intro h
    exact ⟨hs.length ▸ (List.getElem?_eq_some_iff.1 h).1, hs.marked i h⟩
  · rintro ⟨hi, hpath⟩
    -- along a path from the entry, each block is marked: the marks are closed under steps
    induction hpath with
    | refl => simpa using hs.entry hi
    | tail _ hstep ih => simpa using hs.closed _ _ (ih hstep.lt) hstep hi

end Searching

theorem searching_reachable (f : Function) : Searching f f.reachable [] := by
  unfold reachable
  split
  · exact Searching.empty (List.isEmpty_iff.1 ‹_›)
  · exact (Searching.start f).visit

theorem length_reachable (f : Function) : f.reachable.length = f.blocks.length :=
  (searching_reachable f).length

theorem reachable_getElem? (i : Nat) : f.reachable[i]? = some true ↔ f.Reachable i :=
  (searching_reachable f).marked_iff i

/-- The worklist search ends, and marks each block exactly when a path from the entry leads to
it, each step going to a successor of a block's terminator; there is one mark per block, so a
function without blocks gets none. -/
theorem worklist_marks_reachable (f : Function) :
    f.reachable.length = f.blocks.length ∧
      ∀ (i : Nat) (hi : i < f.reachable.length),
        f.reachable[i] = true ↔ Relation.ReflTransGen f.Step 0 i := by
  refine ⟨length_reachable f, fun i hi => ?_⟩
  have hmark := reachable_getElem? (f := f) i
  rw [List.getElem?_eq_getElem hi, Option.some_inj] at hmark
  rw [hmark, Reachable, ← length_reachable f]
  exact and_iff_right hi

theorem reachable_getD_iff {i : Nat} : f.reachable.getD i false = true ↔ f.Reachable i :=
  getD_false_iff.trans (reachable_getElem? i)

instance (f : Function) (i : Nat) : Decidable (f.Reachable i) :=
  decidable_of_iff _ reachable_getD_iff

theorem reachable_getD (i : Nat) : f.reachable.getD i false = decide (f.Reachable i) := by
  rw [Bool.eq_iff_iff, reachable_getD_iff, decide_eq_true_iff]

-- The entry branches over block 1 to block 2, which returns.
example : (Function.mk "f" [] Ty.void
      [⟨"entry", [Instr.br 2]⟩, ⟨"dead", []⟩, ⟨"exit", [Instr.ret Operand.unit]⟩] Span.dummy 0).reachable =
      [true, false, true] := by
  simp [reachable, visit, succs, Block.successors, Instr.isTerminal, Instr.successors]

end Isel.Graph.Function
