import Isel.Graph.Check

/-!
# Well-formed programs

What selection promises of every program it returns: the first function is the global
initializer, every block ends in its only terminator, every branch names a block of its own
function, every call a function of the program, and every landing block of an `invoke` starts
with a landing pad. Functions, classes and blocks are named by their positions, so their ids
are their indices by construction. The validator finds nothing to report in such a program,
neither errors nor warnings.
-/

namespace Isel.Graph

def PadAt (blocks : List Block) (l : Nat) : Prop :=
  ∃ b, blocks[l]? = some b ∧ Function.startsWithPad b = true

/-- An instruction of a function with these blocks, in a program of `n` functions: it goes only
to blocks of the function and calls only functions of the program, and an `invoke` lands on a
block that starts with a landing pad. -/
structure Instr.Sound (n : Nat) (blocks : List Block) (i : Instr) : Prop where
  targets : ∀ t ∈ i.successors, t < blocks.length
  callee : ∀ c, i.callee? = some c → c < n
  landing : ∀ c d a k l, i = .invoke c d a k l → PadAt blocks l

/-- A block whose instructions are sound and whose terminator, if any, is its last
instruction. -/
structure Block.Sound (n : Nat) (blocks : List Block) (b : Block) : Prop where
  instrs : ∀ i ∈ b.instrs, i.Sound n blocks
  early : ∀ i ∈ b.instrs.dropLast, i.isTerminal = false

/-- A program as selection leaves it. -/
structure Program.WellFormed (p : Program) : Prop where
  globalInit : p.globalInit = 0
  nonempty : p.functions ≠ []
  closed : ∀ f ∈ p.functions, ∀ b ∈ f.blocks, b.isTerminal = true
  sound : ∀ f ∈ p.functions, ∀ b ∈ f.blocks, b.Sound p.functions.length f.blocks

/-! ## Nothing to report -/

def Findings.Empty (r : Findings) : Prop := r.errors = [] ∧ r.warnings = []

namespace Findings

@[simp] theorem append_errors (a b : Findings) : (a ++ b).errors = a.errors ++ b.errors := rfl

@[simp] theorem append_warnings (a b : Findings) : (a ++ b).warnings = a.warnings ++ b.warnings :=
  rfl

theorem empty_nil : Findings.Empty {} := ⟨rfl, rfl⟩

theorem Empty.append {a b : Findings} (ha : a.Empty) (hb : b.Empty) : (a ++ b).Empty :=
  ⟨by simp [ha.1, hb.1], by simp [ha.2, hb.2]⟩

theorem foldl_empty {α : Type} {xs : List α} {g : Findings → α → Findings}
    (hg : ∀ acc, ∀ x ∈ xs, acc.Empty → (g acc x).Empty) :
    ∀ {a : Findings}, a.Empty → (xs.foldl g a).Empty := by
  induction xs with
  | nil => exact fun ha => ha
  | cons x xs ih =>
    intro a ha
    exact ih (fun acc y hy => hg acc y (List.mem_cons_of_mem x hy))
      (hg a x List.mem_cons_self ha)

end Findings

namespace Function

variable {p : Program} {f : Function}

theorem checkBlock_empty {reach : List Bool} {i : Nat} {b : Block} (ht : b.isTerminal = true)
    (hs : b.Sound p.functions.length f.blocks) : (f.checkBlock p reach i b).Empty := by
  have early : b.hasEarlyTerminator = false := by
    rw [Block.hasEarlyTerminator, List.any_eq_false]
    intro x hx
    simp [hs.early x hx]
  -- No target past the last block, no callee past the last function.
  have perInstr : ∀ ins ∈ b.instrs,
      (ins.successors.filter (f.blocks.length ≤ ·)) = [] ∧
        (ins.callee?.filter (p.functions.length ≤ ·)) = none := by
    intro ins hins
    constructor
    · simp only [List.filter_eq_nil_iff, decide_eq_true_eq, Nat.not_le]
      exact (hs.instrs ins hins).targets
    · cases hc : ins.callee? with
      | none => rfl
      | some c => simp [(hs.instrs ins hins).callee c hc]
  unfold checkBlock
  dsimp only
  rw [early]
  refine (Findings.Empty.append ⟨rfl, rfl⟩ ?_).append ⟨?_, rfl⟩
  · simp only [ht, ite_true]
    exact Findings.empty_nil
  · rw [List.flatMap_eq_nil_iff]
    intro ins hins
    obtain ⟨hsucc, hcall⟩ := perInstr ins hins
    rw [hsucc, hcall]
    rfl

theorem mem_landingBlocks {l : Nat} (hl : l ∈ f.landingBlocks) :
    ∃ b ∈ f.blocks, ∃ c d a k, .invoke c d a k l ∈ b.instrs := by
  simp only [landingBlocks, landings, List.mem_eraseDups, List.mem_mergeSort, List.mem_flatMap,
    List.mem_filterMap] at hl
  obtain ⟨b, hb, i, hi, hil⟩ := hl
  cases i <;> simp [Instr.landing?] at hil
  subst hil
  exact ⟨b, hb, _, _, _, _, hi⟩

theorem check_empty (hc : ∀ b ∈ f.blocks, b.isTerminal = true)
    (hs : ∀ b ∈ f.blocks, b.Sound p.functions.length f.blocks) : (f.check p).Empty := by
  refine Findings.Empty.append ?_ ⟨?_, rfl⟩
  · refine Findings.foldl_empty (fun acc x hx ha => ha.append ?_) Findings.empty_nil
    have hb : x.1 ∈ f.blocks := List.fst_mem_of_mem_zipIdx hx
    exact checkBlock_empty (hc _ hb) (hs _ hb)
  · rw [List.filterMap_eq_nil_iff]
    intro l hl
    obtain ⟨b, hb, c, d, a, k, hi⟩ := mem_landingBlocks hl
    obtain ⟨b', hb', hpad⟩ := (hs b hb).instrs _ hi |>.landing c d a k l rfl
    simp [hb', hpad]

end Function

theorem Program.check_empty {p : Program} (hp : p.WellFormed) : p.check.Empty := by
  refine Findings.foldl_empty (fun acc f hf ha => ?_) Findings.empty_nil
  split
  · exact ha
  · exact ha.append (Function.check_empty (hp.closed f hf) (hp.sound f hf))

end Isel.Graph
