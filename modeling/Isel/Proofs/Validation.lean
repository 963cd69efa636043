import Mathlib.Data.List.Sort
import Isel.Proofs.WellFormed
import Isel.Proofs.Reach

/-! # What the validator reports

The validator reports exactly its checks (`Program.validation_reports_exactly`). Each kind of
finding is a list of its own: taken out of the errors by its code, it is one diagnostic for each
violation, in the order of functions and blocks. A block without terminator is an error when it is
reachable and a warning when it is not, with reachability from the entry as `Function.Reachable`
states it; a landing block is reported at most once, in ascending order, and only when it exists.
No error has another code, so the errors are empty exactly when every function is `Valid`, and the
warnings are exactly the unterminated blocks that cannot be reached.
-/

namespace Isel.Graph

/-! ## Findings gathered by folds -/

namespace Findings

theorem foldl_errors {α : Type} {g : Findings → α → Findings} {e : α → List Diagnostic}
    (hg : ∀ acc x, (g acc x).errors = acc.errors ++ e x) :
    ∀ (xs : List α) (a : Findings), (xs.foldl g a).errors = a.errors ++ xs.flatMap e
  | [], a => by simp
  | x :: xs, a => by
    rw [List.foldl_cons, foldl_errors hg xs, hg, List.flatMap_cons, List.append_assoc]

theorem foldl_warnings {α : Type} {g : Findings → α → Findings} {e : α → List Diagnostic}
    (hg : ∀ acc x, (g acc x).warnings = acc.warnings ++ e x) :
    ∀ (xs : List α) (a : Findings), (xs.foldl g a).warnings = a.warnings ++ xs.flatMap e
  | [], a => by simp
  | x :: xs, a => by
    rw [List.foldl_cons, foldl_warnings hg xs, hg, List.flatMap_cons, List.append_assoc]

end Findings

namespace Function

variable {p : Program} {f : Function}

/-! ## The findings of one block -/

@[simp] theorem code_earlyTerminatorError (i : Nat) (b : Block) :
    (f.earlyTerminatorError i b).code = some .instructionAfterTerminal := rfl
@[simp] theorem code_unterminatedError (i : Nat) (b : Block) :
    (f.unterminatedError i b).code = some .unterminatedBlock := rfl
@[simp] theorem code_unreachableWarning (i : Nat) (b : Block) :
    (f.unreachableWarning i b).code = some .unreachableBlock := rfl
@[simp] theorem code_danglingError (i t : Nat) :
    (f.danglingError i t).code = some .danglingBlockReference := rfl
@[simp] theorem code_missingCalleeError (i c : Nat) : (f.missingCalleeError i c).code = none := rfl
@[simp] theorem code_missingPadError (l : Nat) :
    (f.missingPadError l).code = some .missingLandingPad := rfl

theorem checkBlock_errors (r : List Bool) (i : Nat) (b : Block) :
    (f.checkBlock p r i b).errors =
      (if b.hasEarlyTerminator then [f.earlyTerminatorError i b] else []) ++
      (if !b.isTerminal && r.getD i false then [f.unterminatedError i b] else []) ++
      b.instrs.flatMap fun ins =>
        (ins.successors.filter (f.blocks.length ≤ ·)).map (f.danglingError i) ++
          (ins.callee?.filter (p.functions.length ≤ ·)).toList.map (f.missingCalleeError i) := by
  unfold checkBlock
  cases b.isTerminal <;> cases r.getD i false <;> rfl

theorem checkBlock_warnings (r : List Bool) (i : Nat) (b : Block) :
    (f.checkBlock p r i b).warnings =
      if !b.isTerminal && !r.getD i false then [f.unreachableWarning i b] else [] := by
  unfold checkBlock
  cases b.isTerminal <;> cases r.getD i false <;> rfl

/-! ## Landing blocks -/

private theorem pairwise_lt_eraseDups : ∀ {l : List Nat}, l.Pairwise (· ≤ ·) →
    l.eraseDups.Pairwise (· < ·)
  | [], _ => by simp [List.eraseDups, List.eraseDupsBy, List.eraseDupsBy.loop]
  | a :: as, h => by
    rw [List.eraseDups_cons]
    have hs : (as.filter fun b => !b == a).Pairwise (· ≤ ·) :=
      (List.pairwise_cons.1 h).2.sublist List.filter_sublist
    refine List.pairwise_cons.2 ⟨fun b hb => ?_, pairwise_lt_eraseDups hs⟩
    rw [List.mem_eraseDups, List.mem_filter] at hb
    have hab := (List.pairwise_cons.1 h).1 b hb.1
    have hne : b ≠ a := by simpa using hb.2
    omega
termination_by l => l.length
decreasing_by
  have := List.length_filter_le (fun b => !b == a) as
  simp only [List.length_cons]
  omega

private theorem filterMap_ite {α β : Type} (q : α → Bool) (g : α → β) (L : List α) :
    L.filterMap (fun l => if q l then some (g l) else none) = (L.filter q).map g := by
  induction L with
  | nil => rfl
  | cons a L ih => by_cases h : q a <;> simp [h, ih]

theorem landingBlocks_pairwise : f.landingBlocks.Pairwise (· < ·) := by
  apply pairwise_lt_eraseDups
  have : (f.landings.mergeSort fun a b => decide (a ≤ b)).Pairwise fun a b => decide (a ≤ b) :=
    List.pairwise_mergeSort (fun a b c hab hbc => by simp at *; omega) (fun a b => by simp; omega)
      f.landings
  simpa using this

theorem mem_landingBlocks_iff {l : Nat} : l ∈ f.landingBlocks ↔ l ∈ f.landings := by
  simp [landingBlocks]

theorem pads_eq :
    f.landingBlocks.filterMap (fun l => match f.blocks[l]? with
      | some b => if startsWithPad b then none else some (f.missingPadError l)
      | none => none) =
    ((List.range f.blocks.length).filter fun l =>
      l ∈ f.landings && f.blocks[l]?.any (!startsWithPad ·)).map f.missingPadError := by
  have hfm : ∀ l, (match f.blocks[l]? with
      | some b => if startsWithPad b then none else some (f.missingPadError l)
      | none => none) =
        if f.blocks[l]?.any (!startsWithPad ·) then some (f.missingPadError l) else none := by
    intro l
    cases f.blocks[l]? with
    | none => rfl
    | some b => by_cases h : startsWithPad b <;> simp [h]
  rw [List.filterMap_congr (fun l _ => hfm l), filterMap_ite]
  congr 1
  refine List.Pairwise.eq_of_mem_iff (landingBlocks_pairwise.sublist List.filter_sublist)
    (List.pairwise_lt_range.sublist List.filter_sublist) fun l => ?_
  simp only [List.mem_filter, mem_landingBlocks_iff, List.mem_range, Bool.and_eq_true,
    decide_eq_true_eq]
  constructor
  · rintro ⟨hl, hb⟩
    refine ⟨?_, hl, hb⟩
    cases h : f.blocks[l]? with
    | none => simp [h] at hb
    | some b => exact (List.getElem?_eq_some_iff.1 h).1
  · rintro ⟨-, hl, hb⟩
    exact ⟨hl, hb⟩

theorem mem_landings {l : Nat} :
    l ∈ f.landings ↔ ∃ b ∈ f.blocks, ∃ ins ∈ b.instrs, ins.landing? = some l := by
  simp [landings]

/-! ## The findings of a function, kind by kind -/

theorem check_errors (p : Program) (f : Function) :
    (f.check p).errors =
      f.blocks.zipIdx.flatMap (fun x => (f.checkBlock p f.reachable x.2 x.1).errors) ++
        ((List.range f.blocks.length).filter fun l =>
          l ∈ f.landings && f.blocks[l]?.any (!startsWithPad ·)).map f.missingPadError := by
  unfold check
  simp only [Findings.append_errors, ← pads_eq]
  congr 1
  rw [Findings.foldl_errors (e := fun x => (f.checkBlock p f.reachable x.2 x.1).errors)
    (fun acc x => rfl)]
  rfl

theorem check_warnings (p : Program) (f : Function) :
    (f.check p).warnings =
      f.blocks.zipIdx.flatMap (fun x => (f.checkBlock p f.reachable x.2 x.1).warnings) := by
  unfold check
  simp only [Findings.append_warnings, List.append_nil]
  rw [Findings.foldl_warnings (e := fun x => (f.checkBlock p f.reachable x.2 x.1).warnings)
    (fun acc x => rfl)]
  rfl

private theorem flatMap_nil_of_const {α β : Type} (l : List α) :
    l.flatMap (fun _ => ([] : List β)) = [] :=
  List.flatMap_eq_nil_iff.2 fun _ _ => rfl

private theorem flatMap_ite {α β : Type} (P : α → Prop) [DecidablePred P] (g : α → β)
    (L : List α) : L.flatMap (fun x => if P x then [g x] else []) = (L.filter (P ·)).map g := by
  induction L with
  | nil => rfl
  | cons a L ih => by_cases h : P a <;> simp [h, ih]

theorem check_early (p : Program) (f : Function) :
    (f.check p).errors.filter (·.code = some .instructionAfterTerminal) =
      (f.blocks.zipIdx.filter (·.1.hasEarlyTerminator)).map
        fun x => f.earlyTerminatorError x.2 x.1 := by
  simp [check_errors, checkBlock_errors, List.filter_flatMap, List.filter_append, List.filter_map,
    Function.comp_def, apply_ite (List.filter _), flatMap_nil_of_const, flatMap_ite]


theorem check_unterminated (p : Program) (f : Function) :
    (f.check p).errors.filter (·.code = some .unterminatedBlock) =
      (f.blocks.zipIdx.filter fun x => x.1.isTerminal = false ∧ f.Reachable x.2).map
        fun x => f.unterminatedError x.2 x.1 := by
  simp only [check_errors, checkBlock_errors, reachable_getD]
  simp [List.filter_flatMap, List.filter_append, List.filter_map, Function.comp_def,
    apply_ite (List.filter _), flatMap_nil_of_const, flatMap_ite]

theorem check_unreachable (p : Program) (f : Function) :
    (f.check p).warnings =
      (f.blocks.zipIdx.filter fun x => x.1.isTerminal = false ∧ ¬ f.Reachable x.2).map
        fun x => f.unreachableWarning x.2 x.1 := by
  simp only [check_warnings, checkBlock_warnings, reachable_getD]
  simp [flatMap_ite]

theorem check_dangling (p : Program) (f : Function) :
    (f.check p).errors.filter (·.code = some .danglingBlockReference) =
      f.blocks.zipIdx.flatMap fun x =>
        ((x.1.instrs.flatMap Instr.successors).filter (f.blocks.length ≤ ·)).map
          (f.danglingError x.2) := by
  simp [check_errors, checkBlock_errors, List.filter_flatMap, List.filter_append, List.filter_map,
    Function.comp_def, apply_ite (List.filter _), List.map_flatMap]

theorem check_missingCallee (p : Program) (f : Function) :
    (f.check p).errors.filter (·.code = none) =
      f.blocks.zipIdx.flatMap fun x =>
        ((x.1.instrs.filterMap Instr.callee?).filter (p.functions.length ≤ ·)).map
          (f.missingCalleeError x.2) := by
  simp [check_errors, checkBlock_errors, List.filter_flatMap, List.filter_append, List.filter_map,
    Function.comp_def, apply_ite (List.filter _), List.filterMap_eq_flatMap_toList,
    List.map_flatMap, Option.toList_filter]

theorem check_missingPad (p : Program) (f : Function) :
    (f.check p).errors.filter (·.code = some .missingLandingPad) =
      ((List.range f.blocks.length).filter fun l =>
        l ∈ f.landings ∧ f.blocks[l]?.any (!startsWithPad ·)).map f.missingPadError := by
  simp [check_errors, checkBlock_errors, List.filter_flatMap, List.filter_append, List.filter_map,
    Function.comp_def, apply_ite (List.filter _)]

theorem check_codes (p : Program) (f : Function) : ∀ d ∈ (f.check p).errors,
    d.code = some .instructionAfterTerminal ∨ d.code = some .unterminatedBlock ∨
      d.code = some .danglingBlockReference ∨ d.code = none ∨ d.code = some .missingLandingPad := by
  intro d hd
  simp only [check_errors, checkBlock_errors, List.mem_append, List.mem_flatMap, List.mem_map] at hd
  rcases hd with ⟨x, -, (hd | hd) | hd⟩ | ⟨l, -, rfl⟩
  · split at hd <;> simp_all
  · split at hd <;> simp_all
  · obtain ⟨ins, -, ⟨t, -, rfl⟩ | ⟨c, -, rfl⟩⟩ := hd <;> simp
  · simp

theorem check_errors_of_isDeclaration (p : Program) (hf : f.isDeclaration = true) :
    (f.check p).errors = [] := by
  rw [isDeclaration, List.isEmpty_iff] at hf
  simp [check_errors, hf]

theorem check_warnings_of_isDeclaration (p : Program) (hf : f.isDeclaration = true) :
    (f.check p).warnings = [] := by
  rw [isDeclaration, List.isEmpty_iff] at hf
  simp [check_warnings, hf]

/-! ## Functions that pass -/

/-- What the validator checks of a function of program `p`: no terminator before the last
instruction of a block, a terminator at the end of every reachable block, targets and callees that
exist, and a landing pad at the start of every landing block that exists. -/
structure Valid (p : Program) (f : Function) : Prop where
  early : ∀ b ∈ f.blocks, ∀ ins ∈ b.instrs.dropLast, ins.isTerminal = false
  terminated : ∀ i b, f.blocks[i]? = some b → f.Reachable i → b.isTerminal = true
  targets : ∀ b ∈ f.blocks, ∀ ins ∈ b.instrs, ∀ t ∈ ins.successors, t < f.blocks.length
  callees : ∀ b ∈ f.blocks, ∀ ins ∈ b.instrs, ∀ c, ins.callee? = some c → c < p.functions.length
  pads : ∀ b ∈ f.blocks, ∀ ins ∈ b.instrs, ∀ l bl, ins.landing? = some l → f.blocks[l]? = some bl →
    startsWithPad bl = true

private theorem forall_mem_zipIdx {α : Type} {l : List α} {P : α → Nat → Prop} :
    (∀ x ∈ l.zipIdx, P x.1 x.2) ↔ ∀ i b, l[i]? = some b → P b i := by
  constructor
  · intro h i b hb
    exact h (b, i) (List.mem_zipIdx_iff_getElem?.2 hb)
  · intro h x hx
    exact h x.2 x.1 (List.mem_zipIdx_iff_getElem?.1 hx)

private theorem forall_mem_zipIdx_fst {α : Type} {l : List α} {Q : α → Prop} :
    (∀ x ∈ l.zipIdx, Q x.1) ↔ ∀ b ∈ l, Q b := by
  rw [forall_mem_zipIdx (P := fun b _ => Q b)]
  constructor
  · intro h b hb
    obtain ⟨i, hi⟩ := List.mem_iff_getElem?.1 hb
    exact h i b hi
  · intro h i b hb
    exact h b (List.mem_of_getElem? hb)

theorem early_eq_nil_iff :
    (f.blocks.zipIdx.filter (·.1.hasEarlyTerminator)).map
        (fun x => f.earlyTerminatorError x.2 x.1) = [] ↔
      ∀ b ∈ f.blocks, ∀ ins ∈ b.instrs.dropLast, ins.isTerminal = false := by
  simp only [List.map_eq_nil_iff, List.filter_eq_nil_iff, Block.hasEarlyTerminator,
    Bool.not_eq_true, List.any_eq_false]
  exact forall_mem_zipIdx_fst
    (Q := fun b : Block => ∀ ins ∈ b.instrs.dropLast, ins.isTerminal = false)

theorem unterminated_eq_nil_iff :
    (f.blocks.zipIdx.filter fun x => x.1.isTerminal = false ∧ f.Reachable x.2).map
        (fun x => f.unterminatedError x.2 x.1) = [] ↔
      ∀ i b, f.blocks[i]? = some b → f.Reachable i → b.isTerminal = true := by
  simp only [List.map_eq_nil_iff, List.filter_eq_nil_iff, decide_eq_true_eq, not_and]
  rw [forall_mem_zipIdx (P := fun (b : Block) i => b.isTerminal = false → ¬ f.Reachable i)]
  constructor
  · intro h i b hb hr
    by_contra ht
    exact h i b hb (by simpa using ht) hr
  · intro h i b hb ht hr
    simp [h i b hb hr] at ht

theorem dangling_eq_nil_iff :
    f.blocks.zipIdx.flatMap (fun x => ((x.1.instrs.flatMap Instr.successors).filter
        (f.blocks.length ≤ ·)).map (f.danglingError x.2)) = [] ↔
      ∀ b ∈ f.blocks, ∀ ins ∈ b.instrs, ∀ t ∈ ins.successors, t < f.blocks.length := by
  simp only [List.flatMap_eq_nil_iff, List.map_eq_nil_iff, List.filter_eq_nil_iff, List.mem_flatMap,
    decide_eq_true_eq, Nat.not_le]
  rw [forall_mem_zipIdx_fst (Q := fun b : Block =>
    ∀ t, (∃ ins ∈ b.instrs, t ∈ ins.successors) → t < f.blocks.length)]
  exact forall₂_congr fun b _ => ⟨fun h ins hi t ht => h t ⟨ins, hi, ht⟩,
    fun h t ⟨ins, hi, ht⟩ => h ins hi t ht⟩

theorem missingCallee_eq_nil_iff :
    f.blocks.zipIdx.flatMap (fun x => ((x.1.instrs.filterMap Instr.callee?).filter
        (p.functions.length ≤ ·)).map (f.missingCalleeError x.2)) = [] ↔
      ∀ b ∈ f.blocks, ∀ ins ∈ b.instrs, ∀ c, ins.callee? = some c → c < p.functions.length := by
  simp only [List.flatMap_eq_nil_iff, List.map_eq_nil_iff, List.filter_eq_nil_iff,
    List.mem_filterMap, decide_eq_true_eq, Nat.not_le]
  rw [forall_mem_zipIdx_fst (Q := fun b : Block =>
    ∀ c, (∃ ins ∈ b.instrs, ins.callee? = some c) → c < p.functions.length)]
  exact forall₂_congr fun b _ => ⟨fun h ins hi c hc => h c ⟨ins, hi, hc⟩,
    fun h c ⟨ins, hi, hc⟩ => h ins hi c hc⟩

theorem missingPad_eq_nil_iff :
    ((List.range f.blocks.length).filter fun l =>
        l ∈ f.landings ∧ f.blocks[l]?.any (!startsWithPad ·)).map f.missingPadError = [] ↔
      ∀ b ∈ f.blocks, ∀ ins ∈ b.instrs, ∀ l bl, ins.landing? = some l → f.blocks[l]? = some bl →
        startsWithPad bl = true := by
  simp only [List.map_eq_nil_iff, List.filter_eq_nil_iff, List.mem_range, decide_eq_true_eq,
    not_and, mem_landings]
  constructor
  · intro h b hb ins hi l bl hl hbl
    have hlt : l < f.blocks.length := (List.getElem?_eq_some_iff.1 hbl).1
    by_contra hp
    exact h l hlt ⟨b, hb, ins, hi, hl⟩ (by simpa [hbl] using hp)
  · rintro h l - ⟨b, hb, ins, hi, hl⟩ hany
    cases hbl : f.blocks[l]? with
    | none => simp [hbl] at hany
    | some bl => simp [hbl, h b hb ins hi l bl hl hbl] at hany

theorem check_errors_eq_nil_iff (p : Program) (f : Function) :
    (f.check p).errors = [] ↔ f.Valid p := by
  -- no error is left out by the five filters, one per kind
  have kinds : (f.check p).errors = [] ↔
      (f.check p).errors.filter (·.code = some .instructionAfterTerminal) = [] ∧
      (f.check p).errors.filter (·.code = some .unterminatedBlock) = [] ∧
      (f.check p).errors.filter (·.code = some .danglingBlockReference) = [] ∧
      (f.check p).errors.filter (·.code = none) = [] ∧
      (f.check p).errors.filter (·.code = some .missingLandingPad) = [] := by
    constructor
    · intro h
      simp [h]
    · rintro ⟨h₁, h₂, h₃, h₄, h₅⟩
      rw [List.eq_nil_iff_forall_not_mem]
      intro d hd
      rcases check_codes p f d hd with hc | hc | hc | hc | hc
      · exact List.filter_eq_nil_iff.1 h₁ d hd (by simp [hc])
      · exact List.filter_eq_nil_iff.1 h₂ d hd (by simp [hc])
      · exact List.filter_eq_nil_iff.1 h₃ d hd (by simp [hc])
      · exact List.filter_eq_nil_iff.1 h₄ d hd (by simp [hc])
      · exact List.filter_eq_nil_iff.1 h₅ d hd (by simp [hc])
  rw [kinds, check_early, check_unterminated, check_dangling, check_missingCallee, check_missingPad,
    early_eq_nil_iff, unterminated_eq_nil_iff, dangling_eq_nil_iff, missingCallee_eq_nil_iff,
    missingPad_eq_nil_iff]
  exact ⟨fun ⟨h₁, h₂, h₃, h₄, h₅⟩ => ⟨h₁, h₂, h₃, h₄, h₅⟩,
    fun h => ⟨h.early, h.terminated, h.targets, h.callees, h.pads⟩⟩

end Function

/-! ## Programs -/

namespace Program

theorem check_errors (p : Program) :
    p.check.errors = p.functions.flatMap fun f => (f.check p).errors := by
  unfold check
  rw [Findings.foldl_errors (e := fun f => (f.check p).errors) (fun acc f => ?_)]
  · rfl
  · split
    · rename_i hf
      simp [Function.check_errors_of_isDeclaration p hf]
    · rfl

theorem check_warnings (p : Program) :
    p.check.warnings = p.functions.flatMap fun f => (f.check p).warnings := by
  unfold check
  rw [Findings.foldl_warnings (e := fun f => (f.check p).warnings) (fun acc f => ?_)]
  · rfl
  · split
    · rename_i hf
      simp [Function.check_warnings_of_isDeclaration p hf]
    · rfl

end Program

def Program.Valid (p : Program) : Prop := ∀ f ∈ p.functions, f.Valid p

theorem Program.check_errors_eq_nil_iff (p : Program) : p.check.errors = [] ↔ p.Valid := by
  rw [check_errors, List.flatMap_eq_nil_iff]
  exact forall₂_congr fun f _ => f.check_errors_eq_nil_iff p

/-- The validator reports exactly its checks. For every function, in order: one error for each
block with a terminator before its last instruction; for each block without terminator, an error
if it is reachable and a warning if not; one error for each target of an instruction past the
last block and for each callee past the last function; one error for each landing block, in
ascending order and each once, that exists and does not start with a landing pad. There are no
other errors and no other warnings, so the errors are empty exactly when every function passes
these checks. -/
theorem Program.validation_reports_exactly (p : Program) :
    p.check.errors.filter (·.code = some .instructionAfterTerminal) =
        p.functions.flatMap (fun f => (f.blocks.zipIdx.filter (·.1.hasEarlyTerminator)).map
          fun x => f.earlyTerminatorError x.2 x.1) ∧
      p.check.errors.filter (·.code = some .unterminatedBlock) =
        p.functions.flatMap (fun f => (f.blocks.zipIdx.filter fun x =>
          x.1.isTerminal = false ∧ f.Reachable x.2).map fun x => f.unterminatedError x.2 x.1) ∧
      p.check.warnings =
        p.functions.flatMap (fun f => (f.blocks.zipIdx.filter fun x =>
          x.1.isTerminal = false ∧ ¬ f.Reachable x.2).map fun x => f.unreachableWarning x.2 x.1) ∧
      p.check.errors.filter (·.code = some .danglingBlockReference) =
        p.functions.flatMap (fun f => f.blocks.zipIdx.flatMap fun x =>
          ((x.1.instrs.flatMap Instr.successors).filter (f.blocks.length ≤ ·)).map
            (f.danglingError x.2)) ∧
      p.check.errors.filter (·.code = none) =
        p.functions.flatMap (fun f => f.blocks.zipIdx.flatMap fun x =>
          ((x.1.instrs.filterMap Instr.callee?).filter (p.functions.length ≤ ·)).map
            (f.missingCalleeError x.2)) ∧
      p.check.errors.filter (·.code = some .missingLandingPad) =
        p.functions.flatMap (fun f => ((List.range f.blocks.length).filter fun l =>
          l ∈ f.landings ∧ f.blocks[l]?.any (!Function.startsWithPad ·)).map f.missingPadError) ∧
      (∀ d ∈ p.check.errors, d.code = some .instructionAfterTerminal ∨
        d.code = some .unterminatedBlock ∨ d.code = some .danglingBlockReference ∨
        d.code = none ∨ d.code = some .missingLandingPad) ∧
      (p.check.errors = [] ↔ p.Valid) := by
  have byFunction : ∀ c : Option Code, p.check.errors.filter (·.code = c) =
      p.functions.flatMap fun f => (f.check p).errors.filter (·.code = c) := fun c => by
    rw [Program.check_errors, List.filter_flatMap]
  refine ⟨?_, ?_, ?_, ?_, ?_, ?_, ?_, Program.check_errors_eq_nil_iff p⟩
  · simp only [byFunction, Function.check_early]
  · simp only [byFunction, Function.check_unterminated]
  · simp only [Program.check_warnings, Function.check_unreachable]
  · simp only [byFunction, Function.check_dangling]
  · simp only [byFunction, Function.check_missingCallee]
  · simp only [byFunction, Function.check_missingPad]
  · intro d hd
    obtain ⟨f, -, hd⟩ := List.mem_flatMap.1 (Program.check_errors p ▸ hd)
    exact Function.check_codes p f d hd

-- Block 1 cannot be reached and has no terminator: it is the one warning.
example : (Program.mk [Function.mk "f" [] Ty.void
      [⟨"entry", [Instr.br 2]⟩, ⟨"dead", []⟩, ⟨"exit", [Instr.ret Operand.unit]⟩] Span.dummy 0] [] 0
      ).check.warnings.map (·.code) = [some .unreachableBlock] := by
  have hr : (Function.mk "f" [] Ty.void
      [⟨"entry", [Instr.br 2]⟩, ⟨"dead", []⟩, ⟨"exit", [Instr.ret Operand.unit]⟩] Span.dummy 0
      ).reachable = [true, false, true] := by
    simp [Function.reachable, Function.visit, Function.succs, Block.successors, Instr.isTerminal,
      Instr.successors]
  simp only [Program.check, List.foldl_cons, List.foldl_nil, Function.check, hr]
  decide

end Isel.Graph
