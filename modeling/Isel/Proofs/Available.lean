import Mathlib
import Isel.Proofs.Built
import Isel.Proofs.Paths

/-! # The variables available while a program is built

Every block selection makes is listed, when it is made, with the variables available at the
cursor at that moment; a block `emit` opens after a terminator is listed the same way. The
lists form a certificate (`Function.Certificate`) of the function being built at every step:
what an instruction reads is listed for its block or defined in it before, and a branch goes
only to blocks whose list it has defined. `Avail` adds what keeps the certificate valid for the
branches still to come: the tests and exits of the enclosing loops and the landing block list
only variables available at the cursor, and so do the operands bound to the locals in scope.

Parameters need no definition, and neither do the variables that assignments write; those are
exempt by name.
-/

namespace Isel.Graph.Function

variable {f : Function} {exempt : Var → Prop} {A : Nat → List Var}

theorem Certificate.congr {g : Function} (hc : f.Certificate exempt A) (hb : g.blocks = f.blocks)
    (hp : g.params = f.params) : g.Certificate exempt A :=
  ⟨hc.entry, hb ▸ hp ▸ hc.uses, hb ▸ hc.edges⟩

theorem Certificate.addBlock (hc : f.Certificate exempt A) (l : String) {Γ : List Var}
    (h₀ : f.blocks = [] → Γ = []) :
    (f.addBlock l).Certificate exempt (Function.update A f.blocks.length Γ) := by
  have old : ∀ b < f.blocks.length, Function.update A f.blocks.length Γ b = A b :=
    fun b hb => Function.update_of_ne (Nat.ne_of_lt hb) _ _
  have new : ∀ b blk, (f.addBlock l).blocks[b]? = some blk →
      (b < f.blocks.length ∧ f.blocks[b]? = some blk) ∨ blk.instrs = [] := by
    intro b blk hb
    rw [addBlock_blocks] at hb
    by_cases hlt : b < f.blocks.length
    · rw [List.getElem?_append_left hlt] at hb
      exact .inl ⟨hlt, hb⟩
    · rw [List.getElem?_append_right (by omega), List.getElem?_singleton] at hb
      split at hb
      · cases hb
        exact .inr rfl
      · cases hb
  refine ⟨?_, ?_, ?_⟩
  · by_cases h : f.blocks = []
    · simp [h, h₀ h]
    · rw [old 0 (List.length_pos_iff.2 h)]
      exact hc.entry
  · intro b blk hb k i hi v hv
    rcases new b blk hb with ⟨hlt, hb⟩ | he
    · rw [old b hlt, addBlock_params]
      exact hc.uses b blk hb k i hi v hv
    · simp [he] at hi
  · intro b blk hb t ht
    rcases new b blk hb with ⟨hlt, hb⟩ | he
    · obtain ⟨htl, hsub⟩ := hc.edges b blk hb t ht
      rw [addBlock_blocks, List.length_append, old b hlt, old t htl]
      exact ⟨by omega, hsub⟩
    · simp [Block.successors, he] at ht

/-- An instruction appended to an open block `c`: what it reads is listed for `c` or defined in
`c` before it, and if it ends the block, the blocks it goes to exist and list only what `c` has
defined on the way to them. -/
theorem Certificate.pushAt (hc : f.Certificate exempt A) {c : Nat} {blk : Block} {i : Instr}
    (hb : f.blocks[c]? = some blk)
    (hu : ∀ v ∈ i.uses, v ∈ f.params ∨ exempt v ∨ v ∈ A c ++ blk.instrs.flatMap Instr.defs)
    (he : i.isTerminal = true → ∀ t ∈ i.successors,
      t < f.blocks.length ∧ A t ⊆ A c ++ blk.instrs.flatMap Instr.defs ++ i.defsTowards t) :
    (f.pushAt c i).Certificate exempt A := by
  have hlen : (f.pushAt c i).blocks.length = f.blocks.length := by simp
  -- a block of the new function is the grown block `c` or a block as it was
  have cases_of : ∀ b blk', (f.pushAt c i).blocks[b]? = some blk' →
      (b = c ∧ blk' = { blk with instrs := blk.instrs ++ [i] }) ∨ f.blocks[b]? = some blk' := by
    intro b blk' hb'
    rw [pushAt_blocks, List.getElem?_modify] at hb'
    by_cases hbc : c = b
    · subst hbc
      simp [hb] at hb'
      exact .inl ⟨rfl, hb'.symm⟩
    · exact .inr (by simpa [hbc] using hb')
  refine ⟨hc.entry, ?_, ?_⟩
  · intro b blk' hb' k x hx v hv
    rw [pushAt_params]
    rcases cases_of b blk' hb' with ⟨rfl, rfl⟩ | hold
    · by_cases hk : k < blk.instrs.length
      · rw [List.getElem?_append_left hk] at hx
        rw [List.take_append_of_le_length (Nat.le_of_lt hk)]
        exact hc.uses b blk hb k x hx v hv
      · rw [List.getElem?_append_right (by omega), List.getElem?_singleton] at hx
        split at hx
        · cases hx
          have hk' : k = blk.instrs.length := by omega
          subst hk'
          rw [List.take_append_of_le_length (Nat.le_refl _), List.take_length]
          rcases hu v hv with hp | he' | hd
          · exact .inl hp
          · exact .inr (.inl he')
          · exact .inr (.inr (List.mem_append.1 hd))
        · cases hx
    · exact hc.uses b blk' hold k x hx v hv
  · intro b blk' hb' t ht
    rw [hlen]
    rcases cases_of b blk' hb' with ⟨rfl, rfl⟩ | hold
    · have hterm : i.isTerminal = true ∧ t ∈ i.successors := by
        simp only [Block.successors, List.getLast?_append, List.getLast?_singleton,
          Option.some_or] at ht
        split at ht
        · exact ⟨‹_›, ht⟩
        · simp at ht
      obtain ⟨htl, hsub⟩ := he hterm.1 t hterm.2
      refine ⟨htl, fun v hv => ?_⟩
      rcases List.mem_append.1 (hsub hv) with hv | hv
      · rcases List.mem_append.1 hv with hv | hv
        · exact List.mem_append_left _ hv
        · obtain ⟨x, hx, hvx⟩ := List.mem_flatMap.1 hv
          refine List.mem_append_right _ (List.mem_flatMap.2 ⟨x, List.mem_append_left _ hx, ?_⟩)
          exact Instr.defs_subset_defsTowards x t hvx
      · exact List.mem_append_right _
          (List.mem_flatMap.2 ⟨i, List.mem_append_right _ (List.mem_singleton_self i), hv⟩)
    · exact hc.edges b blk' hold t ht

end Isel.Graph.Function

namespace Isel.Lower

open Isel.Graph (Operand Instr Var Block)
open Isel.Tree (LocalId)

/-! ## The invariant -/

/-- The variables available at the cursor: those listed for its block, and those the block has
defined so far. -/
def State.avail (s : State) (A : Nat → List Var) : List Var :=
  A s.cursor.block ++ s.curBlock.instrs.flatMap Instr.defs

section Invariant

variable (names : List String)

/-- An operand that reads only parameters, variables assignments write, and variables available
at the cursor. -/
def Covered (s : State) (A : Nat → List Var) (o : Operand) : Prop :=
  ∀ v ∈ o.vars, v ∈ s.curFn.params ∨ v.name ∈ names ∨ v ∈ s.avail A

/-- The blocks of the cursor's function respect the lists `A`, and the cursor, the enclosing
loops and the landing block name blocks of that function. -/
structure Certified (A : Nat → List Var) (s : State) : Prop where
  cursor : s.cursor.fn < s.program.functions.length ∧ s.cursor.block < s.curFn.blocks.length
  cert : s.curFn.Certificate (fun v => v.name ∈ names) A
  loops : ∀ fr ∈ s.loops, fr.check < s.curFn.blocks.length ∧ fr.exit < s.curFn.blocks.length
  landing : ∀ l, s.landing = some l → l < s.curFn.blocks.length

/-- The invariant while the locals `Δ` are in scope: every block a branch from here may still go
to lists only variables available at the cursor, and the operands bound to the locals in scope
are covered. -/
structure Avail (Δ : List LocalId) (A : Nat → List Var) (s : State) : Prop
    extends Certified names A s where
  loopsAvail : ∀ fr ∈ s.loops, A fr.check ⊆ s.avail A ∧ A fr.exit ⊆ s.avail A
  landingAvail : ∀ l, s.landing = some l → A l ⊆ s.avail A
  env : ∀ l ∈ Δ, ∀ o, s.env.lookup l = some o → Covered names s A o

/-- The locals `Δ` keep their bindings, unless an assignment binds one to the variable it
writes. -/
def EnvKeeps (Δ : List LocalId) (s s' : State) : Prop :=
  ∀ l ∈ Δ, s'.env.lookup l = s.env.lookup l ∨
    ∃ x : Var, s'.env.lookup l = some (.var x) ∧ x.name ∈ names

/-- From `s` listed by `A` to `s'` listed by `A'`: the lists of the blocks of `s` stay, what is
available at the cursor only grows, the parameters stay, and the locals `Δ` keep their
bindings. -/
structure Grows (Δ : List LocalId) (s : State) (A : Nat → List Var) (s' : State)
    (A' : Nat → List Var) : Prop where
  blocks : s.curFn.blocks.length ≤ s'.curFn.blocks.length
  agree : ∀ b < s.curFn.blocks.length, A' b = A b
  avail : s.avail A ⊆ s'.avail A'
  params : s'.curFn.params = s.curFn.params
  env : EnvKeeps names Δ s s'

/-- A lowering that keeps `Avail`, from the locals `Δ` in scope to `Δ'`, after which what was
available stays available and the operands of its result are covered. -/
def Defines {α : Type} (m : LowerM α) (ops : α → List Operand) (ctx : Context)
    (Δ Δ' : List LocalId) : Prop :=
  ∀ ⦃A : Nat → List Var⦄ ⦃s s' : State⦄ ⦃a : α⦄, Avail names Δ A s → m ctx s = .ok (a, s') →
    ∃ A', Avail names Δ' A' s' ∧ Grows names Δ s A s' A' ∧ ∀ o ∈ ops a, Covered names s' A' o

end Invariant

variable {names : List String} {Δ Δ' : List LocalId} {A A' A'' : Nat → List Var}
  {s s' s'' t : State}

/-! ## Covered operands and growing lists -/

theorem Covered.grow {o : Operand} (h : Covered names s A o) (g : Grows names Δ s A s' A') :
    Covered names s' A' o := by
  intro v hv
  rcases h v hv with hp | hn | ha
  · exact .inl (g.params ▸ hp)
  · exact .inr (.inl hn)
  · exact .inr (.inr (g.avail ha))

theorem Covered.of_vars_nil {o : Operand} (h : o.vars = []) : Covered names s A o := by
  intro v hv
  simp [h] at hv

theorem Covered.named {x : Var} (h : x.name ∈ names) : Covered names s A (.var x) := by
  intro v hv
  simp only [Graph.Operand.vars, List.mem_singleton] at hv
  exact .inr (.inl (hv ▸ h))

theorem Covered.param {x : Var} (h : x ∈ s.curFn.params) : Covered names s A (.var x) := by
  intro v hv
  simp only [Graph.Operand.vars, List.mem_singleton] at hv
  exact .inl (hv ▸ h)

theorem Covered.result {result : Option Var} (h : result.toList ⊆ s.avail A) :
    Covered names s A ((result.map Operand.var).getD .unit) := by
  cases result with
  | none => exact Covered.of_vars_nil rfl
  | some r =>
    intro v hv
    simp only [Option.map_some, Option.getD_some, Graph.Operand.vars, List.mem_singleton] at hv
    exact .inr (.inr (h (by simp [hv])))

theorem Covered.elements {t : Graph.Ty} {vs : List Operand} (h : ∀ o ∈ vs, Covered names s A o) :
    Covered names s A (.const t (.elements vs)) := by
  intro v hv
  obtain ⟨o, ho, hv⟩ := Graph.Operand.mem_listVars.1 hv
  exact h o ho v hv

theorem Covered.var {x : Var} (h : x ∈ s.avail A) : Covered names s A (.var x) := by
  intro v hv
  simp only [Graph.Operand.vars, List.mem_singleton] at hv
  exact .inr (.inr (hv ▸ h))

theorem Covered.single {a : Operand} (ha : Covered names s A a) :
    ∀ o ∈ [a], Covered names s A o := by
  intro o ho
  rw [List.mem_singleton] at ho
  exact ho ▸ ha

theorem Covered.cons {a : Operand} {os : List Operand} (ha : Covered names s A a)
    (hs : ∀ o ∈ os, Covered names s A o) : ∀ o ∈ a :: os, Covered names s A o := by
  intro o ho
  rcases List.mem_cons.1 ho with rfl | ho
  · exact ha
  · exact hs o ho

theorem Covered.pair {a b : Operand} (ha : Covered names s A a) (hb : Covered names s A b) :
    ∀ o ∈ [a, b], Covered names s A o := by
  intro o ho
  simp only [List.mem_cons, List.not_mem_nil, or_false] at ho
  rcases ho with rfl | rfl
  · exact ha
  · exact hb

theorem EnvKeeps.refl (Δ : List LocalId) (s : State) : EnvKeeps names Δ s s :=
  fun _ _ => .inl rfl

theorem EnvKeeps.trans (h₁ : EnvKeeps names Δ s s') (h₂ : EnvKeeps names Δ s' s'') :
    EnvKeeps names Δ s s'' := by
  intro l hl
  rcases h₂ l hl with h | h
  · rw [h]
    exact h₁ l hl
  · exact .inr h

theorem EnvKeeps.mono (h : EnvKeeps names Δ s s') (hsub : Δ' ⊆ Δ) : EnvKeeps names Δ' s s' :=
  fun l hl => h l (hsub hl)

theorem EnvKeeps.bind_fresh {ps : List (LocalId × Operand)} (hps : ∀ l ∈ ps.map Prod.fst, l ∉ Δ) :
    EnvKeeps names Δ s { s with env := ps ++ s.env } := by
  intro l hl
  refine .inl ?_
  have hn : ps.lookup l = none := by
    rw [List.lookup_eq_none_iff]
    intro p hp
    have hne : p.1 ≠ l := fun he => hps p.1 (List.mem_map_of_mem hp) (he ▸ hl)
    exact bne_iff_ne.2 (Ne.symm hne)
  simp only [List.lookup_append, hn, Option.none_or]

theorem EnvKeeps.bind_named {l : LocalId} {x : Var} (hx : x.name ∈ names) :
    EnvKeeps names Δ s { s with env := (l, .var x) :: s.env } := by
  intro l' _
  by_cases hl : l' = l
  · subst hl
    exact .inr ⟨x, List.lookup_cons_self, hx⟩
  · refine .inl ?_
    have hne : (l' == l) = false := by simpa using hl
    simp only [List.lookup, hne]

namespace Grows

theorem refl (Δ : List LocalId) (s : State) (A : Nat → List Var) : Grows names Δ s A s A :=
  ⟨Nat.le_refl _, fun _ _ => rfl, List.Subset.refl _, rfl, EnvKeeps.refl Δ s⟩

theorem trans (g₁ : Grows names Δ s A s' A') (g₂ : Grows names Δ s' A' s'' A'') :
    Grows names Δ s A s'' A'' where
  blocks := Nat.le_trans g₁.blocks g₂.blocks
  agree b hb := (g₂.agree b (Nat.lt_of_lt_of_le hb g₁.blocks)).trans (g₁.agree b hb)
  avail := List.Subset.trans g₁.avail g₂.avail
  params := g₂.params.trans g₁.params
  env := g₁.env.trans g₂.env

theorem mono (g : Grows names Δ s A s' A') (hsub : Δ' ⊆ Δ) : Grows names Δ' s A s' A' :=
  { g with env := g.env.mono hsub }

theorem env_only {env : List (LocalId × Operand)} (he : EnvKeeps names Δ s { s with env := env }) :
    Grows names Δ s A { s with env := env } A :=
  ⟨Nat.le_refl _, fun _ _ => rfl, List.Subset.refl _, rfl, he⟩

theorem lt (g : Grows names Δ s A s' A') {b : Nat} (hb : b < s.curFn.blocks.length) :
    b < s'.curFn.blocks.length :=
  Nat.lt_of_lt_of_le hb g.blocks

theorem loops (g : Grows names Δ s A s' A') (l : List LoopFrame) :
    Grows names Δ s A { s' with loops := l } A' :=
  ⟨g.blocks, g.agree, g.avail, g.params, g.env⟩

theorem landing (g : Grows names Δ s A s' A') (l : Option Nat) :
    Grows names Δ s A { s' with landing := l } A' :=
  ⟨g.blocks, g.agree, g.avail, g.params, g.env⟩

end Grows

def Listed (A : Nat → List Var) (s : State) (b : Nat) (Γ : List Var) : Prop :=
  b < s.curFn.blocks.length ∧ A b = Γ

theorem Grows.listed (g : Grows names Δ s A s' A') {b : Nat} {Γ : List Var} (h : Listed A s b Γ) :
    Listed A' s' b Γ :=
  ⟨g.lt h.1, (g.agree b h.1).trans h.2⟩

theorem Listed.subset {b : Nat} {Γ : List Var} (h : Listed A s b Γ) : A b ⊆ Γ :=
  h.2 ▸ List.Subset.refl _

theorem Listed.supset {b : Nat} {Γ : List Var} (h : Listed A s b Γ) : Γ ⊆ A b :=
  h.2 ▸ List.Subset.refl _

theorem State.subset_avail_moveTo (s : State) (A : Nat → List Var) (b : Nat) :
    A b ⊆ (s.moveTo b).avail A :=
  List.subset_append_left _ _

theorem Grows.moveTo (g : Grows names Δ s A s' A') {b : Nat}
    (hsub : s.avail A ⊆ (s'.moveTo b).avail A') : Grows names Δ s A (s'.moveTo b) A' :=
  ⟨g.blocks, g.agree, hsub, g.params, g.env⟩

/-- What a terminator at the cursor needs of the blocks it goes to: they exist and list only
what is available on the way there. -/
def Edges (A : Nat → List Var) (s : State) (i : Instr) : Prop :=
  i.isTerminal = true → ∀ t ∈ i.successors,
    t < s.curFn.blocks.length ∧ A t ⊆ s.avail A ++ i.defsTowards t

theorem Edges.br {t : Nat} {Γ : List Var} (ht : Listed A s t Γ) (hsub : Γ ⊆ s.avail A) :
    Edges A s (.br t) := by
  intro _ t' ht'
  simp only [Instr.successors, List.mem_singleton] at ht'
  subst ht'
  exact ⟨ht.1, by rw [ht.2]; exact List.Subset.trans hsub (List.subset_append_left _ _)⟩

theorem Edges.ret {a : Operand} : Edges A s (.ret a) := by
  intro _ t ht
  simp [Instr.successors] at ht

theorem Edges.condBr {c : Operand} {t f : Nat} {Γ Γ' : List Var} (ht : Listed A s t Γ)
    (hf : Listed A s f Γ') (hst : Γ ⊆ s.avail A) (hsf : Γ' ⊆ s.avail A) :
    Edges A s (.condBr c t f) := by
  intro _ t' ht'
  simp only [Instr.successors, List.mem_cons, List.not_mem_nil, or_false] at ht'
  rcases ht' with rfl | rfl
  · exact ⟨ht.1, by rw [ht.2]; exact List.Subset.trans hst (List.subset_append_left _ _)⟩
  · exact ⟨hf.1, by rw [hf.2]; exact List.Subset.trans hsf (List.subset_append_left _ _)⟩

namespace Avail

theorem mono (ha : Avail names Δ A s) (hsub : Δ' ⊆ Δ) : Avail names Δ' A s :=
  { ha with env := fun l hl => ha.env l (hsub hl) }

theorem of_same (ha : Avail names Δ A s) (hfn : t.cursor.fn < t.program.functions.length)
    (hc : t.cursor.block = s.cursor.block) (hb : t.curFn.blocks = s.curFn.blocks)
    (hp : t.curFn.params = s.curFn.params) (hl : t.loops = s.loops) (hd : t.landing = s.landing)
    (he : t.env = s.env) : Avail names Δ A t ∧ Grows names Δ s A t A := by
  have havail : t.avail A = s.avail A := by
    simp only [State.avail, State.curBlock, hc, hb]
  have hcov : ∀ o, Covered names s A o → Covered names t A o := fun o h => by
    simpa only [Covered, hp, havail] using h
  refine ⟨⟨⟨⟨hfn, hc ▸ hb ▸ ha.cursor.2⟩, ha.cert.congr hb hp, hb ▸ hl ▸ ha.loops,
    hb ▸ hd ▸ ha.landing⟩, havail ▸ hl ▸ ha.loopsAvail, havail ▸ hd ▸ ha.landingAvail,
    fun l hl' o ho => hcov o (ha.env l hl' o (he ▸ ho))⟩, ?_⟩
  exact ⟨Nat.le_of_eq (congrArg List.length hb.symm), fun _ _ => rfl, havail ▸ List.Subset.refl _,
    hp, fun l _ => .inl (by rw [he])⟩

theorem registers (ha : Avail names Δ A s) (h : Registers s t) :
    Avail names Δ A t ∧ Grows names Δ s A t A := by
  obtain ⟨fs, ks, tf, tk, hfs, -, rfl⟩ := h
  have hfn : (s.extend fs ks tf tk).curFn = s.curFn := by
    simp only [State.curFn, State.fn, State.extend, List.getD_eq_getElem?_getD]
    rw [List.getElem?_append_left ha.cursor.1]
  exact ha.of_same (by
      simp only [State.extend, List.length_append]
      exact Nat.lt_of_lt_of_le ha.cursor.1 (Nat.le_add_right _ _)) rfl (by rw [hfn])
    (by rw [hfn]) rfl rfl rfl

theorem bump (ha : Avail names Δ A s) :
    Avail names Δ A (s.mapFn s.cursor.fn Graph.Function.bump) ∧
      Grows names Δ s A (s.mapFn s.cursor.fn Graph.Function.bump) A := by
  have hfn : (s.mapFn s.cursor.fn Graph.Function.bump).curFn = s.curFn.bump :=
    State.curFn_mapFn ha.cursor.1
  exact ha.of_same (by rw [State.length_mapFn]; exact ha.cursor.1) rfl (by rw [hfn]; rfl)
    (by rw [hfn]; rfl) rfl rfl rfl

theorem warn (ha : Avail names Δ A s) (code : Code) (message : String) (span : Span) :
    Avail names Δ A (s.warn code message span) ∧ Grows names Δ s A (s.warn code message span) A :=
  ha.of_same ha.cursor.1 rfl rfl rfl rfl rfl rfl

theorem bindAll (ha : Avail names Δ A s) {ps : List (LocalId × Operand)}
    (hps : ∀ p ∈ ps, Covered names s A p.2) :
    Avail names (ps.map Prod.fst ++ Δ) A { s with env := ps ++ s.env } := by
  refine ⟨⟨ha.cursor, ha.cert, ha.loops, ha.landing⟩, ha.loopsAvail, ha.landingAvail,
    fun l hl o ho => ?_⟩
  rw [List.lookup_append] at ho
  cases hp : ps.lookup l with
  | some o' =>
    rw [hp, Option.some_or] at ho
    cases ho
    obtain ⟨l₁, l₂, rfl, -⟩ := List.lookup_eq_some_iff.1 hp
    exact hps _ (List.mem_append_right _ List.mem_cons_self)
  | none =>
    rw [hp, Option.none_or] at ho
    -- a local the new bindings miss is one of `Δ`
    have hl' : l ∉ ps.map Prod.fst := by
      intro hm
      obtain ⟨p, hp', rfl⟩ := List.mem_map.1 hm
      simpa using List.lookup_eq_none_iff.1 hp p hp'
    exact ha.env l ((List.mem_append.1 hl).resolve_left hl') o ho

theorem bind (ha : Avail names Δ A s) {l : LocalId} {o : Operand} (ho : Covered names s A o) :
    Avail names (l :: Δ) A { s with env := (l, o) :: s.env } :=
  ha.bindAll fun p (hp : p ∈ [(l, o)]) => by
    rw [List.mem_singleton] at hp
    exact hp ▸ ho

end Avail

/-! ## Steps of the state -/

theorem Covered.mono {o : Operand} (h : Covered names s A o) (hp : t.curFn.params = s.curFn.params)
    (hsub : s.avail A ⊆ t.avail A') : Covered names t A' o := by
  intro v hv
  rcases h v hv with hv | hv | hv
  · exact .inl (hp ▸ hv)
  · exact .inr (.inl hv)
  · exact .inr (.inr (hsub hv))

theorem Grows.restore (g : Grows names Δ s A t A') (k : Keeps s t)
    (hc : s.cursor.block < s.curFn.blocks.length) : s.avail A ⊆ (t.moveTo s.cursor.block).avail A' := by
  intro v hv
  rcases List.mem_append.1 hv with hv | hv
  · refine List.mem_append_left _ ?_
    show v ∈ A' s.cursor.block
    rw [g.agree _ hc]
    exact hv
  · obtain ⟨b', hb', hpre⟩ := k.blocks.2 _ _ (State.block?_cursor hc)
    have hcur : (t.moveTo s.cursor.block).curBlock = b' := by
      rw [State.curBlock_moveTo, List.getD_eq_getElem?_getD, hb', Option.getD_some]
    obtain ⟨i, hi, hvi⟩ := List.mem_flatMap.1 hv
    refine List.mem_append_right _ ?_
    rw [hcur]
    exact List.mem_flatMap.2 ⟨i, hpre.subset hi, hvi⟩

theorem Certified.moveTo (hc : Certified names A s) {b : Nat} (hb : b < s.curFn.blocks.length) :
    Certified names A (s.moveTo b) :=
  ⟨⟨hc.cursor.1, hb⟩, hc.cert, hc.loops, hc.landing⟩

namespace Avail

theorem of_grows (ha : Avail names Δ A s) (hc : Certified names A' t) (g : Grows names Δ s A t A')
    (hl : t.loops = s.loops) (hd : t.landing = s.landing) (he : t.env = s.env) :
    Avail names Δ A' t := by
  refine ⟨hc, fun fr hfr => ?_, fun l hl' => ?_, fun l hl' o ho => ?_⟩
  · rw [hl] at hfr
    obtain ⟨hc₁, he₁⟩ := ha.loops fr hfr
    obtain ⟨hc₂, he₂⟩ := ha.loopsAvail fr hfr
    rw [g.agree _ hc₁, g.agree _ he₁]
    exact ⟨List.Subset.trans hc₂ g.avail, List.Subset.trans he₂ g.avail⟩
  · rw [hd] at hl'
    rw [g.agree _ (ha.landing l hl')]
    exact List.Subset.trans (ha.landingAvail l hl') g.avail
  · rw [he] at ho
    exact (ha.env l hl' o ho).grow g

theorem framesWithin {s₀ : State} {A₀ : Nat → List Var} (ha₀ : Avail names Δ A₀ s₀)
    (g : Grows names Δ s₀ A₀ s A) {X : List Var} (hsub : s₀.avail A₀ ⊆ X) :
    (∀ fr ∈ s₀.loops, A fr.check ⊆ X ∧ A fr.exit ⊆ X) ∧
      ∀ l, s₀.landing = some l → A l ⊆ X := by
  refine ⟨fun fr hfr => ?_, fun l hl => ?_⟩
  · obtain ⟨hc₁, he₁⟩ := ha₀.loops fr hfr
    obtain ⟨hc₂, he₂⟩ := ha₀.loopsAvail fr hfr
    rw [g.agree _ hc₁, g.agree _ he₁]
    exact ⟨List.Subset.trans hc₂ hsub, List.Subset.trans he₂ hsub⟩
  · rw [g.agree _ (ha₀.landing l hl)]
    exact List.Subset.trans (ha₀.landingAvail l hl) hsub

theorem enterCore {s₀ : State} {A₀ : Nat → List Var} (ha₀ : Avail names Δ A₀ s₀)
    (hc : Certified names A s) (g : Grows names Δ s₀ A₀ s A) {b : Nat}
    (hb : b < s.curFn.blocks.length) (hsub : s₀.avail A₀ ⊆ (s.moveTo b).avail A)
    (hloops : ∀ fr ∈ s.loops, A fr.check ⊆ (s.moveTo b).avail A ∧ A fr.exit ⊆ (s.moveTo b).avail A)
    (hland : ∀ l, s.landing = some l → A l ⊆ (s.moveTo b).avail A) :
    Avail names Δ A (s.moveTo b) ∧ Grows names Δ s₀ A₀ (s.moveTo b) A := by
  have g' : Grows names Δ s₀ A₀ (s.moveTo b) A := g.moveTo hsub
  refine ⟨⟨hc.moveTo hb, hloops, hland, fun l hl' o ho => ?_⟩, g'⟩
  -- a binding in scope is the one at `s₀` or one an assignment made
  rcases g.env l hl' with hk | ⟨x, hx, hn⟩
  · rw [State.moveTo, hk] at ho
    exact (ha₀.env l hl' o ho).grow g'
  · rw [State.moveTo, hx] at ho
    cases ho
    exact Covered.named hn

theorem enter {s₀ : State} {A₀ : Nat → List Var} (ha₀ : Avail names Δ A₀ s₀)
    (hc : Certified names A s) (g : Grows names Δ s₀ A₀ s A) (hl : s.loops = s₀.loops)
    (hd : s.landing = s₀.landing) {b : Nat} (hb : b < s.curFn.blocks.length)
    (hsub : s₀.avail A₀ ⊆ (s.moveTo b).avail A) :
    Avail names Δ A (s.moveTo b) ∧ Grows names Δ s₀ A₀ (s.moveTo b) A :=
  ha₀.enterCore hc g hb hsub (fun fr hfr => (ha₀.framesWithin g hsub).1 fr (hl ▸ hfr))
    (fun l hl' => (ha₀.framesWithin g hsub).2 l (hd ▸ hl'))

theorem enterListed {s₀ : State} {A₀ : Nat → List Var} (ha₀ : Avail names Δ A₀ s₀)
    (hc : Certified names A s) (g : Grows names Δ s₀ A₀ s A) (hl : s.loops = s₀.loops)
    (hd : s.landing = s₀.landing) {b : Nat} {Γ : List Var} (hb : Listed A s b Γ)
    (hsub : s₀.avail A₀ ⊆ Γ) : Avail names Δ A (s.moveTo b) ∧ Grows names Δ s₀ A₀ (s.moveTo b) A :=
  ha₀.enter hc g hl hd hb.1 (List.Subset.trans hsub (by
    rw [← hb.2]
    exact State.subset_avail_moveTo s A b))

theorem enterLoop {s₀ : State} {A₀ : Nat → List Var} (ha₀ : Avail names Δ A₀ s₀)
    (hc : Certified names A s) (g : Grows names Δ s₀ A₀ s A) {fr : LoopFrame}
    (hl : s.loops = fr :: s₀.loops) (hd : s.landing = s₀.landing) {b : Nat} {Γ : List Var}
    (hb : Listed A s b Γ) (hsub : s₀.avail A₀ ⊆ Γ) (hfr : A fr.check ⊆ Γ ∧ A fr.exit ⊆ Γ) :
    Avail names Δ A (s.moveTo b) ∧ Grows names Δ s₀ A₀ (s.moveTo b) A := by
  have hΓ : Γ ⊆ (s.moveTo b).avail A := by
    rw [← hb.2]
    exact State.subset_avail_moveTo s A b
  have hsub' := List.Subset.trans hsub hΓ
  refine ha₀.enterCore hc g hb.1 hsub' (fun fr' hfr' => ?_)
    (fun l hl' => (ha₀.framesWithin g hsub').2 l (hd ▸ hl'))
  rw [hl] at hfr'
  rcases List.mem_cons.1 hfr' with rfl | hfr'
  · exact ⟨List.Subset.trans hfr.1 hΓ, List.Subset.trans hfr.2 hΓ⟩
  · exact (ha₀.framesWithin g hsub').1 fr' hfr'

theorem moveTo (ha : Avail names Δ A s) {b : Nat} (hb : b < s.curFn.blocks.length)
    (hsub : s.avail A ⊆ A b) : Avail names Δ A (s.moveTo b) ∧ Grows names Δ s A (s.moveTo b) A :=
  ha.enter ha.toCertified (Grows.refl Δ s A) rfl rfl hb
    (List.Subset.trans hsub (List.subset_append_left _ _))

theorem pushLoop (ha : Avail names Δ A s) {fr : LoopFrame} (hc : fr.check < s.curFn.blocks.length)
    (he : fr.exit < s.curFn.blocks.length) (hcs : A fr.check ⊆ s.avail A)
    (hes : A fr.exit ⊆ s.avail A) : Avail names Δ A { s with loops := fr :: s.loops } := by
  refine ⟨⟨ha.cursor, ha.cert, fun f hf => ?_, ha.landing⟩, fun f hf => ?_, ha.landingAvail,
    ha.env⟩
  · rcases List.mem_cons.1 hf with rfl | hf
    · exact ⟨hc, he⟩
    · exact ha.loops f hf
  · rcases List.mem_cons.1 hf with rfl | hf
    · exact ⟨hcs, hes⟩
    · exact ha.loopsAvail f hf

theorem popLoop (ha : Avail names Δ A s) : Avail names Δ A { s with loops := s.loops.tail } :=
  ⟨⟨ha.cursor, ha.cert, fun f hf => ha.loops f (List.mem_of_mem_tail hf), ha.landing⟩,
    fun f hf => ha.loopsAvail f (List.mem_of_mem_tail hf), ha.landingAvail, ha.env⟩

theorem setLanding (ha : Avail names Δ A s) {l : Option Nat}
    (hl : ∀ k, l = some k → k < s.curFn.blocks.length ∧ A k ⊆ s.avail A) :
    Avail names Δ A { s with landing := l } :=
  ⟨⟨ha.cursor, ha.cert, ha.loops, fun k hk => (hl k hk).1⟩, ha.loopsAvail,
    fun k hk => (hl k hk).2, ha.env⟩

theorem push (ha : Avail names Δ A s) {i : Instr} (hu : ∀ o ∈ i.operands, Covered names s A o)
    (he : Edges A s i) :
    Avail names Δ A (s.push i) ∧ Grows names Δ s A (s.push i) A ∧
      (s.push i).avail A = s.avail A ++ i.defs ∧ (s.push i).curBlock.isTerminal = i.isTerminal := by
  have hfn : (s.push i).curFn = s.curFn.pushAt s.cursor.block i := State.curFn_mapFn ha.cursor.1
  have hblk := State.curBlock_push ha.cursor.1 ha.cursor.2 i
  have havail : (s.push i).avail A = s.avail A ++ i.defs := by
    simp [State.avail, hblk]
  have hlen : (s.push i).curFn.blocks.length = s.curFn.blocks.length := by
    rw [hfn, Graph.Function.pushAt_blocks, List.length_modify]
  have hu' : ∀ v ∈ i.uses, v ∈ s.curFn.params ∨ v.name ∈ names ∨
      v ∈ A s.cursor.block ++ s.curBlock.instrs.flatMap Instr.defs := by
    intro v hv
    obtain ⟨o, ho, hv⟩ := Graph.Operand.mem_listVars.1 hv
    exact hu o ho v hv
  have hc : Certified names A (s.push i) :=
    ⟨⟨by rw [State.push_cursor, State.push, State.length_mapFn]; exact ha.cursor.1,
        hlen ▸ ha.cursor.2⟩,
      hfn ▸ ha.cert.pushAt (State.block?_cursor ha.cursor.2) hu' he,
      hlen ▸ ha.loops, hlen ▸ ha.landing⟩
  have g : Grows names Δ s A (s.push i) A :=
    ⟨Nat.le_of_eq hlen.symm, fun _ _ => rfl, havail ▸ List.subset_append_left _ _,
      by rw [hfn, Graph.Function.pushAt_params], EnvKeeps.refl Δ s⟩
  refine ⟨ha.of_grows hc g rfl rfl rfl, g, havail, ?_⟩
  rw [hblk, Graph.Block.isTerminal_push]

theorem reopen (ha : Avail names Δ A s) :
    ∃ A', Avail names Δ A' s.reopen ∧ Grows names Δ s A s.reopen A' ∧
      s.reopen.avail A' = s.avail A := by
  unfold State.reopen
  split
  · have hcf := State.curFn_mapFn (g := (·.addBlock "unreachable")) ha.cursor.1
    have hlen : s.curFn.blocks.length < (s.addBlock "unreachable").curFn.blocks.length := by
      rw [State.addBlock, hcf, Graph.Function.addBlock_blocks, List.length_append]
      exact Nat.lt_succ_self _
    have hcert := ha.cert.addBlock "unreachable" (Γ := s.avail A)
      (fun h => absurd ha.cursor.2 (by simp [h]))
    have hold : ∀ b < s.curFn.blocks.length,
        Function.update A s.curFn.blocks.length (s.avail A) b = A b :=
      fun b hb => Function.update_of_ne (Nat.ne_of_lt hb) _ _
    have hc : Certified names (Function.update A s.curFn.blocks.length (s.avail A))
        ((s.addBlock "unreachable").moveTo s.curFn.blocks.length) :=
      ⟨⟨by rw [State.program_moveTo, State.addBlock, State.length_mapFn]; exact ha.cursor.1, hlen⟩,
        by rw [State.curFn_moveTo, State.addBlock, hcf]; exact hcert,
        fun fr hfr => ⟨Nat.lt_trans (ha.loops fr hfr).1 hlen, Nat.lt_trans (ha.loops fr hfr).2 hlen⟩,
        fun l hl => Nat.lt_trans (ha.landing l hl) hlen⟩
    have havail : ((s.addBlock "unreachable").moveTo s.curFn.blocks.length).avail
        (Function.update A s.curFn.blocks.length (s.avail A)) = s.avail A := by
      rw [State.avail, State.curBlock_moveTo, State.curFn_addBlock ha.cursor.1]
      simp
    have g : Grows names Δ s A ((s.addBlock "unreachable").moveTo s.curFn.blocks.length)
        (Function.update A s.curFn.blocks.length (s.avail A)) :=
      ⟨Nat.le_of_lt hlen, hold, by rw [havail]; exact List.Subset.refl _,
        by rw [State.curFn_moveTo, State.addBlock, hcf, Graph.Function.addBlock_params],
        EnvKeeps.refl Δ s⟩
    exact ⟨_, ha.of_grows hc g rfl rfl rfl, g, havail⟩
  · exact ⟨A, ha, Grows.refl Δ s A, rfl⟩

end Avail

/-! ## The primitives -/

section Primitives

variable {ctx : Context}

theorem emit_avail (ha : Avail names Δ A s) {i : Instr} {u : Operand}
    (hu : ∀ o ∈ i.operands, Covered names s A o)
    (he : Edges A s i) (h : emit i ctx s = .ok (u, s')) :
    ∃ A', Avail names Δ A' s' ∧ Grows names Δ s A s' A' ∧ s'.avail A' = s.avail A ++ i.defs ∧
      s'.curBlock.isTerminal = i.isTerminal ∧ u = (i.dst?.map Operand.var).getD .unit := by
  obtain ⟨-, rfl, rfl⟩ := emit_ok h
  obtain ⟨A₁, a₁, g₁, e₁⟩ := ha.reopen
  have he' : Edges A₁ s.reopen i := by
    intro ht t hts
    obtain ⟨hl, hsub⟩ := he ht t hts
    exact ⟨Nat.lt_of_lt_of_le hl g₁.blocks, by rw [g₁.agree t hl, e₁]; exact hsub⟩
  obtain ⟨a₂, g₂, e₂, t₂⟩ := a₁.push (fun o ho => (hu o ho).grow g₁) he'
  exact ⟨A₁, a₂, g₁.trans g₂, by rw [e₂, e₁], t₂, rfl⟩

theorem emit_plain_avail (ha : Avail names Δ A s) {i : Instr} {u : Operand}
    (hi : i.isTerminal = false) (hu : ∀ o ∈ i.operands, Covered names s A o)
    (h : emit i ctx s = .ok (u, s')) :
    ∃ A', Avail names Δ A' s' ∧ Grows names Δ s A s' A' ∧
      s'.avail A' = s.avail A ++ i.dst?.toList ∧
      Covered names s' A' ((i.dst?.map Operand.var).getD .unit) ∧
      u = (i.dst?.map Operand.var).getD .unit := by
  obtain ⟨A', a, g, e, -, rfl⟩ := emit_avail ha hu (fun ht => absurd ht (by simp [hi])) h
  have hd : i.defs = i.dst?.toList := by
    cases i <;> first | rfl | simp [Instr.isTerminal] at hi
  refine ⟨A', a, g, by rw [e, hd], fun v hv => .inr (.inr ?_), rfl⟩
  rw [e, hd]
  cases hx : i.dst? with
  | none => simp [hx, Graph.Operand.vars] at hv
  | some x =>
    simp only [hx, Option.map_some, Option.getD_some, Graph.Operand.vars,
      List.mem_singleton] at hv
    simp [hv]

theorem newBlock_avail {l : String} {b : Nat} (ha : Avail names Δ A s) (Γ : List Var)
    (h : newBlock l ctx s = .ok (b, s')) :
    ∃ A', Avail names Δ A' s' ∧ Grows names Δ s A s' A' ∧ Listed A' s' b Γ ∧
      s'.avail A' = s.avail A := by
  obtain ⟨-, rfl, rfl⟩ := newBlock_ok h
  have hcf := State.curFn_mapFn (g := (·.addBlock l)) ha.cursor.1
  have hlen : s.curFn.blocks.length < (s.addBlock l).curFn.blocks.length := by
    rw [State.addBlock, hcf, Graph.Function.addBlock_blocks, List.length_append]
    exact Nat.lt_succ_self _
  have hold : ∀ b < s.curFn.blocks.length, Function.update A s.curFn.blocks.length Γ b = A b :=
    fun b hb => Function.update_of_ne (Nat.ne_of_lt hb) _ _
  have hc : Certified names (Function.update A s.curFn.blocks.length Γ) (s.addBlock l) :=
    ⟨⟨by rw [State.addBlock, State.length_mapFn]; exact ha.cursor.1,
        Nat.lt_trans ha.cursor.2 hlen⟩,
      by rw [State.addBlock, hcf]; exact ha.cert.addBlock l (fun h => absurd ha.cursor.2 (by simp [h])),
      fun fr hfr => ⟨Nat.lt_trans (ha.loops fr hfr).1 hlen, Nat.lt_trans (ha.loops fr hfr).2 hlen⟩,
      fun l hl => Nat.lt_trans (ha.landing l hl) hlen⟩
  have havail : (s.addBlock l).avail (Function.update A s.curFn.blocks.length Γ) = s.avail A := by
    rw [State.avail, State.curBlock_addBlock ha.cursor.1 ha.cursor.2, State.addBlock_cursor,
      hold _ ha.cursor.2]
    rfl
  have g : Grows names Δ s A (s.addBlock l) (Function.update A s.curFn.blocks.length Γ) :=
    ⟨Nat.le_of_lt hlen, hold, by rw [havail]; exact List.Subset.refl _,
      by rw [State.addBlock, hcf, Graph.Function.addBlock_params], EnvKeeps.refl Δ s⟩
  exact ⟨_, ha.of_grows hc g rfl rfl rfl, g, ⟨hlen, Function.update_self _ _ _⟩, havail⟩

theorem freshVar_avail {ty : Graph.Ty} {x : Var} (ha : Avail names Δ A s)
    (h : freshVar ty ctx s = .ok (x, s')) : Avail names Δ A s' ∧ Grows names Δ s A s' A := by
  obtain ⟨-, rfl, rfl⟩ := freshVar_ok h
  exact ha.bump

theorem lowerType_avail {t : Tree.Ty} {t' : Graph.Ty} (ha : Avail names Δ A s)
    (h : lowerType t ctx s = .ok (t', s')) : Avail names Δ A s' ∧ Grows names Δ s A s' A :=
  ha.registers (lowerType_registers h)

theorem klassId_avail {cls : Tree.DefId} {k : Nat} (ha : Avail names Δ A s)
    (h : klassId cls ctx s = .ok (k, s')) : Avail names Δ A s' ∧ Grows names Δ s A s' A :=
  ha.registers (klassId_registers h).1

theorem calleeFor_avail {callee : Tree.Callee} {args : List Operand} {ret : Graph.Ty} {fn : Nat}
    (ha : Avail names Δ A s) (h : calleeFor callee args ret ctx s = .ok (fn, s')) :
    Avail names Δ A s' ∧ Grows names Δ s A s' A :=
  ha.registers (calleeFor_registers h).1

theorem jumpIfOpen_avail {t : Nat} (ha : Avail names Δ A s) (ht : t < s.curFn.blocks.length)
    (hsub : s.curBlock.isTerminal = false → A t ⊆ s.avail A)
    (h : jumpIfOpen t ctx s = .ok ((), s')) :
    Avail names Δ A s' ∧ Grows names Δ s A s' A ∧ s'.curBlock.isTerminal = true := by
  obtain ⟨-, rfl⟩ := jumpIfOpen_ok h
  split
  · exact ⟨ha, Grows.refl Δ s A, ‹_›⟩
  · rename_i hopen
    obtain ⟨a, g, -, ht'⟩ := ha.push (i := .br t) (by simp [Instr.operands])
      (fun _ t' ht' => by
        simp only [Instr.successors, List.mem_singleton] at ht'
        subst ht'
        exact ⟨ht, List.Subset.trans (hsub (by simpa using hopen)) (List.subset_append_left _ _)⟩)
    exact ⟨a, g, ht'⟩

theorem finishArm_avail {a : Operand} {result : Option Var} {exit : Nat}
    (ha : Avail names Δ A s) (hc : Covered names s A a) (hx : exit < s.curFn.blocks.length)
    (hsub : A exit ⊆ s.avail A ++ result.toList) (h : finishArm a result exit ctx s = .ok ((), s')) :
    ∃ A', Avail names Δ A' s' ∧ Grows names Δ s A s' A' ∧ s'.curBlock.isTerminal = true := by
  rcases finishArm_steps h with ⟨ht, rfl⟩ | ⟨-, s₁, u, h₁, h₂⟩
  · exact ⟨A, ha, Grows.refl _ _ _, ht⟩
  · -- the value moves into the result, if there is one, and the arm branches to the exit
    have n₁ : ∃ A₁, Avail names Δ A₁ s₁ ∧ Grows names Δ s A s₁ A₁ ∧ A exit ⊆ s₁.avail A₁ := by
      rcases h₁ with ⟨rfl, rfl⟩ | ⟨r, u₀, rfl, h₁⟩
      · exact ⟨A, ha, Grows.refl _ _ _, by simpa using hsub⟩
      · obtain ⟨A₁, a₁, g₁, e₁, -⟩ :=
          emit_plain_avail ha rfl (by simpa [Instr.operands] using hc) h₁
        exact ⟨A₁, a₁, g₁, by rw [e₁]; simpa [Instr.dst?] using hsub⟩
    obtain ⟨A₁, a₁, g₁, hs₁⟩ := n₁
    obtain ⟨A₂, a₂, g₂, -, t₂, -⟩ := emit_avail a₁ (by simp [Instr.operands])
      (fun _ t ht => by
        simp only [Instr.successors, List.mem_singleton] at ht
        subst ht
        exact ⟨Nat.lt_of_lt_of_le hx g₁.blocks, by
          rw [g₁.agree _ hx]; exact List.Subset.trans hs₁ (List.subset_append_left _ _)⟩) h₂
    exact ⟨A₂, a₂, g₁.trans g₂, t₂⟩

theorem generateCall_avail {callee : Nat} {ret : Graph.Ty} {args : List Operand} {v : Operand}
    (ha : Avail names Δ A s) (hargs : ∀ o ∈ args, Covered names s A o)
    (h : generateCall callee ret args ctx s = .ok (v, s')) :
    ∃ A', Avail names Δ A' s' ∧ Grows names Δ s A s' A' ∧ Covered names s' A' v := by
  obtain ⟨dst, s₁, hd, rfl, hcall⟩ := generateCall_steps h
  have n₁ : Avail names Δ A s₁ ∧ Grows names Δ s A s₁ A := by
    rcases hd with ⟨-, -, rfl⟩ | ⟨-, d, hf, -⟩
    · exact ⟨ha, Grows.refl _ _ _⟩
    · exact freshVar_avail ha hf
  obtain ⟨a₁, g₁⟩ := n₁
  have hargs₁ : ∀ o ∈ args, Covered names s₁ A o := fun o ho => (hargs o ho).grow g₁
  -- the result is the destination, wherever it is defined
  have hres : ∀ {t : State} {B : Nat → List Var}, dst.toList ⊆ t.avail B →
      Covered names t B ((dst.map Operand.var).getD .unit) := by
    intro t B hsub
    cases dst with
    | none => exact Covered.of_vars_nil rfl
    | some d =>
      intro x hx
      simp only [Option.map_some, Option.getD_some, Graph.Operand.vars, List.mem_singleton] at hx
      exact .inr (.inr (hsub (by simp [hx])))
  rcases hcall with ⟨-, u, he⟩ | ⟨l, normal, s₂, u, s₃, hl, hn, he, rfl⟩
  · obtain ⟨A₂, a₂, g₂, e₂, -⟩ := emit_plain_avail a₁ rfl (by simpa [Instr.operands] using hargs₁) he
    exact ⟨A₂, a₂, g₁.trans g₂, hres (by rw [e₂]; simp [Instr.dst?])⟩
  · -- inside a protected region: an invoke, whose result exists on the normal edge only
    obtain ⟨A₂, a₂, g₂, ⟨ln, hnormal⟩, e₂⟩ := newBlock_avail a₁ (s₁.avail A ++ dst.toList) hn
    obtain ⟨A₃, a₃, g₃, e₃, -, -⟩ := emit_avail a₂
      (by simpa [Instr.operands] using fun o ho => (hargs₁ o ho).grow g₂)
      (fun _ t ht => by
        simp only [Instr.successors, List.mem_cons, List.not_mem_nil, or_false] at ht
        rcases ht with rfl | rfl
        · refine ⟨ln, ?_⟩
          rw [hnormal, e₂]
          simp [Instr.defsTowards]
        · have hl₂ : s₂.landing = some t := by rw [← hl, newBlock_keeps hn |>.landing]
          exact ⟨a₂.landing t hl₂,
            List.Subset.trans (a₂.landingAvail t hl₂) (List.subset_append_left _ _)⟩) he
    have hA₃ : A₃ normal = s₁.avail A ++ dst.toList := by
      rw [g₃.agree _ ln, hnormal]
    obtain ⟨a₄, g₄⟩ := a₃.moveTo (Nat.lt_of_lt_of_le ln g₃.blocks)
      (by rw [hA₃, e₃, e₂]; simp [Instr.defs])
    refine ⟨A₃, a₄, g₁.trans (g₂.trans (g₃.trans g₄)), hres ?_⟩
    intro x hx
    exact List.mem_append_left _ (by rw [State.moveTo_cursor, hA₃]; exact List.mem_append_right _ hx)

theorem resultVar_avail {ty : Tree.Ty} {r : Option Var} (ha : Avail names Δ A s)
    (h : resultVar ty ctx s = .ok (r, s')) : Avail names Δ A s' ∧ Grows names Δ s A s' A := by
  rcases resultVar_steps h with ⟨-, -, rfl⟩ | ⟨-, -, t, s₁, d, h₁, h₂, -⟩
  · exact ⟨ha, Grows.refl _ _ _⟩
  · obtain ⟨a₁, g₁⟩ := lowerType_avail ha h₁
    obtain ⟨a₂, g₂⟩ := freshVar_avail a₁ h₂
    exact ⟨a₂, g₁.trans g₂⟩

theorem coerceInteger_avail {value : Operand} {target : Tree.Ty} {v : Operand}
    (ha : Avail names Δ A s) (hv : Covered names s A value)
    (h : coerceInteger value target ctx s = .ok (v, s')) :
    ∃ A', Avail names Δ A' s' ∧ Grows names Δ s A s' A' ∧ Covered names s' A' v := by
  rcases coerceInteger_steps h with ⟨-, rfl, rfl⟩ |
    ⟨-, t, s₁, h₁, ⟨-, rfl, rfl⟩ | ⟨-, dst, s₂, h₂, h₃⟩⟩
  · exact ⟨A, ha, Grows.refl _ _ _, hv⟩
  · obtain ⟨a₁, g₁⟩ := lowerType_avail ha h₁
    exact ⟨A, a₁, g₁, hv.grow g₁⟩
  · obtain ⟨a₁, g₁⟩ := lowerType_avail ha h₁
    obtain ⟨a₂, g₂⟩ := freshVar_avail a₁ h₂
    obtain ⟨A₃, a₃, g₃, -, c₃, rfl⟩ := emit_plain_avail a₂ (by split <;> rfl)
      (by split <;> simpa [Instr.operands] using (hv.grow g₁).grow g₂) h₃
    exact ⟨A₃, a₃, g₁.trans (g₂.trans g₃), c₃⟩

theorem Covered.getD {args : List Operand} (h : ∀ o ∈ args, Covered names s A o) (k : Nat) :
    Covered names s A (args.getD k .unit) := by
  rw [List.getD_eq_getElem?_getD]
  cases hk : args[k]? with
  | none => exact Covered.of_vars_nil rfl
  | some o => exact h o (List.mem_of_getElem? hk)

theorem applyIntrinsic_avail {intr : Intrinsic} {name : String} {args : List Operand} {ty span}
    {v : Operand} (ha : Avail names Δ A s) (hargs : ∀ o ∈ args, Covered names s A o)
    (h : applyIntrinsic intr name args ty span ctx s = .ok (v, s')) :
    ∃ A', Avail names Δ A' s' ∧ Grows names Δ s A s' A' ∧ Covered names s' A' v := by
  have arg := Covered.getD hargs
  rcases applyIntrinsic_steps h with ⟨rfl, hv⟩ | ⟨t, dst, s₁, h₁, h₂⟩ |
    ⟨t, s₁, p, s₂, u, s₃, dst, s₄, h₁, h₂, h₃, h₄, h₅⟩ | ⟨p, s₁, u, s₂, u', h₁, h₂, h₃, rfl⟩ |
    ⟨t, s₁, h₁, ⟨-, rfl, rfl⟩ | ⟨dst, s₂, h₂, h₃⟩⟩
  · refine ⟨A, ha, Grows.refl _ _ _, ?_⟩
    rcases hv with rfl | rfl | rfl | rfl
    · exact Covered.of_vars_nil rfl
    · exact arg 0
    · exact Covered.of_vars_nil rfl
    · exact Covered.of_vars_nil rfl
  · obtain ⟨a₁, g₁⟩ := freshVar_avail ha h₁
    obtain ⟨A₂, a₂, g₂, -, c₂, rfl⟩ := emit_plain_avail a₁ (by split <;> rfl)
      (by split <;> exact Covered.pair ((arg 0).grow g₁) ((arg 1).grow g₁)) h₂
    exact ⟨A₂, a₂, g₁.trans g₂, c₂⟩
  · obtain ⟨a₁, g₁⟩ := lowerType_avail ha h₁
    obtain ⟨a₂, g₂⟩ := freshVar_avail a₁ h₂
    obtain ⟨A₃, a₃, g₃, -, c₃, -⟩ := emit_plain_avail a₂ rfl
      (by simpa [Instr.operands] using ((arg 1).grow g₁).grow g₂) h₃
    obtain ⟨a₄, g₄⟩ := freshVar_avail a₃ h₄
    obtain ⟨A₅, a₅, g₅, -, c₅, rfl⟩ := emit_plain_avail a₄ rfl
      (by simpa [Instr.operands, Instr.dst?] using c₃.grow g₄) h₅
    exact ⟨A₅, a₅, g₁.trans (g₂.trans (g₃.trans (g₄.trans g₅))), c₅⟩
  · obtain ⟨a₁, g₁⟩ := freshVar_avail ha h₁
    obtain ⟨A₂, a₂, g₂, -, c₂, -⟩ := emit_plain_avail a₁ rfl
      (by simpa [Instr.operands] using (arg 1).grow g₁) h₂
    obtain ⟨A₃, a₃, g₃, -, -⟩ := emit_plain_avail a₂ rfl
      (by exact Covered.pair (((arg 2).grow g₁).grow g₂) c₂) h₃
    exact ⟨A₃, a₃, g₁.trans (g₂.trans g₃), Covered.of_vars_nil rfl⟩
  · obtain ⟨a₁, g₁⟩ := lowerType_avail ha h₁
    exact ⟨A, a₁, g₁, (arg 0).grow g₁⟩
  · obtain ⟨a₁, g₁⟩ := lowerType_avail ha h₁
    obtain ⟨a₂, g₂⟩ := freshVar_avail a₁ h₂
    obtain ⟨A₃, a₃, g₃, -, c₃, rfl⟩ := emit_plain_avail a₂ rfl
      (by simpa [Instr.operands] using ((arg 0).grow g₁).grow g₂) h₃
    exact ⟨A₃, a₃, g₁.trans (g₂.trans g₃), c₃⟩

theorem fieldOffset_avail {field : Tree.FieldRef} {receiverTy : Tree.Ty} {span} {off : Nat}
    (ha : Avail names Δ A s) (h : fieldOffset field receiverTy span ctx s = .ok (off, s')) :
    Avail names Δ A s' ∧ Grows names Δ s A s' A := by
  obtain ⟨cls, k, -, hk, -⟩ := fieldOffset_steps h
  exact klassId_avail ha hk

theorem objectValue_avail {cls : Tree.DefId} {span} {v : Operand} (ha : Avail names Δ A s)
    (h : objectValue cls span ctx s = .ok (v, s')) :
    ∃ A', Avail names Δ A' s' ∧ Grows names Δ s A s' A' ∧ Covered names s' A' v := by
  rcases objectValue_steps h with ⟨rfl, rfl⟩ |
    ⟨k, s₁, inst, s₂, u₁, s₃, ok, s₄, u₂, s₅, cont, s₆, init, s₇, u₃, s₈, u₄, s₉,
      h₁, h₂, h₃, h₄, h₅, h₆, h₇, h₈, h₉, rfl, rfl⟩
  · exact ⟨A, ha, Grows.refl _ _ _, Covered.of_vars_nil rfl⟩
  obtain ⟨a₁, g₁⟩ := klassId_avail ha h₁
  obtain ⟨a₂, g₂⟩ := freshVar_avail a₁ h₂
  obtain ⟨A₃, a₃, g₃, e₃, -⟩ :=
    emit_plain_avail a₂ rfl (by exact Covered.single (Covered.of_vars_nil rfl)) h₃
  have i₃ : inst ∈ s₃.avail A₃ := by rw [e₃]; simp [Instr.dst?]
  obtain ⟨a₄, g₄⟩ := freshVar_avail a₃ h₄
  obtain ⟨A₅, a₅, g₅, e₅, -⟩ := emit_plain_avail a₄ rfl
    (by exact Covered.pair (Covered.var (g₄.avail i₃)) (Covered.of_vars_nil rfl)) h₅
  have i₅ : ok ∈ s₅.avail A₅ := by rw [e₅]; simp [Instr.dst?]
  -- both targets list what is available at the test
  obtain ⟨A₆, a₆, g₆, l₆, e₆⟩ := newBlock_avail a₅ (s₅.avail A₅) h₆
  obtain ⟨A₇, a₇, g₇, l₇, e₇⟩ := newBlock_avail a₆ (s₅.avail A₅) h₇
  have e₇' : s₇.avail A₇ = s₅.avail A₅ := by rw [e₇, e₆]
  have le₇ : s₇.avail A₇ ⊆ s₅.avail A₅ := fun _ hx => e₇' ▸ hx
  have ge₇ : s₅.avail A₅ ⊆ s₇.avail A₇ := fun _ hx => e₇' ▸ hx
  obtain ⟨A₈, a₈, g₈, -, -, -⟩ := emit_avail a₇
    (by exact Covered.single (Covered.var (by rw [e₇']; exact i₅)))
    (Edges.condBr (g₇.listed l₆) l₇ ge₇ ge₇) h₈
  have k₈ := emit_keeps h₈
  obtain ⟨b₈, gb₈⟩ := a₇.enterListed a₈.toCertified g₈ k₈.loops k₈.landing (g₈.listed l₇) le₇
  obtain ⟨w₈, gw₈⟩ := b₈.warn .singletonInit
    ("initialization of singleton `" ++ ctx.className cls ++ "` is not generated") span
  have g₇₈ := gb₈.trans gw₈
  obtain ⟨A₉, a₉, g₉, -, -, -⟩ := emit_avail w₈ (by simp [Instr.operands])
    (Edges.br (g₇₈.listed (g₇.listed l₆)) (List.Subset.trans ge₇ g₇₈.avail)) h₉
  have k₉ := emit_keeps h₉
  obtain ⟨c₉, gc₉⟩ := a₇.enterListed a₉.toCertified (g₇₈.trans g₉) (k₉.loops.trans k₈.loops)
    (k₉.landing.trans k₈.landing) (g₉.listed (g₇₈.listed (g₇.listed l₆))) le₇
  refine ⟨A₉, c₉, g₁.trans (g₂.trans (g₃.trans (g₄.trans (g₅.trans (g₆.trans (g₇.trans gc₉)))))),
    Covered.var ?_⟩
  exact State.subset_avail_moveTo _ _ _ (by
    rw [(g₉.listed (g₇₈.listed (g₇.listed l₆))).2]; exact g₅.avail (g₄.avail i₃))

end Primitives

end Isel.Lower
