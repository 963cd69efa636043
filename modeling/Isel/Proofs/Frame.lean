import Isel.Proofs.Steps

/-!
# What lowering an expression leaves alone

Lowering an expression emits into the function at the cursor and may move the cursor between
that function's blocks, but it never leaves the function, and the loops it enters, the landing
block it sets and the bindings of the function being lowered are undone before it returns.
`Keeps` names these facts; every primitive keeps them, and so, by induction over the tree, does
every lowering.
-/

namespace Isel.Graph

def BlocksGrow (bs bs' : List Block) : Prop :=
  bs.length ≤ bs'.length ∧
    ∀ (l : Nat) (b : Block), bs[l]? = some b → ∃ b' : Block, bs'[l]? = some b' ∧ b.instrs <+: b'.instrs

namespace BlocksGrow

@[refl] theorem refl (bs : List Block) : BlocksGrow bs bs :=
  ⟨Nat.le_refl _, fun _ b h => ⟨b, h, List.prefix_refl _⟩⟩

theorem trans {bs₁ bs₂ bs₃ : List Block} (h₁ : BlocksGrow bs₁ bs₂) (h₂ : BlocksGrow bs₂ bs₃) :
    BlocksGrow bs₁ bs₃ := by
  refine ⟨Nat.le_trans h₁.1 h₂.1, fun l b h => ?_⟩
  obtain ⟨b₂, hb₂, p₂⟩ := h₁.2 l b h
  obtain ⟨b₃, hb₃, p₃⟩ := h₂.2 l b₂ hb₂
  exact ⟨b₃, hb₃, p₂.trans p₃⟩

theorem append (bs : List Block) (b : Block) : BlocksGrow bs (bs ++ [b]) := by
  refine ⟨by simp, fun l b' h => ⟨b', ?_, List.prefix_refl _⟩⟩
  rw [List.getElem?_append_left (List.getElem?_eq_some_iff.1 h).1, h]

theorem push (bs : List Block) (k : Nat) (i : Instr) :
    BlocksGrow bs (bs.modify k fun b => { b with instrs := b.instrs ++ [i] }) := by
  refine ⟨by simp, fun l b h => ?_⟩
  rw [List.getElem?_modify, h]
  by_cases hk : k = l
  · exact ⟨{ b with instrs := b.instrs ++ [i] }, by simp [hk], List.prefix_append _ _⟩
  · exact ⟨b, by simp [hk], List.prefix_refl _⟩

end BlocksGrow

def instrCount (bs : List Block) (l : Nat) : Nat := ((bs[l]?).map (·.instrs.length)).getD 0

theorem instrCount_of_getElem? {bs : List Block} {l : Nat} {b : Block} (h : bs[l]? = some b) :
    instrCount bs l = b.instrs.length := by
  simp [instrCount, h]

/-- Every instruction that the blocks `bs'` have beyond `bs` was appended to a block that had not
ended: the instructions before it do not end in a terminator. -/
def AppendsOpen (bs bs' : List Block) : Prop :=
  ∀ (l : Nat) (b' : Block), bs'[l]? = some b' → ∀ k, instrCount bs l ≤ k → k < b'.instrs.length →
    ({ b' with instrs := b'.instrs.take k } : Block).isTerminal = false

namespace AppendsOpen

variable {bs₁ bs₂ bs₃ : List Block}

theorem refl (bs : List Block) : AppendsOpen bs bs := fun l b h k hk hlt => by
  rw [instrCount_of_getElem? h] at hk
  omega

theorem trans (g₂ : BlocksGrow bs₂ bs₃) (h₁ : AppendsOpen bs₁ bs₂) (h₂ : AppendsOpen bs₂ bs₃) :
    AppendsOpen bs₁ bs₃ := by
  intro l b₃ hb₃ k hk hlt
  cases hb₂ : bs₂[l]? with
  | none => exact h₂ l b₃ hb₃ k (by simp [instrCount, hb₂]) hlt
  | some b₂ =>
    by_cases hk₂ : k < b₂.instrs.length
    · obtain ⟨b₃', hb₃', hp⟩ := g₂.2 l b₂ hb₂
      rw [hb₃, Option.some_inj] at hb₃'
      subst hb₃'
      obtain ⟨r, hr⟩ := hp
      have := h₁ l b₂ hb₂ k hk hk₂
      rwa [← hr, List.take_append_of_le_length (Nat.le_of_lt hk₂)]
    · exact h₂ l b₃ hb₃ k (by rw [instrCount_of_getElem? hb₂]; omega) hlt

theorem append (bs : List Block) (l : String) : AppendsOpen bs (bs ++ [⟨l, []⟩]) := by
  intro k b' h j hj hlt
  by_cases hk : k < bs.length
  · rw [List.getElem?_append_left hk] at h
    rw [instrCount_of_getElem? h] at hj
    omega
  · -- the appended block is empty
    rw [List.getElem?_append_right (by omega)] at h
    obtain rfl : b' = ⟨l, []⟩ := List.mem_singleton.1 (List.mem_of_getElem? h)
    simp at hlt

theorem push (bs : List Block) (k : Nat) (i : Instr) (ho : ∀ b, bs[k]? = some b → b.isTerminal = false) :
    AppendsOpen bs (bs.modify k fun b => { b with instrs := b.instrs ++ [i] }) := by
  intro l b' h j hj hlt
  rw [List.getElem?_modify] at h
  cases hb : bs[l]? with
  | none => simp [hb] at h
  | some b =>
    rw [hb] at h
    rw [instrCount_of_getElem? hb] at hj
    by_cases hkl : k = l
    · -- the block written to: the one new instruction follows the old ones, which do not end it
      subst hkl
      obtain rfl : { b with instrs := b.instrs ++ [i] } = b' := by simpa using h
      simp only [List.length_append, List.length_singleton] at hlt
      obtain rfl : j = b.instrs.length := by omega
      simpa using ho b hb
    · obtain rfl : b = b' := by simpa [hkl] using h
      omega

end AppendsOpen

def Added (bs bs' : List Block) (l : Nat) (i : Instr) : Prop :=
  ∃ b', bs'[l]? = some b' ∧ i ∈ b'.instrs.drop (instrCount bs l)

namespace Added

variable {bs bs' bs₁ bs₂ bs₃ : List Block} {l : Nat} {i : Instr}

theorem not_of_getElem?_eq (h : bs'[l]? = bs[l]?) : ¬ Added bs bs' l i := by
  rintro ⟨b, hb, hi⟩
  rw [h] at hb
  rw [instrCount_of_getElem? hb, List.drop_length] at hi
  cases hi

theorem not_refl : ¬ Added bs bs l i := not_of_getElem?_eq rfl

theorem split (g₂ : BlocksGrow bs₂ bs₃) (h : Added bs₁ bs₃ l i) :
    Added bs₁ bs₂ l i ∨ Added bs₂ bs₃ l i := by
  obtain ⟨b₃, hb₃, hi⟩ := h
  cases hb₂ : bs₂[l]? with
  | none => exact .inr ⟨b₃, hb₃, by simpa [instrCount, hb₂] using List.mem_of_mem_drop hi⟩
  | some b₂ =>
    obtain ⟨b₃', hb₃', r, hr⟩ := g₂.2 l b₂ hb₂
    rw [hb₃, Option.some_inj] at hb₃'
    subst hb₃'
    have hr' : b₃.instrs.drop (instrCount bs₂ l) = r := by
      rw [instrCount_of_getElem? hb₂, ← hr, List.drop_left]
    rw [← hr, List.drop_append] at hi
    rcases List.mem_append.1 hi with hi | hi
    · exact .inl ⟨b₂, hb₂, hi⟩
    · exact .inr ⟨b₃, hb₃, hr' ▸ List.mem_of_mem_drop hi⟩

theorem not_append {lab : String} : ¬ Added bs (bs ++ [⟨lab, []⟩]) l i := by
  rintro ⟨b, hb, hi⟩
  by_cases hl : l < bs.length
  · exact not_of_getElem?_eq (List.getElem?_append_left hl) ⟨b, hb, hi⟩
  · rw [List.getElem?_append_right (by omega)] at hb
    obtain rfl : b = ⟨lab, []⟩ := List.mem_singleton.1 (List.mem_of_getElem? hb)
    simp at hi

theorem eq_of_push {k : Nat} {i' : Instr}
    (h : Added bs (bs.modify k fun b => { b with instrs := b.instrs ++ [i] }) l i') : i' = i := by
  obtain ⟨b', hb', hi⟩ := h
  rw [List.getElem?_modify] at hb'
  cases hb : bs[l]? with
  | none => simp [hb] at hb'
  | some b =>
    rw [hb] at hb'
    rw [instrCount_of_getElem? hb] at hi
    by_cases hkl : k = l
    · obtain rfl : { b with instrs := b.instrs ++ [i] } = b' := by simpa [hkl] using hb'
      simpa using hi
    · obtain rfl : b = b' := by simpa [hkl] using hb'
      simp at hi

end Added

theorem BlocksGrow.keep_terminal {bs bs' : List Block} (g : BlocksGrow bs bs')
    (h : AppendsOpen bs bs') {l : Nat} {b : Block} (hb : bs[l]? = some b)
    (ht : b.isTerminal = true) : ∃ b', bs'[l]? = some b' ∧ b'.instrs = b.instrs := by
  obtain ⟨b', hb', r, hr⟩ := g.2 l b hb
  refine ⟨b', hb', ?_⟩
  cases r with
  | nil => simpa using hr.symm
  | cons x r =>
    -- the instruction after the terminator would have been appended to an ended block
    have hopen := h l b' hb' b.instrs.length (Nat.le_of_eq (instrCount_of_getElem? hb))
      (by rw [← hr]; simp)
    rw [← hr, List.take_left] at hopen
    have hsame : ({ b' with instrs := b.instrs } : Block).isTerminal = b.isTerminal := rfl
    rw [hsame, ht] at hopen
    cases hopen

end Isel.Graph

namespace Isel.Lower

open Isel.Graph (Operand Instr Var BlocksGrow AppendsOpen)
open Isel.Tree (Expr ExprKind Arm Catch VarargElem)

/-- What a lowering leaves as it was: the function at the cursor, the enclosing loops, the
landing block, the function being lowered, where the global initializer goes on, which
function is the global initializer, every other function there was, and the blocks of every
other function; the blocks of the cursor's function only grow, each instruction going into a
block that has not ended, and so does the number of functions; no function changes its name or
its parameters. Classes are only appended, the function table only learns positions of
functions appended, and bindings of locals are only added in front of those there were. -/
structure Keeps (s s' : State) : Prop where
  fn : s'.cursor.fn = s.cursor.fn
  loops : s'.loops = s.loops
  landing : s'.landing = s.landing
  current : s'.current = s.current
  globalCursor : s'.globalCursor = s.globalCursor
  globalInit : s'.program.globalInit = s.program.globalInit
  blocks : BlocksGrow s.curFn.blocks s'.curFn.blocks
  others : ∀ j, j ≠ s.cursor.fn → (s'.fn j).blocks = (s.fn j).blocks
  fnCount : s.program.functions.length ≤ s'.program.functions.length
  params : ∀ j, j < s.program.functions.length → (s'.fn j).params = (s.fn j).params
  name : ∀ j, j < s.program.functions.length → (s'.fn j).name = (s.fn j).name
  frame : ∀ j, j ≠ s.cursor.fn → j < s.program.functions.length → s'.fn j = s.fn j
  klasses : s.program.klasses <+: s'.program.klasses
  table : ∀ e ∈ s'.functions, e ∈ s.functions ∨ s.program.functions.length ≤ e.2
  env : s.env <:+ s'.env
  opened : AppendsOpen s.curFn.blocks s'.curFn.blocks

theorem State.reopen_open (s : State) : s.reopen.curBlock.isTerminal = false := by
  unfold State.reopen
  split
  · -- the fresh block, or the default one if the cursor names no function: both are empty
    have hnil : ((s.addBlock "unreachable").moveTo s.curFn.blocks.length).curBlock.instrs = [] := by
      show (((s.mapFn s.cursor.fn (·.addBlock "unreachable")).fn s.cursor.fn).blocks.getD
        s.curFn.blocks.length default).instrs = []
      rw [State.fn_mapFn]
      split
      · simp [State.curFn, List.getD_eq_getElem?_getD]
      · rw [List.getD_eq_getElem?_getD, List.getElem?_eq_none
          (show (s.fn s.cursor.fn).blocks.length ≤ s.curFn.blocks.length from Nat.le_refl _)]
        rfl
    simp [Graph.Block.isTerminal, hnil]
  · rename_i ho
    simpa using ho

namespace Keeps

variable {s s₁ s₂ s₃ t : State}

@[refl] theorem refl (s : State) : Keeps s s :=
  ⟨rfl, rfl, rfl, rfl, rfl, rfl, BlocksGrow.refl _, fun _ _ => rfl, Nat.le_refl _, fun _ _ => rfl,
    fun _ _ => rfl, fun _ _ _ => rfl, List.prefix_refl _, fun _ he => .inl he, List.suffix_refl _,
    AppendsOpen.refl _⟩

theorem trans (h₁ : Keeps s₁ s₂) (h₂ : Keeps s₂ s₃) : Keeps s₁ s₃ where
  fn := h₂.fn.trans h₁.fn
  loops := h₂.loops.trans h₁.loops
  landing := h₂.landing.trans h₁.landing
  current := h₂.current.trans h₁.current
  globalCursor := h₂.globalCursor.trans h₁.globalCursor
  globalInit := h₂.globalInit.trans h₁.globalInit
  blocks := h₁.blocks.trans h₂.blocks
  others j hj := (h₂.others j (h₁.fn ▸ hj)).trans (h₁.others j hj)
  fnCount := Nat.le_trans h₁.fnCount h₂.fnCount
  params j hj := (h₂.params j (Nat.lt_of_lt_of_le hj h₁.fnCount)).trans (h₁.params j hj)
  name j hj := (h₂.name j (Nat.lt_of_lt_of_le hj h₁.fnCount)).trans (h₁.name j hj)
  frame j hj hl :=
    (h₂.frame j (h₁.fn ▸ hj) (Nat.lt_of_lt_of_le hl h₁.fnCount)).trans (h₁.frame j hj hl)
  klasses := h₁.klasses.trans h₂.klasses
  table e he := (h₂.table e he).elim (h₁.table e) fun hl => .inr (Nat.le_trans h₁.fnCount hl)
  env := h₁.env.trans h₂.env
  opened := AppendsOpen.trans h₂.blocks h₁.opened h₂.opened

theorem grows (h : Keeps s t) (j : Nat) : BlocksGrow (s.fn j).blocks (t.fn j).blocks := by
  by_cases hj : j = s.cursor.fn
  · subst hj
    have := h.blocks
    rwa [State.curFn, State.curFn, h.fn] at this
  · rw [h.others j hj]

theorem mapFn {g : Graph.Function → Graph.Function}
    (hg : ∀ f, BlocksGrow f.blocks (g f).blocks) (ho : AppendsOpen s.curFn.blocks (g s.curFn).blocks)
    (hp : ∀ f, (g f).params = f.params) (hn : ∀ f, (g f).name = f.name) :
    Keeps s (s.mapFn s.cursor.fn g) := by
  refine ⟨rfl, rfl, rfl, rfl, rfl, rfl, ?_, fun j hj => by rw [State.fn_mapFn_of_ne _ _ (Ne.symm hj)],
    Nat.le_of_eq (State.length_mapFn _ _ _).symm, fun j _ => ?_, fun j _ => ?_,
    fun j hj _ => State.fn_mapFn_of_ne _ _ (Ne.symm hj), List.prefix_refl _, fun _ he => .inl he,
    List.suffix_refl _, ?_⟩
  · simp only [State.curFn, State.mapFn_cursor, State.fn_mapFn]
    split
    · exact hg _
    · exact BlocksGrow.refl _
  · rw [State.fn_mapFn]
    split
    · exact hp _
    · rfl
  · rw [State.fn_mapFn]
    split
    · exact hn _
    · rfl
  · simp only [State.curFn, State.mapFn_cursor, State.fn_mapFn]
    split
    · exact ho
    · exact AppendsOpen.refl _

theorem moveTo (h : Keeps s t) (b : Nat) : Keeps s (t.moveTo b) := { h with }

theorem warn (h : Keeps s t) (code : Code) (message : String) (span : Span) :
    Keeps s (t.warn code message span) := { h with }

theorem bind (h : Keeps s t) (xs : List (Tree.LocalId × Operand)) :
    Keeps s { t with env := xs ++ t.env } :=
  { h with env := h.env.trans (List.suffix_append xs t.env) }

theorem addBlock (s : State) (l : String) : Keeps s (s.addBlock l) :=
  mapFn (fun f => BlocksGrow.append f.blocks _) (AppendsOpen.append _ _) (fun _ => rfl) fun _ => rfl

theorem push (s : State) (i : Instr) (ho : s.curBlock.isTerminal = false) : Keeps s (s.push i) := by
  refine mapFn (fun f => BlocksGrow.push f.blocks s.cursor.block i)
    (AppendsOpen.push _ _ _ fun b hb => ?_) (fun _ => rfl) fun _ => rfl
  rwa [State.curBlock, List.getD_eq_getElem?_getD, hb, Option.getD_some] at ho

theorem bump (s : State) : Keeps s (s.mapFn s.cursor.fn Graph.Function.bump) :=
  mapFn (fun _ => BlocksGrow.refl _) (AppendsOpen.refl _) (fun _ => rfl) fun _ => rfl

theorem reopen (s : State) : Keeps s s.reopen := by
  unfold State.reopen
  split
  · exact (addBlock s _).moveTo _
  · exact refl s

theorem withLoop {fr : LoopFrame} {b b' : Nat}
    (h : Keeps ({ s with loops := fr :: s.loops }.moveTo b) t) :
    Keeps s ({ t with loops := t.loops.tail }.moveTo b') :=
  { h with loops := by simp [State.moveTo, h.loops] }

theorem withLanding {l l' : Option Nat} (h : Keeps { s with landing := l } t)
    (hl : s.landing = l') : Keeps s { t with landing := l' } :=
  { h with landing := hl.symm }

theorem restore (h : Keeps s t) {c : Cursor} (hc : c.fn = s.cursor.fn) :
    Keeps s { t with cursor := c } := by
  refine { h with fn := hc, blocks := ?_, opened := ?_ }
  · show BlocksGrow s.curFn.blocks (t.fn c.fn).blocks
    rw [hc, ← h.fn]
    exact h.blocks
  · show AppendsOpen s.curFn.blocks (t.fn c.fn).blocks
    rw [hc, ← h.fn]
    exact h.opened

theorem of_registers (h : Registers s t) : Keeps s t := by
  obtain ⟨fs, ks, tf, tk, hfs, htf, rfl⟩ := h
  refine ⟨rfl, rfl, rfl, rfl, rfl, rfl, ?_, fun j _ => State.blocks_fn_extend hfs j,
    by simp [State.extend], fun j hj => by rw [State.fn_extend_of_lt hj],
    fun j hj => by rw [State.fn_extend_of_lt hj], fun j _ hj => State.fn_extend_of_lt hj,
    List.prefix_append _ _, fun e he => ?_, List.suffix_refl _, ?_⟩
  · simp only [State.curFn]
    rw [State.blocks_fn_extend hfs]
    exact BlocksGrow.refl _
  · rcases List.mem_append.1 he with he | he
    · exact .inr (htf e he).1
    · exact .inl he
  · simp only [State.curFn]
    rw [State.blocks_fn_extend hfs]
    exact AppendsOpen.refl _

end Keeps

/-! ## The primitives -/

section Primitives

variable {ctx : Context} {s s' : State}

theorem newBlock_keeps {l : String} {b : Nat} (h : newBlock l ctx s = .ok (b, s')) :
    Keeps s s' := by
  obtain ⟨-, rfl, rfl⟩ := newBlock_ok h
  exact Keeps.addBlock s l

theorem freshVar_keeps {ty : Graph.Ty} {x : Var} (h : freshVar ty ctx s = .ok (x, s')) :
    Keeps s s' := by
  obtain ⟨-, rfl, rfl⟩ := freshVar_ok h
  exact Keeps.bump s

theorem emit_keeps {i : Instr} {u : Operand} (h : emit i ctx s = .ok (u, s')) : Keeps s s' := by
  obtain ⟨-, -, rfl⟩ := emit_ok h
  exact (Keeps.reopen s).trans (Keeps.push _ i (State.reopen_open s))

theorem jumpIfOpen_keeps {b : Nat} (h : jumpIfOpen b ctx s = .ok ((), s')) : Keeps s s' := by
  obtain ⟨-, rfl⟩ := jumpIfOpen_ok h
  split
  · exact Keeps.refl _
  · rename_i ho
    exact Keeps.push s _ (by simpa using ho)

theorem lowerType_keeps {t : Tree.Ty} {t' : Graph.Ty} (h : lowerType t ctx s = .ok (t', s')) :
    Keeps s s' :=
  Keeps.of_registers (lowerType_registers h)

theorem klassId_keeps {cls : Tree.DefId} {k : Nat} (h : klassId cls ctx s = .ok (k, s')) :
    Keeps s s' :=
  Keeps.of_registers (klassId_registers h).1

theorem calleeFor_keeps {callee : Tree.Callee} {args : List Operand} {ret : Graph.Ty} {fn : Nat}
    (h : calleeFor callee args ret ctx s = .ok (fn, s')) : Keeps s s' :=
  Keeps.of_registers (calleeFor_registers h).1

theorem finishArm_keeps {a : Operand} {result : Option Var} {exit : Nat}
    (h : finishArm a result exit ctx s = .ok ((), s')) : Keeps s s' := by
  rcases finishArm_steps h with ⟨-, rfl⟩ | ⟨-, s₁, u, h₁, h₂⟩
  · exact Keeps.refl _
  · rcases h₁ with ⟨-, rfl⟩ | ⟨r, u₀, -, h₁⟩
    · exact emit_keeps h₂
    · exact (emit_keeps h₁).trans (emit_keeps h₂)

theorem generateCall_keeps {callee : Nat} {ret : Graph.Ty} {args : List Operand} {v : Operand}
    (h : generateCall callee ret args ctx s = .ok (v, s')) : Keeps s s' := by
  obtain ⟨dst, s₁, hd, -, hc⟩ := generateCall_steps h
  have k₁ : Keeps s s₁ := by
    rcases hd with ⟨-, -, rfl⟩ | ⟨-, d, hf, -⟩
    · exact Keeps.refl _
    · exact freshVar_keeps hf
  rcases hc with ⟨-, u, he⟩ | ⟨l, normal, s₂, u, s₃, -, hn, he, rfl⟩
  · exact k₁.trans (emit_keeps he)
  · exact (k₁.trans ((newBlock_keeps hn).trans (emit_keeps he))).moveTo normal

theorem resultVar_keeps {ty : Tree.Ty} {r : Option Var} (h : resultVar ty ctx s = .ok (r, s')) :
    Keeps s s' := by
  rcases resultVar_steps h with ⟨-, -, rfl⟩ | ⟨-, -, t, s₁, d, h₁, h₂, -⟩
  · exact Keeps.refl _
  · exact (lowerType_keeps h₁).trans (freshVar_keeps h₂)

theorem coerceInteger_keeps {value : Operand} {target : Tree.Ty} {v : Operand}
    (h : coerceInteger value target ctx s = .ok (v, s')) : Keeps s s' := by
  rcases coerceInteger_steps h with ⟨-, -, rfl⟩ | ⟨-, t, s₁, h₁, ⟨-, -, rfl⟩ | ⟨-, dst, s₂, h₂, h₃⟩⟩
  · exact Keeps.refl _
  · exact lowerType_keeps h₁
  · exact (lowerType_keeps h₁).trans ((freshVar_keeps h₂).trans (emit_keeps h₃))

theorem applyIntrinsic_keeps {intr : Intrinsic} {name : String} {args : List Operand} {ty span}
    {v : Operand} (h : applyIntrinsic intr name args ty span ctx s = .ok (v, s')) :
    Keeps s s' := by
  rcases applyIntrinsic_steps h with ⟨rfl, -⟩ | ⟨t, dst, s₁, h₁, h₂⟩ |
    ⟨t, s₁, p, s₂, u, s₃, dst, s₄, h₁, h₂, h₃, h₄, h₅⟩ | ⟨p, s₁, u, s₂, u', h₁, h₂, h₃, -⟩ |
    ⟨t, s₁, h₁, ⟨-, -, rfl⟩ | ⟨dst, s₂, h₂, h₃⟩⟩
  · exact Keeps.refl _
  · exact (freshVar_keeps h₁).trans (emit_keeps h₂)
  · exact (lowerType_keeps h₁).trans ((freshVar_keeps h₂).trans ((emit_keeps h₃).trans
      ((freshVar_keeps h₄).trans (emit_keeps h₅))))
  · exact (freshVar_keeps h₁).trans ((emit_keeps h₂).trans (emit_keeps h₃))
  · exact lowerType_keeps h₁
  · exact (lowerType_keeps h₁).trans ((freshVar_keeps h₂).trans (emit_keeps h₃))

theorem fieldOffset_keeps {field : Tree.FieldRef} {receiverTy : Tree.Ty} {span} {off : Nat}
    (h : fieldOffset field receiverTy span ctx s = .ok (off, s')) : Keeps s s' := by
  obtain ⟨cls, k, -, hk, -⟩ := fieldOffset_steps h
  exact klassId_keeps hk

theorem objectValue_keeps {cls : Tree.DefId} {span} {v : Operand}
    (h : objectValue cls span ctx s = .ok (v, s')) : Keeps s s' := by
  rcases objectValue_steps h with ⟨-, rfl⟩ |
    ⟨k, s₁, inst, s₂, u₁, s₃, ok, s₄, u₂, s₅, cont, s₆, init, s₇, u₃, s₈, u₄, s₉,
      h₁, h₂, h₃, h₄, h₅, h₆, h₇, h₈, h₉, rfl, -⟩
  · exact Keeps.refl _
  · have k₈ : Keeps s s₈ := (klassId_keeps h₁).trans ((freshVar_keeps h₂).trans
      ((emit_keeps h₃).trans ((freshVar_keeps h₄).trans ((emit_keeps h₅).trans
      ((newBlock_keeps h₆).trans ((newBlock_keeps h₇).trans (emit_keeps h₈)))))))
    have k₉ : Keeps ((s₈.moveTo init).warn _ _ _) s₉ := emit_keeps h₉
    exact ((k₈.moveTo init).warn _ _ _).trans k₉ |>.moveTo cont

end Primitives

/-! ## Every lowering -/

section Lowering

variable {ctx : Context}

mutual

theorem lowerExpr_keeps : ∀ (e : Expr) {s s' : State} {v : Operand},
    lowerExpr e ctx s = .ok (v, s') → Keeps s s'
  | .node k ty span, _, _, _, h => lowerKind_keeps k ty span (by rwa [lowerExpr_node] at h)

theorem lowerKind_keeps : ∀ (k : ExprKind) (ty : Tree.Ty) (span : Span) {s s' : State}
    {v : Operand}, lowerKind k ty span ctx s = .ok (v, s') → Keeps s s'
  | .literal l, ty, span, s, s', v, h => by
    obtain ⟨-, rfl⟩ := literal_steps h
    exact Keeps.refl _
  | .typeOp op arg operand, ty, span, s, s', v, h => by
    cases op with
    | cast | safeCast =>
      obtain ⟨a, s₁, t, s₂, dst, s₃, h₁, h₂, h₃, h₄⟩ := cast_steps (by simp) h
      exact (lowerExpr_keeps arg h₁).trans ((lowerType_keeps h₂).trans
        ((freshVar_keeps h₃).trans (emit_keeps h₄)))
    | implicitCast => exact lowerExpr_keeps arg (implicitCast_steps h)
    | implicitNotNull =>
      obtain ⟨a, s₁, h₁, rfl, -⟩ := implicitNotNull_steps h
      exact (lowerExpr_keeps arg h₁).warn _ _ _
    | coercionToUnit =>
      obtain ⟨a, h₁, -⟩ := coercionToUnit_steps h
      exact lowerExpr_keeps arg h₁
    | integerCoercion =>
      obtain ⟨a, s₁, -, h₁, h₂⟩ := integerCoercion_steps h
      exact (lowerExpr_keeps arg h₁).trans (coerceInteger_keeps h₂)
    | instanceOf | notInstanceOf =>
      obtain ⟨a, s₁, t, s₂, dst, s₃, h₁, h₂, h₃, h₄⟩ := typeTest_steps (by simp) h
      exact (lowerExpr_keeps arg h₁).trans ((lowerType_keeps h₂).trans
        ((freshVar_keeps h₃).trans (emit_keeps h₄)))
  | .call callee dispatch extension args, ty, span, s, s', v, h => by
    -- Every shape lowers the receivers and the arguments in the same order.
    have ops : ∀ {s₀ d s₁ e s₂ a s₃}, lowerOpt dispatch ctx s₀ = .ok (d, s₁) →
        lowerOpt extension ctx s₁ = .ok (e, s₂) → lowerList args ctx s₂ = .ok (a, s₃) →
        Keeps s₀ s₃ := fun h₁ h₂ h₃ =>
      (lowerOpt_keeps dispatch h₁).trans ((lowerOpt_keeps extension h₂).trans
        (lowerList_keeps args h₃))
    cases hs : CallShape.of callee dispatch extension args with
    | intrinsic =>
      obtain ⟨intr, d, s₁, e, s₂, a, s₃, -, h₁, h₂, h₃, h₄⟩ := intrinsicCall_steps hs h
      exact (ops h₁ h₂ h₃).trans (applyIntrinsic_keeps h₄)
    | arithmetic op =>
      obtain ⟨d, s₁, e, s₂, a, s₃, t, s₄, dst, s₅, h₁, h₂, h₃, h₄, h₅, h₆⟩ :=
        arithmeticCall_steps hs h
      exact (ops h₁ h₂ h₃).trans ((lowerType_keeps h₄).trans
        ((freshVar_keeps h₅).trans (emit_keeps h₆)))
    | construct cls =>
      obtain ⟨k, s₁, obj, s₂, u, s₃, d, s₄, e, s₅, a, s₆, fn, s₇, r,
        h₁, h₂, h₃, h₄, h₅, h₆, h₇, h₈, -⟩ := constructCall_steps hs h
      exact (klassId_keeps h₁).trans ((freshVar_keeps h₂).trans ((emit_keeps h₃).trans
        ((ops h₄ h₅ h₆).trans ((calleeFor_keeps h₇).trans (generateCall_keeps h₈)))))
    | plain =>
      obtain ⟨d, s₁, e, s₂, a, s₃, ret, s₄, fn, s₅, h₁, h₂, h₃, h₄, h₅, h₆⟩ :=
        plainCall_steps hs h
      exact (ops h₁ h₂ h₃).trans ((lowerType_keeps h₄).trans
        ((calleeFor_keeps h₅).trans (generateCall_keeps h₆)))
  | .delegatingCall callee args, ty, span, s, s', v, h => by
    obtain ⟨receiver, a, s₁, fn, s₂, -, h₁, h₂, h₃⟩ := delegatingCall_steps h
    exact (lowerList_keeps args h₁).trans ((calleeFor_keeps h₂).trans (generateCall_keeps h₃))
  | .instanceInit cls, ty, span, s, s', v, h => by
    obtain ⟨-, rfl⟩ := instanceInit_steps h
    exact Keeps.refl _
  | .block stmts, ty, span, s, s', v, h => lowerBlock_keeps stmts (block_steps h)
  | .whileLoop loop cond body, ty, span, s, s', v, h => by
    obtain ⟨check, s₁, bodyB, s₂, exit, s₃, u₁, s₄, c, s₅, u₂, s₆, b, s₇, s₈,
      h₁, h₂, h₃, h₄, h₅, h₆, h₇, h₈, rfl, -⟩ := whileLoop_steps h
    have k₆ : Keeps s s₆ := (newBlock_keeps h₁).trans ((newBlock_keeps h₂).trans
      ((newBlock_keeps h₃).trans ((emit_keeps h₄).moveTo check |>.trans
      ((lowerExpr_keeps cond h₅).trans (emit_keeps h₆)))))
    exact k₆.trans (Keeps.withLoop ((lowerOpt_keeps body h₇).trans (jumpIfOpen_keeps h₈)))
  | .doWhile loop cond body, ty, span, s, s', v, h => by
    obtain ⟨check, s₁, bodyB, s₂, exit, s₃, u₁, s₄, b, s₅, s₆, c, s₇, u₂, s₈,
      h₁, h₂, h₃, h₄, h₅, h₆, h₇, h₈, rfl, -⟩ := doWhile_steps h
    have k₄ : Keeps s s₄ := (newBlock_keeps h₁).trans ((newBlock_keeps h₂).trans
      ((newBlock_keeps h₃).trans (emit_keeps h₄)))
    exact k₄.trans (Keeps.withLoop ((lowerOpt_keeps body h₅).trans ((jumpIfOpen_keeps h₆).moveTo
      check |>.trans ((lowerExpr_keeps cond h₇).trans (emit_keeps h₈)))))
  | .breakLoop loop, ty, span, s, s', v, h => by
    obtain ⟨fr, u, -, h₂, -⟩ := breakLoop_steps h
    exact emit_keeps h₂
  | .continueLoop loop, ty, span, s, s', v, h => by
    obtain ⟨fr, u, -, h₂, -⟩ := continueLoop_steps h
    exact emit_keeps h₂
  | .ret target value, ty, span, s, s', v, h => by
    obtain ⟨a, s₁, u, h₁, h₂, -⟩ := ret_steps h
    exact (lowerExpr_keeps value h₁).trans (emit_keeps h₂)
  | .whenArms arms, ty, span, s, s', v, h => by
    obtain ⟨result, s₁, exit, s₂, s₃, s₄, h₁, h₂, h₃, h₄, h₅, rfl, -⟩ := whenArms_steps h
    have k₄ : Keeps s₃ s₄ := by
      by_cases hb : s₃.cursor.block = exit
      · rw [h₅ hb]
      · exact jumpIfOpen_keeps (h₄ hb)
    exact ((resultVar_keeps h₁).trans ((newBlock_keeps h₂).trans
      ((lowerArms_keeps arms h₃).trans k₄))).moveTo exit
  | .declare var name varTy init, ty, span, s, s', v, h => by
    obtain ⟨o, s₁, h₁, rfl, -⟩ := declare_steps h
    exact (lowerOpt_keeps init h₁).bind [_]
  | .assign var name value, ty, span, s, s', v, h => by
    obtain ⟨a, s₁, u, s₂, h₁, h₂, rfl, -⟩ := assign_steps h
    exact ((lowerExpr_keeps value h₁).trans (emit_keeps h₂)).bind [_]
  | .read var name, ty, span, s, s', v, h => by
    rcases read_steps h with ⟨-, rfl⟩ | ⟨-, -, rfl⟩
    · exact Keeps.refl _
    · exact (Keeps.refl _).warn _ _ _
  | .vararg elems, ty, span, s, s', v, h => by
    obtain ⟨vs, s₁, t, h₁, h₂, -⟩ := vararg_steps h
    exact (lowerVararg_keeps elems h₁).trans (lowerType_keeps h₂)
  | .throw value, ty, span, s, s', v, h => by
    obtain ⟨a, s₁, h₁, rfl, -⟩ := throw_steps h
    exact (lowerExpr_keeps value h₁).warn _ _ _
  | .tryCatch body catches, ty, span, s, s', v, h => by
    obtain ⟨result, s₁, exit, s₂, s₃, b, s₄, s₅, h₁, h₂, h₃, h₄, h₅, rfl, -⟩ := tryCatch_steps h
    have k₂ : Keeps s s₂ := (resultVar_keeps h₁).trans (newBlock_keeps h₂)
    have k₅ : Keeps s₃ s₅ := (lowerExpr_keeps body h₄).trans (finishArm_keeps h₅)
    refine (k₂.trans ?_).moveTo exit
    rcases h₃ with ⟨-, rfl⟩ | ⟨-, header, s₆, exn, s₇, u, s₈, s₉, h₆, h₇, h₈, h₉, rfl⟩
    · exact Keeps.withLanding (l := s₃.landing) k₅ rfl
    · -- The handlers are lowered at the header, then the cursor comes back.
      have k₉ : Keeps s₂ s₉ := (newBlock_keeps h₆).moveTo header |>.trans ((freshVar_keeps h₇).trans
        ((emit_keeps h₈).bind _ |>.trans (lowerHandlers_keeps catches h₉)))
      exact (k₉.restore rfl).trans (Keeps.withLanding k₅ k₉.landing)
  | .getField field none, ty, span, s, s', v, h => by
    obtain ⟨address, offset, s₁, t, s₂, dst, s₃, hr, h₂, h₃, h₄⟩ := getField_steps h
    obtain ⟨-, -, -, rfl⟩ | ⟨r, s₀, hr, -⟩ := hr
    · exact (lowerType_keeps h₂).trans ((freshVar_keeps h₃).trans (emit_keeps h₄))
    · cases hr
  | .getField field (some r), ty, span, s, s', v, h => by
    obtain ⟨address, offset, s₁, t, s₂, dst, s₃, hr, h₂, h₃, h₄⟩ := getField_steps h
    obtain ⟨hr, -⟩ | ⟨r', s₀, hr, h₀, h₁⟩ := hr
    · cases hr
    · cases hr
      exact (fieldOffset_keeps h₀).trans ((lowerExpr_keeps r h₁).trans ((lowerType_keeps h₂).trans
        ((freshVar_keeps h₃).trans (emit_keeps h₄))))
  | .setField field none value, ty, span, s, s', v, h => by
    obtain ⟨address, offset, s₁, a, s₂, u, hr, h₂, h₃, -⟩ := setField_steps h
    obtain ⟨-, -, -, rfl⟩ | ⟨r, s₀, hr, -⟩ := hr
    · exact (lowerExpr_keeps value h₂).trans (emit_keeps h₃)
    · cases hr
  | .setField field (some r) value, ty, span, s, s', v, h => by
    obtain ⟨address, offset, s₁, a, s₂, u, hr, h₂, h₃, -⟩ := setField_steps h
    obtain ⟨hr, -⟩ | ⟨r', s₀, hr, h₀, h₁⟩ := hr
    · cases hr
    · cases hr
      exact (fieldOffset_keeps h₀).trans ((lowerExpr_keeps r h₁).trans
        ((lowerExpr_keeps value h₂).trans (emit_keeps h₃)))
  | .objectValue cls, ty, span, s, s', v, h => objectValue_keeps (objectValue_steps' h)
  | .stringConcat args, ty, span, s, s', v, h => by
    obtain ⟨what, h⟩ := unsupported_steps (.inl ⟨args, rfl⟩) h
    rw [unsupportedNode_run] at h; cases h
    exact (Keeps.refl _).warn _ _ _
  | .classReference cls, ty, span, s, s', v, h => by
    obtain ⟨what, h⟩ := unsupported_steps (.inr (.inl ⟨cls, rfl⟩)) h
    rw [unsupportedNode_run] at h; cases h
    exact (Keeps.refl _).warn _ _ _
  | .functionReference fn, ty, span, s, s', v, h => by
    obtain ⟨what, h⟩ := unsupported_steps (.inr (.inr (.inl ⟨fn, rfl⟩))) h
    rw [unsupportedNode_run] at h; cases h
    exact (Keeps.refl _).warn _ _ _
  | .enumEntry cls name, ty, span, s, s', v, h => by
    obtain ⟨what, h⟩ := unsupported_steps (.inr (.inr (.inr ⟨cls, name, rfl⟩))) h
    rw [unsupportedNode_run] at h; cases h
    exact (Keeps.refl _).warn _ _ _

theorem lowerOpt_keeps : ∀ (e : Option Expr) {s s' : State} {o : Option Operand},
    lowerOpt e ctx s = .ok (o, s') → Keeps s s'
  | none, s, s', o, h => by
    obtain ⟨-, rfl⟩ := lowerOpt_none_steps h
    exact Keeps.refl _
  | some e, s, s', o, h => by
    obtain ⟨a, h₁, -⟩ := lowerOpt_some_steps h
    exact lowerExpr_keeps e h₁

theorem lowerList_keeps : ∀ (es : List Expr) {s s' : State} {vs : List Operand},
    lowerList es ctx s = .ok (vs, s') → Keeps s s'
  | [], s, s', vs, h => by
    obtain ⟨-, rfl⟩ := lowerList_nil_steps h
    exact Keeps.refl _
  | e :: es, s, s', vs, h => by
    obtain ⟨a, s₁, as, h₁, h₂, -⟩ := lowerList_cons_steps h
    exact (lowerExpr_keeps e h₁).trans (lowerList_keeps es h₂)

theorem lowerBlock_keeps : ∀ (es : List Expr) {s s' : State} {v : Operand},
    lowerBlock es ctx s = .ok (v, s') → Keeps s s'
  | [], s, s', v, h => by
    obtain ⟨-, rfl⟩ := lowerBlock_nil_steps h
    exact Keeps.refl _
  | [e], s, s', v, h => lowerExpr_keeps e (by rwa [lowerBlock_single] at h)
  | e :: e' :: es, s, s', v, h => by
    obtain ⟨a, s₁, h₁, h₂⟩ := lowerBlock_cons_steps h
    exact (lowerExpr_keeps e h₁).trans (lowerBlock_keeps (e' :: es) h₂)

theorem lowerArms_keeps : ∀ (arms : List Arm) {result : Option Var} {exit : Nat} {s s' : State},
    lowerArms arms result exit ctx s = .ok ((), s') → Keeps s s'
  | [], result, exit, s, s', h => by
    rw [lowerArms_nil_steps h]
  | .mk cond res :: rest, result, exit, s, s', h => by
    cases hc : cond.isTrueLiteral with
    | true =>
      obtain ⟨a, s₁, h₁, h₂⟩ := lowerArms_true_steps hc h
      exact (lowerExpr_keeps res h₁).trans (finishArm_keeps h₂)
    | false =>
      obtain ⟨c, s₁, arm, s₂, next, s₃, u, s₄, a, s₅, s₆, h₁, h₂, h₃, h₄, h₅, h₆, h₇⟩ :=
        lowerArms_test_steps hc h
      have k₃ : Keeps s₂ s₃ := by
        rcases h₃ with ⟨-, -, rfl⟩ | ⟨-, h₃⟩
        · exact Keeps.refl _
        · exact newBlock_keeps h₃
      exact (lowerExpr_keeps cond h₁).trans ((newBlock_keeps h₂).trans (k₃.trans
        ((emit_keeps h₄).moveTo arm |>.trans ((lowerExpr_keeps res h₅).trans
        ((finishArm_keeps h₆).moveTo next |>.trans (lowerArms_keeps rest h₇))))))

theorem lowerHandlers_keeps : ∀ (cs : List Catch) {exn : Operand} {result : Option Var}
    {exit : Nat} {s s' : State}, lowerHandlers cs exn result exit ctx s = .ok ((), s') → Keeps s s'
  | [], exn, result, exit, s, s', h => by
    rw [lowerHandlers_nil_steps h]
  | [.mk param name ty res], exn, result, exit, s, s', h => by
    obtain ⟨a, s₁, h₁, h₂⟩ := lowerHandlers_last_steps h
    exact (lowerExpr_keeps res h₁).trans (finishArm_keeps h₂)
  | .mk param name ty res :: c' :: rest, exn, result, exit, s, s', h => by
    obtain ⟨t, s₁, caught, s₂, u₁, s₃, body, s₄, next, s₅, u₂, s₆, a, s₇, s₈,
      h₁, h₂, h₃, h₄, h₅, h₆, h₇, h₈, h₉⟩ := lowerHandlers_test_steps h
    exact (lowerType_keeps h₁).trans ((freshVar_keeps h₂).trans ((emit_keeps h₃).trans
      ((newBlock_keeps h₄).trans ((newBlock_keeps h₅).trans ((emit_keeps h₆).moveTo body |>.trans
      ((lowerExpr_keeps res h₇).trans ((finishArm_keeps h₈).moveTo next |>.trans
      (lowerHandlers_keeps (c' :: rest) h₉))))))))

theorem lowerVararg_keeps : ∀ (elems : List VarargElem) {s s' : State} {vs : List Operand},
    lowerVararg elems ctx s = .ok (vs, s') → Keeps s s'
  | [], s, s', vs, h => by
    obtain ⟨-, rfl⟩ := lowerVararg_nil_steps h
    exact Keeps.refl _
  | .value e :: rest, s, s', vs, h => by
    obtain ⟨a, s₁, as, h₁, h₂, -⟩ := lowerVararg_value_steps h
    exact (lowerExpr_keeps e h₁).trans (lowerVararg_keeps rest h₂)
  | .spread e :: rest, s, s', vs, h => (lowerVararg_spread h).elim

end

/-- Lowering one expression changes only what it should. The enclosing loops, the landing
block, the function being lowered and the function at the cursor stay; bindings of locals are
only added, over any earlier binding of the same local. Every other function that existed stays
as it was, and functions added are declarations without blocks; classes are only appended, and
the global initializer stays. In the cursor's function, blocks are appended at the end, numbered
by their positions, each block keeps the instructions it had in front, and an instruction is
appended to a block only while that block has not ended, so a block that has ended is never
written again. -/
theorem lowerExpr_frame {e : Expr} {s s' : State} {v : Operand}
    (h : lowerExpr e ctx s = .ok (v, s')) :
    s'.loops = s.loops ∧ s'.landing = s.landing ∧ s'.current = s.current ∧
      s'.cursor.fn = s.cursor.fn ∧ s.env <:+ s'.env ∧
      (∀ j, j ≠ s.cursor.fn → j < s.program.functions.length → s'.fn j = s.fn j) ∧
      s.program.functions.length ≤ s'.program.functions.length ∧
      (∀ j, s.program.functions.length ≤ j → j ≠ s.cursor.fn → (s'.fn j).blocks = []) ∧
      s.program.klasses <+: s'.program.klasses ∧ s'.program.globalInit = s.program.globalInit ∧
      BlocksGrow s.curFn.blocks s'.curFn.blocks ∧ AppendsOpen s.curFn.blocks s'.curFn.blocks ∧
      (∀ (l : Nat) (b : Graph.Block), s.curFn.blocks[l]? = some b → b.isTerminal = true →
        ∃ b' : Graph.Block, s'.curFn.blocks[l]? = some b' ∧ b'.instrs = b.instrs) := by
  have k := lowerExpr_keeps e h
  -- a position past the functions there were names no function before
  have added : ∀ j, s.program.functions.length ≤ j → j ≠ s.cursor.fn → (s'.fn j).blocks = [] := by
    intro j hj hne
    rw [k.others j hne, State.fn, List.getD_eq_getElem?_getD, List.getElem?_eq_none hj]
    rfl
  exact ⟨k.loops, k.landing, k.current, k.fn, k.env, k.frame, k.fnCount, added, k.klasses,
    k.globalInit, k.blocks, k.opened, fun l b hb ht => k.blocks.keep_terminal k.opened hb ht⟩

end Lowering

/-- `{ var x = 1; while (true) { try { g(x) } catch (e: C) { break } } }`: a binding, a loop, a
call of a function not registered yet, protected by a handler that leaves the loop. -/
def retryBlock : Expr :=
  let sp : Span := ⟨0, 0, 1, 1⟩
  let x : Expr := .node (.read ⟨0⟩ "x") .int sp
  let call : Expr := .node (.call ⟨⟨2⟩, "g", .function⟩ none none [x]) .unit sp
  let handler : Catch := .mk ⟨1⟩ "e" (.classRef ⟨3⟩) (.node (.breakLoop ⟨0⟩) .nothing sp)
  let loop : Expr := .node (.whileLoop ⟨0⟩ (.node (.literal (.boolean true)) .boolean sp)
    (some (.node (.tryCatch call [handler]) .unit sp))) .unit sp
  .node (.block [.node (.declare ⟨0⟩ "x" .int (some (.node (.literal (.int 1)) .int sp))) .unit sp,
    loop]) .unit sp

/-- The block lowered in the global initializer at the start of selection. -/
theorem retryBlock_frame : ∃ v s', lowerExpr retryBlock ⟨[], 8⟩ (State.start "init") = .ok (v, s') ∧
    s'.loops = (State.start "init").loops ∧ s'.landing = (State.start "init").landing ∧
    s'.current = (State.start "init").current ∧
    s'.cursor.fn = (State.start "init").cursor.fn ∧ (State.start "init").env <:+ s'.env ∧
    (∀ j, j ≠ (State.start "init").cursor.fn →
      j < (State.start "init").program.functions.length → s'.fn j = (State.start "init").fn j) ∧
    (State.start "init").program.functions.length ≤ s'.program.functions.length ∧
    (∀ j, (State.start "init").program.functions.length ≤ j →
      j ≠ (State.start "init").cursor.fn → (s'.fn j).blocks = []) ∧
    (State.start "init").program.klasses <+: s'.program.klasses ∧
    s'.program.globalInit = (State.start "init").program.globalInit ∧
    BlocksGrow (State.start "init").curFn.blocks s'.curFn.blocks ∧
    AppendsOpen (State.start "init").curFn.blocks s'.curFn.blocks ∧
    (∀ (l : Nat) (b : Graph.Block), (State.start "init").curFn.blocks[l]? = some b →
      b.isTerminal = true → ∃ b' : Graph.Block, s'.curFn.blocks[l]? = some b' ∧ b'.instrs = b.instrs) := by
  have hok : (lowerExpr retryBlock ⟨[], 8⟩ (State.start "init")).isOk = true := by decide +kernel
  cases h : lowerExpr retryBlock ⟨[], 8⟩ (State.start "init") with
  | error e =>
    rw [h] at hok
    cases hok
  | ok r => exact ⟨r.1, r.2, rfl, lowerExpr_frame h⟩

end Isel.Lower
