import Isel.Proofs.Frame
import Isel.Proofs.WellFormed

/-!
# The invariant of a program under construction

While an expression is lowered, every block of the program ends in a terminator except the
block at the cursor and a few pending ones that a construct has made and will still leave by a
branch (the exit of a loop, the next test of a conditional). Every instruction appended names
blocks that exist, functions that exist and landing blocks that start with a landing pad, and
nothing is ever appended after a terminator, since `emit` starts a fresh block first. `Built`
states this with the pending blocks as a parameter; this module shows that every primitive
step of selection keeps it.
-/

namespace Isel.Graph

theorem PadAt.grow {bs bs' : List Block} {l : Nat} (h : PadAt bs l) (g : BlocksGrow bs bs') :
    PadAt bs' l := by
  obtain ⟨b, hb, hp⟩ := h
  obtain ⟨b', hb', t, ht⟩ := g.2 l b hb
  refine ⟨b', hb', ?_⟩
  unfold Function.startsWithPad at hp ⊢
  rw [← ht]
  revert hp
  cases b.instrs with
  | nil => simp
  | cons x xs => cases x <;> simp

theorem Instr.Sound.grow {n n' : Nat} {bs bs' : List Block} {i : Instr} (h : i.Sound n bs)
    (hn : n ≤ n') (g : BlocksGrow bs bs') : i.Sound n' bs' :=
  ⟨fun t ht => Nat.lt_of_lt_of_le (h.targets t ht) g.1,
    fun c hc => Nat.lt_of_lt_of_le (h.callee c hc) hn,
    fun c d a k l hi => (h.landing c d a k l hi).grow g⟩

theorem Block.Sound.grow {n n' : Nat} {bs bs' : List Block} {b : Block} (h : b.Sound n bs)
    (hn : n ≤ n') (g : BlocksGrow bs bs') : b.Sound n' bs' :=
  ⟨fun i hi => (h.instrs i hi).grow hn g, h.early⟩

theorem Block.Sound.noTerminator {n : Nat} {bs : List Block} {b : Block} (h : b.Sound n bs)
    (ht : b.isTerminal = false) : ∀ i ∈ b.instrs, i.isTerminal = false := by
  intro i hi
  have hne : b.instrs ≠ [] := List.ne_nil_of_mem hi
  rw [← List.dropLast_concat_getLast hne, List.mem_append, List.mem_singleton] at hi
  rcases hi with hi | rfl
  · exact h.early i hi
  · simpa [Block.isTerminal, List.getLast?_eq_some_getLast hne] using ht

theorem Block.isTerminal_push (b : Block) (i : Instr) :
    ({ b with instrs := b.instrs ++ [i] } : Block).isTerminal = i.isTerminal := by
  simp [Block.isTerminal]

theorem Block.Sound.push {n : Nat} {bs : List Block} {b : Block} {i : Instr} (h : b.Sound n bs)
    (ht : b.isTerminal = false) (hi : i.Sound n bs) :
    ({ b with instrs := b.instrs ++ [i] } : Block).Sound n bs := by
  refine ⟨fun x hx => ?_, fun x hx => ?_⟩
  · rcases List.mem_append.1 hx with hx | hx
    · exact h.instrs x hx
    · rw [List.mem_singleton.1 hx]
      exact hi
  · rw [List.dropLast_concat] at hx
    exact h.noTerminator ht x hx

namespace Instr.Sound

variable {n : Nat} {bs : List Block}

theorem plain {i : Instr} (hs : i.successors = []) (hc : i.callee? = none) : i.Sound n bs :=
  ⟨by simp [hs], by simp [hc], fun c d a k l hi => by subst hi; simp [Instr.successors] at hs⟩

theorem br {t : Nat} (ht : t < bs.length) : (Instr.br t).Sound n bs :=
  ⟨by simpa [Instr.successors] using ht, by simp [Instr.callee?], fun _ _ _ _ _ h => by cases h⟩

theorem condBr {c : Operand} {t f : Nat} (ht : t < bs.length) (hf : f < bs.length) :
    (Instr.condBr c t f).Sound n bs :=
  ⟨by simp [Instr.successors, ht, hf], by simp [Instr.callee?], fun _ _ _ _ _ h => by cases h⟩

theorem call {c : Nat} {d : Option Var} {a : List Operand} (hc : c < n) :
    (Instr.call c d a).Sound n bs :=
  ⟨by simp [Instr.successors], by simpa [Instr.callee?] using hc, fun _ _ _ _ _ h => by cases h⟩

theorem invoke {c k l : Nat} {d : Option Var} {a : List Operand} (hc : c < n)
    (hk : k < bs.length) (hl : PadAt bs l) : (Instr.invoke c d a k l).Sound n bs := by
  refine ⟨?_, by simpa [Instr.callee?] using hc, fun _ _ _ _ _ h => by cases h; exact hl⟩
  obtain ⟨b, hb, -⟩ := hl
  have := (List.getElem?_eq_some_iff.1 hb).1
  simp [Instr.successors, hk, this]

end Instr.Sound

end Isel.Graph

namespace Isel.Lower

open Isel.Graph (Operand Instr Var Block PadAt BlocksGrow)
open Isel.Tree (Expr ExprKind Arm Catch VarargElem)

/-! ## The blocks of the state -/

namespace State

variable {s : State}

def block? (s : State) (c : Cursor) : Option Block := (s.fn c.fn).blocks[c.block]?

theorem block?_cursor (h : s.cursor.block < s.curFn.blocks.length) :
    s.block? s.cursor = some s.curBlock := by
  show s.curFn.blocks[s.cursor.block]? = some s.curBlock
  simp [curBlock, List.getD_eq_getElem?_getD, List.getElem?_eq_getElem h]

theorem curFn_mapFn {g : Graph.Function → Graph.Function}
    (hc : s.cursor.fn < s.program.functions.length) :
    (s.mapFn s.cursor.fn g).curFn = g s.curFn := by
  simp [curFn, fn_mapFn, hc]

theorem fn_mapFn_at {g : Graph.Function → Graph.Function} {j : Nat}
    (hj : j < s.program.functions.length) (i : Nat) :
    (s.mapFn j g).fn i = if i = j then g (s.fn i) else s.fn i := by
  rw [fn_mapFn]
  by_cases hi : i = j
  · simp [hi, hj]
  · simp [Ne.symm hi, hi]

theorem block?_mapFn {j : Nat} (hj : j < s.program.functions.length)
    (g : Graph.Function → Graph.Function) (c : Cursor) :
    (s.mapFn j g).block? c = if c.fn = j then (g (s.fn j)).blocks[c.block]? else s.block? c := by
  unfold block?
  rw [fn_mapFn_at hj]
  by_cases hfn : c.fn = j
  · simp only [hfn, ite_true]
  · simp only [hfn, ite_false]

theorem curBlock_moveTo (b : Nat) : (s.moveTo b).curBlock = s.curFn.blocks.getD b default := rfl

theorem curBlock_push (hc : s.cursor.fn < s.program.functions.length)
    (hb : s.cursor.block < s.curFn.blocks.length) (i : Instr) :
    (s.push i).curBlock = { s.curBlock with instrs := s.curBlock.instrs ++ [i] } := by
  simp [curBlock, push, curFn_mapFn hc, List.getD_eq_getElem?_getD, List.getElem?_eq_getElem hb]

theorem length_reopen : s.reopen.program.functions.length = s.program.functions.length := by
  unfold reopen
  split
  · exact length_mapFn _ _ _
  · rfl

theorem curFn_addBlock (hc : s.cursor.fn < s.program.functions.length) (l : String) :
    (s.addBlock l).curFn.blocks = s.curFn.blocks ++ [⟨l, []⟩] := by
  rw [addBlock, curFn_mapFn hc, Graph.Function.addBlock_blocks]

theorem curBlock_addBlockAt {j : Nat} (hj : j < s.program.functions.length)
    (hb : s.cursor.block < s.curFn.blocks.length) (l : String) :
    (s.mapFn j (·.addBlock l)).curBlock = s.curBlock := by
  unfold curBlock curFn
  rw [fn_mapFn_at hj, mapFn_cursor]
  split
  · rename_i hc
    rw [Graph.Function.addBlock_blocks, List.getD_eq_getElem?_getD, List.getD_eq_getElem?_getD,
      List.getElem?_append_left (show s.cursor.block < (s.fn s.cursor.fn).blocks.length from hb)]
  · rfl

theorem curBlock_addBlock (hc : s.cursor.fn < s.program.functions.length)
    (hb : s.cursor.block < s.curFn.blocks.length) (l : String) :
    (s.addBlock l).curBlock = s.curBlock :=
  curBlock_addBlockAt hc hb l

end State

/-! ## The invariant -/

/-- What selection keeps true of the program it builds, with `P` the pending blocks: every
block ends, unless it is at the cursor or pending; every block is sound; the cursor, the
enclosing loops and the landing block name blocks of the cursor's function; and the table of
registered functions names functions of the program. -/
structure Built (P : Cursor → Prop) (s : State) : Prop where
  cursor : s.cursor.fn < s.program.functions.length ∧ s.cursor.block < s.curFn.blocks.length
  closed : ∀ c b, s.block? c = some b → b.isTerminal = true ∨ c = s.cursor ∨ P c
  sound : ∀ c b, s.block? c = some b → b.Sound s.program.functions.length (s.fn c.fn).blocks
  loops : ∀ fr ∈ s.loops, fr.check < s.curFn.blocks.length ∧ fr.exit < s.curFn.blocks.length
  landing : ∀ l, s.landing = some l → PadAt s.curFn.blocks l
  table : ∀ e ∈ s.functions, e.2 < s.program.functions.length

namespace Built

variable {P Q : Cursor → Prop} {s t : State}

theorem pending (hb : Built P s) (hPQ : ∀ c, P c → Q c) : Built Q s :=
  ⟨hb.cursor, fun c b h => (hb.closed c b h).imp_right (Or.imp_right (hPQ c)), hb.sound, hb.loops,
    hb.landing, hb.table⟩

theorem of_blocks (hb : Built P s) (hfn : ∀ j, (t.fn j).blocks = (s.fn j).blocks)
    (hlen : s.program.functions.length ≤ t.program.functions.length) (hc : t.cursor = s.cursor)
    (hl : t.loops = s.loops) (hd : t.landing = s.landing)
    (ht : ∀ e ∈ t.functions, e.2 < t.program.functions.length) : Built P t := by
  have hcur : t.curFn.blocks = s.curFn.blocks := by
    simp only [State.curFn, hc, hfn]
  have hblk : ∀ c, t.block? c = s.block? c := fun c => by simp only [State.block?, hfn]
  refine ⟨⟨?_, ?_⟩, ?_, ?_, ?_, ?_, ht⟩
  · rw [hc]
    exact Nat.lt_of_lt_of_le hb.cursor.1 hlen
  · rw [hcur, hc]
    exact hb.cursor.2
  · intro c b h
    rw [hblk] at h
    rw [hc]
    exact hb.closed c b h
  · intro c b h
    rw [hblk] at h
    rw [hfn]
    exact (hb.sound c b h).grow hlen (BlocksGrow.refl _)
  · rw [hl, hcur]
    exact hb.loops
  · rw [hd, hcur]
    exact hb.landing

theorem bump (hb : Built P s) : Built P (s.mapFn s.cursor.fn Graph.Function.bump) :=
  hb.of_blocks (fun j => by rw [State.fn_mapFn_at hb.cursor.1]; split <;> rfl)
    (Nat.le_of_eq (State.length_mapFn _ _ _).symm) rfl rfl rfl (fun e he => by rw [State.length_mapFn]; exact hb.table e he)

theorem registers (hb : Built P s) (h : Registers s t) : Built P t := by
  obtain ⟨fs, ks, tf, tk, hfs, htf, rfl⟩ := h
  refine hb.of_blocks (State.blocks_fn_extend hfs) (by simp [State.extend]) rfl rfl rfl ?_
  intro e he
  simp only [State.extend, List.length_append, List.mem_append] at he ⊢
  rcases he with he | he
  · exact (htf e he).2
  · exact Nat.lt_of_lt_of_le (hb.table e he) (Nat.le_add_right _ _)

theorem warn (hb : Built P s) (code : Code) (message : String) (span : Span) :
    Built P (s.warn code message span) :=
  hb.of_blocks (fun _ => rfl) (Nat.le_refl _) rfl rfl rfl hb.table

theorem bind (hb : Built P s) (env : List (Tree.LocalId × Operand)) : Built P { s with env := env } :=
  hb.of_blocks (fun _ => rfl) (Nat.le_refl _) rfl rfl rfl hb.table

theorem mapFnAt {g : Graph.Function → Graph.Function} {j : Nat} (hb : Built P s)
    (hj : j < s.program.functions.length) (hg : BlocksGrow (s.fn j).blocks (g (s.fn j)).blocks)
    (hP : ∀ c, P c → Q c)
    (hnew : ∀ k b, (g (s.fn j)).blocks[k]? = some b → (s.fn j).blocks[k]? ≠ some b →
      b.Sound s.program.functions.length (g (s.fn j)).blocks ∧
        (b.isTerminal = true ∨ ⟨j, k⟩ = s.cursor ∨ Q ⟨j, k⟩)) :
    Built Q (s.mapFn j g) := by
  have grows : ∀ i, BlocksGrow (s.fn i).blocks ((s.mapFn j g).fn i).blocks := fun i => by
    rw [State.fn_mapFn_at hj]
    split
    · rename_i hi
      rw [hi]
      exact hg
    · exact BlocksGrow.refl _
  have hcf : BlocksGrow s.curFn.blocks (s.mapFn j g).curFn.blocks := grows s.cursor.fn
  have keep : ∀ c b, s.block? c = some b → b.isTerminal = true ∨ c = s.cursor ∨ Q c :=
    fun c b h => (hb.closed c b h).imp_right (Or.imp_right (hP c))
  refine ⟨⟨?_, ?_⟩, ?_, ?_, ?_, ?_, ?_⟩
  · rw [State.length_mapFn]
    exact hb.cursor.1
  · exact Nat.lt_of_lt_of_le hb.cursor.2 hcf.1
  · intro c b h
    rw [State.block?_mapFn hj] at h
    split at h
    · rename_i hfn
      by_cases hold : (s.fn j).blocks[c.block]? = some b
      · exact keep c b (by rw [State.block?, hfn]; exact hold)
      · -- a block the change made: the hypothesis says where it stands
        obtain ⟨-, ht | hk | hq⟩ := hnew c.block b h hold
        · exact .inl ht
        · exact .inr (.inl (by cases c; simp_all))
        · exact .inr (.inr (by cases c; simp_all))
    · exact keep c b h
  · intro c b h
    rw [State.block?_mapFn hj] at h
    rw [State.length_mapFn]
    split at h
    · rename_i hfn
      rw [State.fn_mapFn_at hj, if_pos hfn, hfn]
      by_cases hold : (s.fn j).blocks[c.block]? = some b
      · have hs := hb.sound c b (by rw [State.block?, hfn]; exact hold)
        rw [hfn] at hs
        exact hs.grow (Nat.le_refl _) hg
      · exact (hnew c.block b h hold).1
    · exact (hb.sound c b h).grow (Nat.le_refl _) (grows c.fn)
  · intro fr hfr
    obtain ⟨h₁, h₂⟩ := hb.loops fr hfr
    exact ⟨Nat.lt_of_lt_of_le h₁ hcf.1, Nat.lt_of_lt_of_le h₂ hcf.1⟩
  · exact fun l hl => (hb.landing l hl).grow hcf
  · rw [State.length_mapFn]
    exact hb.table

theorem mapCur {g : Graph.Function → Graph.Function} (hb : Built P s)
    (hg : BlocksGrow s.curFn.blocks (g s.curFn).blocks) (hP : ∀ c, P c → Q c)
    (hnew : ∀ k b, (g s.curFn).blocks[k]? = some b → s.curFn.blocks[k]? ≠ some b →
      b.Sound s.program.functions.length (g s.curFn).blocks ∧
        (b.isTerminal = true ∨ k = s.cursor.block ∨ Q ⟨s.cursor.fn, k⟩)) :
    Built Q (s.mapFn s.cursor.fn g) :=
  hb.mapFnAt hb.cursor.1 hg hP fun k b h hne =>
    (hnew k b h hne).imp_right (Or.imp_right (Or.imp_left fun hk => by rw [hk]))

theorem addBlockAt (hb : Built P s) {j : Nat} (hj : j < s.program.functions.length) (l : String) :
    Built (fun c => P c ∨ c = ⟨j, (s.fn j).blocks.length⟩) (s.mapFn j (·.addBlock l)) := by
  refine hb.mapFnAt hj (BlocksGrow.append _ _) (fun _ => Or.inl) (fun k b h hne => ?_)
  simp only [Graph.Function.addBlock_blocks] at h
  by_cases hk : k < (s.fn j).blocks.length
  · rw [List.getElem?_append_left hk] at h
    exact absurd h hne
  · rw [List.getElem?_append_right (by omega), List.getElem?_singleton] at h
    split at h
    · cases h
      refine ⟨⟨fun i hi => by simp at hi, fun i hi => by simp at hi⟩, .inr (.inr (.inr ?_))⟩
      congr 1
      omega
    · cases h

theorem addBlock (hb : Built P s) (l : String) :
    Built (fun c => P c ∨ c = ⟨s.cursor.fn, s.curFn.blocks.length⟩) (s.addBlock l) :=
  hb.addBlockAt hb.cursor.1 l

theorem push (hb : Built P s) {i : Instr} (ho : s.curBlock.isTerminal = false)
    (hi : i.Sound s.program.functions.length s.curFn.blocks) : Built P (s.push i) := by
  have hcur : s.curFn.blocks[s.cursor.block]? = some s.curBlock :=
    State.block?_cursor hb.cursor.2
  have g := BlocksGrow.push s.curFn.blocks s.cursor.block i
  refine hb.mapCur g (fun _ h => h) (fun k b h hne => ?_)
  rw [Graph.Function.pushAt_blocks, List.getElem?_modify] at h
  rw [Graph.Function.pushAt_blocks]
  by_cases hk : s.cursor.block = k
  · subst hk
    simp only [hcur, Option.map_eq_map, Option.map_some, ite_true, Option.some.injEq] at h
    subst h
    refine ⟨?_, .inr (.inl rfl)⟩
    exact ((hb.sound _ _ hcur).grow (Nat.le_refl _) g).push ho (hi.grow (Nat.le_refl _) g)
  · simp [hk] at h
    exact absurd h hne

/-- The cursor moved to a block of any function, where the enclosing loops and the landing block
exist. The block it leaves must end, be the block it moves to, or stay pending; the block it
moves to is no longer pending. -/
theorem jump (hb : Built P s) {c : Cursor} (hfn : c.fn < s.program.functions.length)
    (hlt : c.block < (s.fn c.fn).blocks.length)
    (hloops : ∀ fr ∈ s.loops, fr.check < (s.fn c.fn).blocks.length ∧
      fr.exit < (s.fn c.fn).blocks.length)
    (hland : ∀ l, s.landing = some l → PadAt (s.fn c.fn).blocks l)
    (hold : s.curBlock.isTerminal = true ∨ s.cursor = c ∨ Q s.cursor)
    (hP : ∀ d, P d → Q d ∨ d = c) : Built Q { s with cursor := c } := by
  refine ⟨⟨hfn, hlt⟩, ?_, hb.sound, hloops, hland, hb.table⟩
  intro d b h
  change s.block? d = some b at h
  rcases hb.closed d b h with ht | rfl | hd
  · exact .inl ht
  · -- the block left behind
    rcases hold with ht | hc | hq
    · rw [State.block?_cursor hb.cursor.2] at h
      cases h
      exact .inl ht
    · exact .inr (.inl hc)
    · exact .inr (.inr hq)
  · rcases hP d hd with hq | rfl
    · exact .inr (.inr hq)
    · exact .inr (.inl rfl)

theorem setCursor (hb : Built P s) {c : Cursor} (hfn : c.fn = s.cursor.fn)
    (hlt : c.block < s.curFn.blocks.length)
    (hold : s.curBlock.isTerminal = true ∨ s.cursor = c ∨ Q s.cursor)
    (hP : ∀ d, P d → Q d ∨ d = c) : Built Q { s with cursor := c } := by
  have hcf : s.fn c.fn = s.curFn := by rw [hfn]; rfl
  exact hb.jump (hfn ▸ hb.cursor.1) (hcf ▸ hlt) (hcf ▸ hb.loops) (hcf ▸ hb.landing) hold hP

theorem moveTo (hb : Built P s) {b : Nat} (hlt : b < s.curFn.blocks.length)
    (hold : s.curBlock.isTerminal = true ∨ s.cursor.block = b ∨ Q s.cursor)
    (hP : ∀ d, P d → Q d ∨ d = ⟨s.cursor.fn, b⟩) : Built Q (s.moveTo b) :=
  hb.setCursor rfl hlt (hold.imp_right (Or.imp_left fun h => by rw [← h])) hP

theorem enter (hb : Built P s) {f b : Nat} (hf : s.cursor.fn = f) (hlt : b < s.curFn.blocks.length)
    (hold : s.curBlock.isTerminal = true ∨ s.cursor.block = b ∨ Q s.cursor)
    (hP : ∀ d, P d → Q d ∨ d = ⟨f, b⟩) : Built Q (s.moveTo b) := by
  subst hf
  exact hb.moveTo hlt hold hP

theorem reopen (hb : Built P s) : Built P s.reopen ∧ s.reopen.curBlock.isTerminal = false := by
  unfold State.reopen
  split
  · rename_i ht
    have ha := hb.addBlock "unreachable"
    have hlen : (s.addBlock "unreachable").curFn.blocks.length = s.curFn.blocks.length + 1 := by
      rw [State.curFn_addBlock hb.cursor.1, List.length_append, List.length_singleton]
    refine ⟨ha.moveTo (by omega) (.inl ?_) (fun d hd => hd.imp_right id), ?_⟩
    · rw [State.curBlock_addBlock hb.cursor.1 hb.cursor.2]
      exact ht
    · rw [State.curBlock_moveTo, State.curFn_addBlock hb.cursor.1]
      simp [Block.isTerminal]
  · rename_i ht
    exact ⟨hb, by simpa using ht⟩

theorem pushLoop (hb : Built P s) {fr : LoopFrame} (hc : fr.check < s.curFn.blocks.length)
    (he : fr.exit < s.curFn.blocks.length) : Built P { s with loops := fr :: s.loops } := by
  refine ⟨hb.cursor, hb.closed, hb.sound, fun f hf => ?_, hb.landing, hb.table⟩
  rcases List.mem_cons.1 hf with rfl | hf
  · exact ⟨hc, he⟩
  · exact hb.loops f hf

theorem popLoop (hb : Built P s) : Built P { s with loops := s.loops.tail } :=
  ⟨hb.cursor, hb.closed, hb.sound, fun f hf => hb.loops f (List.mem_of_mem_tail hf), hb.landing,
    hb.table⟩

theorem setLanding (hb : Built P s) {l : Option Nat}
    (hl : ∀ k, l = some k → PadAt s.curFn.blocks k) : Built P { s with landing := l } :=
  ⟨hb.cursor, hb.closed, hb.sound, hb.loops, hl, hb.table⟩

end Built

/-! ## The primitives -/

def KeepsBuilt {α : Type} (m : LowerM α) (ctx : Context) : Prop :=
  ∀ {P : Cursor → Prop} {s s' : State} {a : α}, Built P s → m ctx s = .ok (a, s') → Built P s'

section Primitives

variable {ctx : Context} {P : Cursor → Prop} {s s' : State}

theorem Keeps.lt {t : State} {b : Nat} (h : Keeps s t) (hb : b < s.curFn.blocks.length) :
    b < t.curFn.blocks.length :=
  Nat.lt_of_lt_of_le hb h.blocks.1

theorem emit_built {i : Instr} {u : Operand} (hb : Built P s)
    (hi : i.Sound s.program.functions.length s.curFn.blocks) (h : emit i ctx s = .ok (u, s')) :
    Built P s' ∧ s'.curBlock.isTerminal = i.isTerminal := by
  obtain ⟨-, -, rfl⟩ := emit_ok h
  obtain ⟨hr, ho⟩ := hb.reopen
  have hn : s.program.functions.length ≤ s.reopen.program.functions.length :=
    Nat.le_of_eq State.length_reopen.symm
  refine ⟨hr.push ho (hi.grow hn (Keeps.reopen s).blocks), ?_⟩
  rw [State.curBlock_push hr.cursor.1 hr.cursor.2, Graph.Block.isTerminal_push]

theorem emit_plain_built {i : Instr} {u : Operand} (hb : Built P s) (hs : i.successors = [])
    (hc : i.callee? = none) (h : emit i ctx s = .ok (u, s')) : Built P s' :=
  (emit_built hb (Instr.Sound.plain hs hc) h).1

theorem jumpIfOpen_built {t : Nat} (hb : Built P s) (ht : t < s.curFn.blocks.length)
    (h : jumpIfOpen t ctx s = .ok ((), s')) : Built P s' ∧ s'.curBlock.isTerminal = true := by
  obtain ⟨-, rfl⟩ := jumpIfOpen_ok h
  split
  · exact ⟨hb, ‹_›⟩
  · rename_i ho
    refine ⟨hb.push (by simpa using ho) (Instr.Sound.br ht), ?_⟩
    rw [State.curBlock_push hb.cursor.1 hb.cursor.2, Graph.Block.isTerminal_push]
    rfl

theorem newBlock_built {l : String} {b f : Nat} (hb : Built P s) (hf : s.cursor.fn = f)
    (h : newBlock l ctx s = .ok (b, s')) :
    Built (fun c => P c ∨ c = ⟨f, b⟩) s' ∧ b < s'.curFn.blocks.length := by
  obtain ⟨-, rfl, rfl⟩ := newBlock_ok h
  subst hf
  refine ⟨hb.addBlock l, ?_⟩
  rw [State.curFn_addBlock hb.cursor.1]
  simp

theorem newBlock_cursor {l : String} {b : Nat} (h : newBlock l ctx s = .ok (b, s')) :
    s'.cursor = s.cursor := by
  obtain ⟨-, rfl, rfl⟩ := newBlock_ok h
  rfl

theorem newBlock_entered {l : String} {b : Nat} (hb : Built P s) (h : newBlock l ctx s = .ok (b, s')) :
    (s'.moveTo b).curBlock = ⟨l, []⟩ := by
  obtain ⟨-, rfl, rfl⟩ := newBlock_ok h
  rw [State.curBlock_moveTo, State.curFn_addBlock hb.cursor.1]
  simp

theorem freshVar_curBlock {ty : Graph.Ty} {x : Var} (h : freshVar ty ctx s = .ok (x, s')) :
    s'.curBlock = s.curBlock := by
  obtain ⟨-, rfl, rfl⟩ := freshVar_ok h
  simp only [State.curBlock, State.curFn, State.mapFn_cursor, State.fn_mapFn]
  split <;> rfl

theorem landingPad_padAt {x : Var} {u : Operand} (hb : Built P s) (hnew : s.curBlock.instrs = [])
    (h : emit (.landingPad x) ctx s = .ok (u, s')) : PadAt s'.curFn.blocks s.cursor.block := by
  obtain ⟨-, -, rfl⟩ := emit_ok h
  have ho : s.curBlock.isTerminal = false := by simp [Graph.Block.isTerminal, hnew]
  have hr : s.reopen = s := by simp [State.reopen, ho]
  rw [hr]
  refine ⟨{ s.curBlock with instrs := s.curBlock.instrs ++ [.landingPad x] }, ?_, ?_⟩
  · rw [← State.curBlock_push hb.cursor.1 hb.cursor.2]
    exact State.block?_cursor (Built.push hb ho (Instr.Sound.plain rfl rfl)).cursor.2
  · simp [Graph.Function.startsWithPad, hnew]

theorem freshVar_built {ty : Graph.Ty} : KeepsBuilt (freshVar ty) ctx := fun hb h => by
  obtain ⟨-, rfl, rfl⟩ := freshVar_ok h
  exact hb.bump

theorem lowerType_built {t : Tree.Ty} : KeepsBuilt (lowerType t) ctx := fun hb h =>
  hb.registers (lowerType_registers h)

theorem klassId_built {cls : Tree.DefId} : KeepsBuilt (klassId cls) ctx := fun hb h =>
  hb.registers (klassId_registers h).1

theorem calleeFor_built {callee : Tree.Callee} {args : List Operand} {ret : Graph.Ty} :
    KeepsBuilt (calleeFor callee args ret) ctx := fun hb h =>
  hb.registers (calleeFor_registers h).1

theorem declaredFunction_lt {id : Tree.DefId} {name : String} {argTys : List Graph.Ty}
    {ret : Graph.Ty} {fn : Nat} (hb : Built P s)
    (h : declaredFunction id name argTys ret ctx s = .ok (fn, s')) :
    fn < s'.program.functions.length := by
  obtain ⟨hr, hl, -⟩ := declaredFunction_registers h
  obtain ⟨l₁, l₂, hs, -⟩ := List.lookup_eq_some_iff.1 hl
  exact (hb.registers hr).table (id, fn) (by rw [hs]; simp)

theorem calleeFor_lt {callee : Tree.Callee} {args : List Operand} {ret : Graph.Ty} {fn : Nat}
    (hb : Built P s) (h : calleeFor callee args ret ctx s = .ok (fn, s')) :
    fn < s'.program.functions.length :=
  declaredFunction_lt hb h

theorem finishArm_built {a : Operand} {result : Option Var} {exit : Nat} (hb : Built P s)
    (he : exit < s.curFn.blocks.length) (h : finishArm a result exit ctx s = .ok ((), s')) :
    Built P s' ∧ s'.curBlock.isTerminal = true := by
  rcases finishArm_steps h with ⟨ht, rfl⟩ | ⟨-, s₁, u, h₁, h₂⟩
  · exact ⟨hb, ht⟩
  · have b₁ : Built P s₁ ∧ Keeps s s₁ := by
      rcases h₁ with ⟨-, rfl⟩ | ⟨r, u₀, -, h₁⟩
      · exact ⟨hb, Keeps.refl _⟩
      · exact ⟨emit_plain_built hb rfl rfl h₁, emit_keeps h₁⟩
    exact emit_built b₁.1 (Instr.Sound.br (b₁.2.lt he)) h₂

theorem generateCall_built {callee : Nat} {ret : Graph.Ty} {args : List Operand} {v : Operand}
    (hb : Built P s) (hc : callee < s.program.functions.length)
    (h : generateCall callee ret args ctx s = .ok (v, s')) : Built P s' := by
  obtain ⟨dst, s₁, hd, -, hcall⟩ := generateCall_steps h
  have b₁ : Built P s₁ ∧ Keeps s s₁ := by
    rcases hd with ⟨-, -, rfl⟩ | ⟨-, d, hf, -⟩
    · exact ⟨hb, Keeps.refl _⟩
    · exact ⟨freshVar_built hb hf, freshVar_keeps hf⟩
  have hc₁ := Nat.lt_of_lt_of_le hc b₁.2.fnCount
  rcases hcall with ⟨-, u, he⟩ | ⟨l, normal, s₂, u, s₃, hl, hn, he, rfl⟩
  · exact (emit_built b₁.1 (Instr.Sound.call hc₁) he).1
  · -- inside a protected region: an invoke, and the normal edge's block is entered
    obtain ⟨b₂, hlt⟩ := newBlock_built b₁.1 rfl hn
    have k₂ := newBlock_keeps hn
    have hpad : PadAt s₂.curFn.blocks l := b₂.landing l (by rw [k₂.landing]; exact hl)
    obtain ⟨b₃, ht⟩ := emit_built b₂ (Instr.Sound.invoke (Nat.lt_of_lt_of_le hc₁ k₂.fnCount) hlt
      hpad) he
    have k₃ := emit_keeps he
    refine b₃.moveTo (k₃.lt hlt) (.inl ht) (fun d hd => hd.imp_right fun hd => ?_)
    rw [hd, k₃.fn, k₂.fn]

theorem resultVar_built {ty : Tree.Ty} : KeepsBuilt (resultVar ty) ctx := fun hb h => by
  rcases resultVar_steps h with ⟨-, -, rfl⟩ | ⟨-, -, t, s₁, d, h₁, h₂, -⟩
  · exact hb
  · exact freshVar_built (lowerType_built hb h₁) h₂

theorem coerceInteger_built {target : Tree.Ty} {value : Operand} :
    KeepsBuilt (coerceInteger value target) ctx := fun hb h => by
  rcases coerceInteger_steps h with ⟨-, -, rfl⟩ | ⟨-, t, s₁, h₁, ⟨-, -, rfl⟩ | ⟨-, dst, s₂, h₂, h₃⟩⟩
  · exact hb
  · exact lowerType_built hb h₁
  · exact emit_plain_built (freshVar_built (lowerType_built hb h₁) h₂)
      (by split <;> rfl) (by split <;> rfl) h₃

theorem applyIntrinsic_built {intr : Intrinsic} {name : String} {args : List Operand} {ty span} :
    KeepsBuilt (applyIntrinsic intr name args ty span) ctx := fun hb h => by
  rcases applyIntrinsic_steps h with ⟨rfl, -⟩ | ⟨t, dst, s₁, h₁, h₂⟩ |
    ⟨t, s₁, p, s₂, u, s₃, dst, s₄, h₁, h₂, h₃, h₄, h₅⟩ | ⟨p, s₁, u, s₂, u', h₁, h₂, h₃, -⟩ |
    ⟨t, s₁, h₁, ⟨-, -, rfl⟩ | ⟨dst, s₂, h₂, h₃⟩⟩
  · exact hb
  · exact emit_plain_built (freshVar_built hb h₁) (by split <;> rfl) (by split <;> rfl) h₂
  · exact emit_plain_built (freshVar_built (emit_plain_built (freshVar_built (lowerType_built hb h₁)
      h₂) rfl rfl h₃) h₄) rfl rfl h₅
  · exact emit_plain_built (emit_plain_built (freshVar_built hb h₁) rfl rfl h₂) rfl rfl h₃
  · exact lowerType_built hb h₁
  · exact emit_plain_built (freshVar_built (lowerType_built hb h₁) h₂) rfl rfl h₃

theorem fieldOffset_built {field : Tree.FieldRef} {receiverTy : Tree.Ty} {span} :
    KeepsBuilt (fieldOffset field receiverTy span) ctx := fun hb h => by
  obtain ⟨cls, k, -, hk, -⟩ := fieldOffset_steps h
  exact klassId_built hb hk

end Primitives

end Isel.Lower
