import Isel.Proofs.DeclarationOrder

/-! # Selection never panics

The builder reads and writes the program at positions it has stored: the function and the
block at the cursor, the check and exit blocks of the enclosing loops, the landing block of the
innermost protected region, and the block where the global initializer goes on. `InBounds` says
that each of them names a block that exists in the function it is used in, and that the global
initializer exists. Past the end of the program each read or write panics
(`Fault.outOfRange`).

`Safe cs m` is a program logic for the absence of that panic. From a state in bounds whose
function has the blocks named by the cursors `cs`, `m` does not panic, and a state it returns
is in bounds and has grown from the one it started in. The rules are one per primitive of the
builder and one per way of combining them; a rule's premise is what the primitive needs of the
state it runs in, so `InBounds` holds before every step of a run, failing runs included. Every
lowering is safe, every declaration starts in bounds and keeps selection ready, and so
selection of any module under any configuration never panics.
-/

namespace Isel.Lower

open Isel.Graph (Operand Instr Var)
open Isel.Tree (Expr ExprKind Arm Catch VarargElem LoopId DefId Decl Module FunctionDecl FieldDecl)

variable {α β : Type}

/-- Every position the builder indexes with names something that exists. The loops and the
landing block are used in the cursor's function, which no lowering leaves (`Widens.fn`). -/
structure InBounds (s : State) : Prop where
  cursor : s.cursor.fn < s.program.functions.length ∧ s.cursor.block < s.curFn.blocks.length
  loops : ∀ fr ∈ s.loops, fr.check < s.curFn.blocks.length ∧ fr.exit < s.curFn.blocks.length
  landing : ∀ l, s.landing = some l → l < s.curFn.blocks.length
  global : s.globalCursor.fn < s.program.functions.length ∧
    s.globalCursor.block < (s.fn s.globalCursor.fn).blocks.length
  globalInit : s.program.globalInit < s.program.functions.length

def NoPanic (r : Except Fault α) : Prop := ∀ n i, r ≠ .error (.outOfRange n i)

theorem NoPanic.ok (x : α) : NoPanic (.ok x : Except Fault α) := fun _ _ h => by cases h

theorem NoPanic.lowering (e : LowerError) : NoPanic (.error (.lowering e) : Except Fault α) :=
  fun _ _ h => by cases h

theorem NoPanic.bind {m : LowerM α} {f : α → LowerM β} {ctx : Context} {s : State}
    (h : NoPanic (m ctx s)) (hf : ∀ a t, m ctx s = .ok (a, t) → NoPanic (f a ctx t)) :
    NoPanic ((m >>= f) ctx s) := by
  cases e : m ctx s with
  | error err =>
    simp only [bind_run, e]
    exact fun n i he => h n i (by cases he; exact e)
  | ok r =>
    obtain ⟨a, t⟩ := r
    rw [bind_of_ok e]
    exact hf a t e

theorem NoPanic.map {r : Except Fault α} {g : α → β} (h : NoPanic r) : NoPanic (r.map g) := by
  cases r with
  | error e => exact fun n i he => h n i (by cases he; rfl)
  | ok a => exact NoPanic.ok _

/-- Between two states of a lowering: the cursor stays in its function, no function and no
block is removed, and the global initializer is where it was. -/
structure Widens (s t : State) : Prop where
  fn : t.cursor.fn = s.cursor.fn
  count : s.program.functions.length ≤ t.program.functions.length
  blocks : ∀ i, (s.fn i).blocks.length ≤ (t.fn i).blocks.length
  globalCursor : t.globalCursor = s.globalCursor
  globalInit : t.program.globalInit = s.program.globalInit

namespace Widens

variable {s t u : State}

@[refl] theorem refl (s : State) : Widens s s :=
  ⟨rfl, Nat.le_refl _, fun _ => Nat.le_refl _, rfl, rfl⟩

theorem trans (h₁ : Widens s t) (h₂ : Widens t u) : Widens s u :=
  ⟨h₂.fn.trans h₁.fn, Nat.le_trans h₁.count h₂.count, fun i => Nat.le_trans (h₁.blocks i) (h₂.blocks i),
    h₂.globalCursor.trans h₁.globalCursor, h₂.globalInit.trans h₁.globalInit⟩

theorem curFn (h : Widens s t) : s.curFn.blocks.length ≤ t.curFn.blocks.length := by
  rw [State.curFn, State.curFn, h.fn]
  exact h.blocks _

theorem of_keeps (h : Keeps s t) : Widens s t :=
  ⟨h.fn, h.fnCount, fun i => (h.grows i).1, h.globalCursor, h.globalInit⟩

theorem of_same (hp : t.program = s.program) (hc : t.cursor.fn = s.cursor.fn)
    (hg : t.globalCursor = s.globalCursor) : Widens s t := by
  refine ⟨hc, by rw [hp], fun i => ?_, hg, by rw [hp]⟩
  simp only [State.fn, hp, Nat.le_refl]

end Widens

def State.Holds (s : State) (c : Cursor) : Prop :=
  c.fn = s.cursor.fn ∧ c.block < s.curFn.blocks.length

theorem State.Holds.grows {s t : State} {c : Cursor} (h : s.Holds c) (g : Widens s t) : t.Holds c :=
  ⟨h.1.trans g.fn.symm, Nat.lt_of_lt_of_le h.2 g.curFn⟩

/-! ## Staying in bounds -/

namespace InBounds

variable {s t : State}

theorem placed (h : InBounds s) : s.Placed := h.cursor

theorem of_keeps (h : InBounds s) (hk : Keeps s t) (hp : t.Placed) : InBounds t where
  cursor := hp
  loops fr hfr := by
    have g := (Widens.of_keeps hk).curFn
    have := h.loops fr (hk.loops ▸ hfr)
    omega
  landing l hl := Nat.lt_of_lt_of_le (h.landing l (hk.landing ▸ hl)) (Widens.of_keeps hk).curFn
  global := by
    rw [hk.globalCursor]
    exact ⟨Nat.lt_of_lt_of_le h.global.1 hk.fnCount,
      Nat.lt_of_lt_of_le h.global.2 ((hk.grows _).1)⟩
  globalInit := by
    rw [hk.globalInit]
    exact Nat.lt_of_lt_of_le h.globalInit hk.fnCount

theorem of_same (h : InBounds s) (hp : t.program = s.program) (hc : t.cursor = s.cursor)
    (hg : t.globalCursor = s.globalCursor)
    (hl : ∀ fr ∈ t.loops, fr.check < s.curFn.blocks.length ∧ fr.exit < s.curFn.blocks.length)
    (hd : ∀ l, t.landing = some l → l < s.curFn.blocks.length) : InBounds t := by
  have hf : t.curFn = s.curFn := by simp only [State.curFn, State.fn, hp, hc]
  refine ⟨?_, ?_, ?_, ?_, ?_⟩
  · show t.cursor.fn < t.program.functions.length ∧ t.cursor.block < t.curFn.blocks.length
    rw [hf, hc, hp]
    exact h.cursor
  · rw [hf]
    exact hl
  · rw [hf]
    exact hd
  · simp only [State.fn, hg, hp]
    exact h.global
  · rw [hp]
    exact h.globalInit

end InBounds

theorem State.Placed.push {s : State} (h : s.Placed) (i : Instr) : (s.push i).Placed := by
  refine ⟨by simpa [State.push, State.length_mapFn] using h.1, ?_⟩
  simpa [State.curFn, State.push, State.fn_mapFn_self s _ h.1] using h.2

namespace State

variable {s : State}

theorem Placed.addBlock (h : s.Placed) (l : String) : (s.addBlock l).Placed := by
  refine ⟨by simpa [State.addBlock, State.length_mapFn] using h.1, ?_⟩
  show s.cursor.block < (s.addBlock l).curFn.blocks.length
  rw [State.curFn_addBlock h.1]
  simp only [List.length_append, List.length_singleton]
  exact Nat.lt_succ_of_lt h.2

theorem Placed.bump (h : s.Placed) : (s.mapFn s.cursor.fn Graph.Function.bump).Placed := by
  refine ⟨by simpa [State.length_mapFn] using h.1, ?_⟩
  show s.cursor.block < (s.mapFn s.cursor.fn Graph.Function.bump).curFn.blocks.length
  rw [State.curFn_mapFn h.1]
  exact h.2

theorem Placed.of_registers {t : State} (h : s.Placed) (hr : Registers s t) : t.Placed := by
  obtain ⟨fs, ks, tf, tk, hfs, -, rfl⟩ := hr
  refine ⟨by simpa [State.extend] using Nat.lt_of_lt_of_le h.1 (Nat.le_add_right _ _), ?_⟩
  show s.cursor.block < ((s.extend fs ks tf tk).fn s.cursor.fn).blocks.length
  rw [State.blocks_fn_extend hfs]
  exact h.2

end State

def State.held (s : State) : List Cursor :=
  s.cursor :: (s.landing.map fun l => ⟨s.cursor.fn, l⟩).toList

theorem InBounds.holds_held {s : State} (h : InBounds s) : ∀ c ∈ s.held, s.Holds c := by
  intro c hc
  simp only [State.held, List.mem_cons] at hc
  rcases hc with rfl | hc
  · exact ⟨rfl, h.cursor.2⟩
  · cases hl : s.landing with
    | none => simp [hl] at hc
    | some l =>
      simp only [hl, Option.map_some, Option.toList_some, List.mem_singleton] at hc
      subst hc
      exact ⟨rfl, h.landing l hl⟩

theorem State.landing_held {s : State} {l : Nat} (h : s.landing = some l) :
    ⟨s.cursor.fn, l⟩ ∈ s.held := by
  simp [State.held, h]

/-! ## The program logic -/

/-- From a state in bounds that holds the cursors `cs`, `m` does not panic, and a state it
returns is in bounds and has grown from the one it started in. -/
def Safe (cs : List Cursor) (m : LowerM α) : Prop :=
  ∀ ctx s, InBounds s → (∀ c ∈ cs, s.Holds c) →
    NoPanic (m ctx s) ∧ ∀ a t, m ctx s = .ok (a, t) → InBounds t ∧ Widens s t

namespace Safe

variable {cs cs' : List Cursor} {m : LowerM α} {f : α → LowerM β}

theorem of_keeps (hrun : ∀ ctx s, s.Placed → ∃ a t, m ctx s = .ok (a, t) ∧ t.Placed)
    (hk : ∀ ctx s a t, s.Placed → m ctx s = .ok (a, t) → Keeps s t) : Safe cs m := by
  intro ctx s hs _
  obtain ⟨a, t, h, hp⟩ := hrun ctx s hs.placed
  refine ⟨by rw [h]; exact NoPanic.ok _, fun a' t' h' => ?_⟩
  rw [h] at h'
  cases h'
  have k := hk ctx s a t hs.placed h
  exact ⟨hs.of_keeps k hp, Widens.of_keeps k⟩

theorem pure (a : α) : Safe cs (Pure.pure a : LowerM α) :=
  of_keeps (fun _ s hs => ⟨a, s, rfl, hs⟩) fun _ _ _ _ _ h => by cases h; rfl

theorem throw_lowering (e : LowerError) : Safe cs (throw (.lowering e) : LowerM α) := by
  intro ctx s _ _
  exact ⟨NoPanic.lowering e, fun _ _ h => by cases h⟩

theorem throw_bind (e : LowerError) : Safe cs (throw (.lowering e) >>= f) := by
  intro ctx s _ _
  exact ⟨NoPanic.lowering e, fun _ _ h => by cases h⟩

theorem bind (hm : Safe cs m) (hf : ∀ a, Safe cs (f a)) : Safe cs (m >>= f) := by
  intro ctx s hs hc
  obtain ⟨n₁, p₁⟩ := hm ctx s hs hc
  cases h : m ctx s with
  | error e =>
    simp only [bind_run, h]
    exact ⟨fun n i he => n₁ n i (by cases he; exact h), fun _ _ he => by cases he⟩
  | ok r =>
    obtain ⟨a, t⟩ := r
    rw [bind_of_ok h]
    obtain ⟨ht, g⟩ := p₁ a t h
    obtain ⟨n₂, p₂⟩ := hf a ctx t ht fun c hc' => (hc c hc').grows g
    exact ⟨n₂, fun b u hu => ⟨(p₂ b u hu).1, g.trans (p₂ b u hu).2⟩⟩

theorem mono (h : Safe cs m) (hcs : ∀ c ∈ cs, c ∈ cs') : Safe cs' m :=
  fun ctx s hs hc => h ctx s hs fun c h' => hc c (hcs c h')

theorem weaken (h : Safe [] m) : Safe cs m :=
  h.mono fun _ h' => by cases h'

theorem map {g : α → β} (h : Safe cs m) : Safe cs (g <$> m) := by
  intro ctx s hs hc
  obtain ⟨n, p⟩ := h ctx s hs hc
  cases e : m ctx s with
  | error err =>
    simp only [map_run, e]
    exact ⟨fun n' i he => n n' i (by cases he; exact e), fun _ _ he => by cases he⟩
  | ok r =>
    obtain ⟨a, t⟩ := r
    simp only [map_run, e]
    exact ⟨NoPanic.ok _, fun b u hu => by cases hu; exact p a t e⟩

theorem ite {p : Prop} [Decidable p] {m₁ m₂ : LowerM α} (h₁ : Safe cs m₁) (h₂ : Safe cs m₂) :
    Safe cs (if p then m₁ else m₂) := by
  split
  · exact h₁
  · exact h₂

theorem get_bind {f : State → LowerM β} (hf : ∀ x, Safe cs (f x)) : Safe cs (get >>= f) := by
  intro ctx s hs hc
  rw [bind_of_ok (get_run ctx s)]
  exact hf s ctx s hs hc

theorem get_held_bind {f : State → LowerM β} (hf : ∀ x : State, Safe (x.held ++ cs) (f x)) :
    Safe cs (get >>= f) := by
  intro ctx s hs hc
  rw [bind_of_ok (get_run ctx s)]
  refine hf s ctx s hs fun c h => ?_
  rcases List.mem_append.1 h with h | h
  · exact hs.holds_held c h
  · exact hc c h

theorem read_bind {f : Context → LowerM β} (hf : ∀ x, Safe cs (f x)) : Safe cs (read >>= f) := by
  intro ctx s hs hc
  rw [bind_of_ok (read_run ctx s)]
  exact hf ctx ctx s hs hc

theorem of_run {g : State → State} {v : State → α} (hrun : ∀ ctx s, m ctx s = .ok (v s, g s))
    (hb : ∀ s, InBounds s → (∀ c ∈ cs, s.Holds c) → InBounds (g s) ∧ Widens s (g s)) :
    Safe cs m := by
  intro ctx s hs hc
  rw [hrun]
  exact ⟨NoPanic.ok _, fun a t h => by cases h; exact hb s hs hc⟩

theorem of_other {g : State → State} {v : State → α} (hrun : ∀ ctx s, m ctx s = .ok (v s, g s))
    (hp : ∀ s, (g s).program = s.program) (hc : ∀ s, (g s).cursor = s.cursor)
    (hg : ∀ s, (g s).globalCursor = s.globalCursor) (hl : ∀ s, (g s).loops = s.loops)
    (hd : ∀ s, (g s).landing = s.landing) : Safe cs m :=
  of_run hrun fun s hs _ => ⟨hs.of_same (hp s) (hc s) (hg s) (fun fr hfr => hs.loops fr (hl s ▸ hfr))
    (fun l hl' => hs.landing l (hd s ▸ hl')), Widens.of_same (hp s) (by rw [hc]) (hg s)⟩

theorem of_registers (hok : ∀ ctx s, ∃ a t, m ctx s = .ok (a, t))
    (hr : ∀ ctx s a t, m ctx s = .ok (a, t) → Registers s t) : Safe cs m :=
  of_keeps (fun ctx s hs => by
    obtain ⟨a, t, h⟩ := hok ctx s
    exact ⟨a, t, h, State.Placed.of_registers hs (hr ctx s a t h)⟩)
    fun ctx s a t _ h => Keeps.of_registers (hr ctx s a t h)

theorem of_reads (h : ∀ ctx s, s.Placed → ∃ a, m ctx s = .ok (a, s)) : Safe cs m :=
  of_keeps (fun ctx s hp => by
    obtain ⟨a, h⟩ := h ctx s hp
    exact ⟨a, s, h, hp⟩) fun ctx s a t hp h' => by
    obtain ⟨a', h''⟩ := h ctx s hp
    rw [h''] at h'
    cases h'
    rfl

end Safe

/-! ## The primitives of the builder -/


theorem InBounds.setCursor {s : State} (hs : InBounds s) {c : Cursor} (hc : s.Holds c) :
    InBounds { s with cursor := c } := by
  have hf : ({ s with cursor := c } : State).curFn = s.curFn := by
    simp only [State.curFn, State.fn, hc.1]
  refine ⟨⟨hc.1 ▸ hs.cursor.1, hf ▸ hc.2⟩, hf ▸ hs.loops, hf ▸ hs.landing, hs.global, hs.globalInit⟩

section Primitives

variable {cs : List Cursor}

theorem currentFunction_safe : Safe cs currentFunction :=
  Safe.of_reads fun ctx s hp => ⟨_, currentFunction_run ctx s hp.1⟩

theorem isTerminated_safe : Safe cs isTerminated :=
  Safe.of_reads fun ctx s hp => ⟨_, isTerminated_run ctx s hp⟩

theorem newBlock_safe (l : String) : Safe cs (newBlock l) :=
  Safe.of_keeps (fun ctx s hp => ⟨_, _, newBlock_run ctx s hp.1 l, hp.addBlock l⟩)
    fun _ _ _ _ _ h => newBlock_keeps h

theorem freshVar_safe (ty : Graph.Ty) : Safe cs (freshVar ty) :=
  Safe.of_keeps (fun ctx s hp => ⟨_, _, freshVar_run ctx s hp.1 ty, hp.bump⟩)
    fun _ _ _ _ _ h => freshVar_keeps h

theorem emit_safe (i : Instr) : Safe cs (emit i) :=
  Safe.of_keeps (fun ctx s hp => ⟨_, _, emit_run ctx s hp i, hp.reopen.push i⟩)
    fun _ _ _ _ _ h => emit_keeps h

theorem jumpIfOpen_safe (b : Nat) : Safe cs (jumpIfOpen b) :=
  Safe.of_keeps (fun ctx s hp => ⟨_, _, jumpIfOpen_run ctx s hp b,
    by split <;> first | exact hp | exact hp.push _⟩)
    fun _ _ _ _ _ h => jumpIfOpen_keeps h

theorem modifyFunction_safe {fn : Nat} {g : Graph.Function → Graph.Function}
    (hg : ∀ f, (g f).blocks = f.blocks) : Safe cs (modifyFunction fn g) :=
  Safe.of_run (v := fun _ => ()) (modifyFunction_run · · fn g) fun s hs _ => by
    have hb : ∀ i, ((s.mapFn fn g).fn i).blocks = (s.fn i).blocks := fun i => by
      rw [State.fn_mapFn]
      split
      · exact hg _
      · rfl
    have hl := State.length_mapFn s fn g
    have hc : (s.mapFn fn g).curFn.blocks = s.curFn.blocks := hb _
    refine ⟨⟨⟨?_, ?_⟩, ?_, ?_, ⟨?_, ?_⟩, ?_⟩,
      ⟨rfl, Nat.le_of_eq hl.symm, fun i => by rw [hb], rfl, rfl⟩⟩
    · rw [hl]; exact hs.cursor.1
    · rw [hc]; exact hs.cursor.2
    · rw [hc]; exact hs.loops
    · rw [hc]; exact hs.landing
    · rw [hl]; exact hs.global.1
    · rw [hb]; exact hs.global.2
    · rw [hl]; exact hs.globalInit

theorem Safe.newBlock_bind {f : Nat → LowerM β} (l : String)
    (hf : ∀ c : Cursor, Safe (c :: cs) (f c.block)) : Safe cs (newBlock l >>= f) := by
  intro ctx s hs hc
  have hrun := newBlock_run ctx s hs.placed.1 l
  have hk := newBlock_keeps hrun
  have g := Widens.of_keeps hk
  rw [bind_of_ok hrun]
  -- the new block is the last of the cursor's function
  have hnew : (s.addBlock l).Holds ⟨s.cursor.fn, s.curFn.blocks.length⟩ := by
    refine ⟨hk.fn.symm, ?_⟩
    simp [State.curFn_addBlock hs.placed.1]
  obtain ⟨n, p⟩ := hf ⟨s.cursor.fn, s.curFn.blocks.length⟩ ctx (s.addBlock l)
    (hs.of_keeps hk (hs.placed.addBlock l)) fun c h => by
      rcases List.mem_cons.1 h with rfl | h
      · exact hnew
      · exact (hc c h).grows g
  exact ⟨n, fun b u hu => ⟨(p b u hu).1, g.trans (p b u hu).2⟩⟩

theorem setCursor_safe {c : Cursor} (hc : c ∈ cs) :
    Safe cs (modify fun s => { s with cursor := c } : LowerM Unit) :=
  Safe.of_run (v := fun _ => ()) (fun _ _ => rfl) fun _ hs hcs =>
    ⟨hs.setCursor (hcs c hc), Widens.of_same rfl (hcs c hc).1 rfl⟩

theorem switchTo_safe {c : Cursor} (hc : c ∈ cs) : Safe cs (switchTo c.block) :=
  Safe.of_run (v := fun _ => ()) (switchTo_run · · c.block) fun s hs hcs =>
    ⟨hs.setCursor (c := { s.cursor with block := c.block }) ⟨rfl, (hcs c hc).2⟩,
      Widens.of_same rfl rfl rfl⟩

theorem pushLoop_safe {c e : Cursor} (hc : c ∈ cs) (he : e ∈ cs) (loop : LoopId) :
    Safe cs (pushLoop ⟨loop, c.block, e.block⟩) :=
  Safe.of_run (v := fun _ => ()) (pushLoop_run · · _) fun s hs hcs =>
    ⟨hs.of_same rfl rfl rfl (fun fr hfr => by
      rcases List.mem_cons.1 hfr with rfl | hfr
      · exact ⟨(hcs c hc).2, (hcs e he).2⟩
      · exact hs.loops fr hfr) hs.landing, Widens.of_same rfl rfl rfl⟩

theorem popLoop_safe : Safe cs popLoop :=
  Safe.of_run (v := fun _ => ()) (popLoop_run · ·) fun _ hs _ =>
    ⟨hs.of_same rfl rfl rfl (fun fr hfr => hs.loops fr (List.mem_of_mem_tail hfr)) hs.landing,
      Widens.of_same rfl rfl rfl⟩

theorem setLanding_safe {o : Option Nat} (ho : ∀ l, o = some l → ∃ c ∈ cs, c.block = l) :
    Safe cs (setLanding o) :=
  Safe.of_run (v := fun _ => ()) (setLanding_run · · o) fun s hs hcs =>
    ⟨hs.of_same rfl rfl rfl hs.loops fun l hl => by
      obtain ⟨c, hc, rfl⟩ := ho l hl
      exact (hcs c hc).2, Widens.of_same rfl rfl rfl⟩

theorem bindLocal_safe (l : Tree.LocalId) (o : Operand) : Safe cs (bindLocal l o) :=
  Safe.of_other (v := fun _ => ()) (bindLocal_run · · l o) (fun _ => rfl) (fun _ => rfl)
    (fun _ => rfl) (fun _ => rfl) fun _ => rfl

theorem softFailure_safe (code : Code) (message : String) (span : Span) :
    Safe cs (softFailure code message span) :=
  Safe.of_other (v := fun _ => ()) (softFailure_run · · code message span) (fun _ => rfl)
    (fun _ => rfl) (fun _ => rfl) (fun _ => rfl) fun _ => rfl

theorem Safe.forM {γ : Type} {f : γ → LowerM PUnit} (hf : ∀ x, Safe cs (f x)) :
    ∀ xs : List γ, Safe cs (xs.forM f)
  | [] => Safe.pure _
  | x :: xs => (hf x).bind fun _ => Safe.forM hf xs

theorem findLoop_safe (loop : LoopId) (e : LoopExit) (span : Span) :
    Safe cs (findLoop loop e span) := by
  intro ctx s hs _
  rw [findLoop_run]
  cases s.loops.find? (·.loop == loop) with
  | none => exact ⟨NoPanic.lowering _, fun _ _ h => by cases h⟩
  | some fr => exact ⟨NoPanic.ok _, fun _ _ h => by cases h; exact ⟨hs, Widens.refl _⟩⟩

end Primitives

/-! ## Declarations and classes

Looking a declaration up only reads; registering a class or a function appends to the
program and never fails. -/

section Lookups

variable {cs : List Cursor}

theorem classInfo?_safe (id : DefId) : Safe cs (classInfo? id) :=
  Safe.of_reads fun ctx s _ => ⟨_, classInfo?_run ctx s id⟩

theorem className_safe (id : DefId) : Safe cs (className id) :=
  Safe.of_reads fun ctx s _ => ⟨_, className_run ctx s id⟩

theorem returnsUnit_safe (target : DefId) : Safe cs (returnsUnit target) :=
  Safe.of_reads fun ctx s _ => ⟨_, returnsUnit_run ctx s target⟩

theorem klassId_safe (cls : DefId) : Safe cs (klassId cls) :=
  Safe.of_registers (klassId_ok cls) fun _ _ _ _ h => (klassId_registers h).1

theorem lowerType_safe (ty : Tree.Ty) : Safe cs (lowerType ty) :=
  Safe.of_registers (lowerType_ok ty) fun _ _ _ _ h => lowerType_registers h

theorem calleeFor_safe (callee : Tree.Callee) (args : List Operand) (ret : Graph.Ty) :
    Safe cs (calleeFor callee args ret) :=
  Safe.of_registers (declaredFunction_ok _ _ _ _) fun _ _ _ _ h => (calleeFor_registers h).1

end Lookups


/-! ## The steps of a lowering -/

section Steps

variable {cs : List Cursor}

theorem finishArm_safe (v : Operand) (result : Option Var) (exit : Nat) :
    Safe cs (finishArm v result exit) := by
  unfold finishArm
  refine isTerminated_safe.bind fun _ => Safe.ite (Safe.pure _) ?_
  cases result with
  | none => exact (emit_safe _).bind fun _ => Safe.pure _
  | some r => exact (emit_safe _).bind fun _ => (emit_safe _).bind fun _ => Safe.pure _

theorem generateCall_safe (callee : Nat) (ret : Graph.Ty) (args : List Operand) :
    Safe cs (generateCall callee ret args) := by
  unfold generateCall
  dsimp only
  -- both ways to the result variable go on with the same call
  refine Safe.ite ((Safe.pure none).bind ?call) ((freshVar_safe ret).map.bind ?call)
  intro dst
  refine Safe.get_bind fun x => ?_
  split
  · -- an invoke goes on at a new block
    exact Safe.newBlock_bind _ fun c => (emit_safe _).bind fun _ =>
      (switchTo_safe List.mem_cons_self).bind fun _ => Safe.pure _
  · exact (emit_safe _).bind fun _ => Safe.pure _

theorem coerceInteger_safe (v : Operand) (target : Tree.Ty) : Safe cs (coerceInteger v target) := by
  unfold coerceInteger
  exact Safe.ite (Safe.pure _) ((lowerType_safe target).bind fun _ => Safe.read_bind fun _ =>
    Safe.ite (Safe.pure _) ((freshVar_safe _).bind fun _ => emit_safe _))

theorem applyIntrinsic_safe (intr : Intrinsic) (name : String) (args : List Operand)
    (ty : Tree.Ty) (span : Span) : Safe cs (applyIntrinsic intr name args ty span) := by
  unfold applyIntrinsic
  extract_lets arg op rule
  have hrule : ∀ u, Safe cs (rule u) := by
    intro u
    cases intr
    case areEqualByValue | ptrPlusLong => exact (freshVar_safe _).bind fun _ => emit_safe _
    case getContinuation | interpretPointer | rawValue | nullPtr => exact Safe.pure _
    case readPrimitive =>
      exact (lowerType_safe _).bind fun _ => (freshVar_safe _).bind fun _ => (emit_safe _).bind
        fun _ => (freshVar_safe _).bind fun _ => emit_safe _
    case writePrimitive =>
      exact (freshVar_safe _).bind fun _ => (emit_safe _).bind fun _ => (emit_safe _).bind
        fun _ => Safe.pure _
    case pointerSize => exact Safe.read_bind fun _ => Safe.pure _
    case ptrToLong =>
      exact (lowerType_safe _).bind fun _ => Safe.ite (Safe.pure _)
        ((freshVar_safe _).bind fun _ => emit_safe _)
  -- the arity check comes first
  split
  · exact Safe.ite (Safe.throw_bind _) (hrule ())
  · exact hrule ()

theorem fieldOffset_safe (field : Tree.FieldRef) (receiverTy : Tree.Ty) (span : Span) :
    Safe cs (fieldOffset field receiverTy span) := by
  unfold fieldOffset
  split
  · refine (klassId_safe _).bind fun _ => Safe.get_bind fun _ => ?_
    split
    · exact Safe.pure _
    · exact (className_safe _).bind fun _ => Safe.throw_lowering _
  · exact Safe.throw_lowering _

theorem objectValue_safe (cls : DefId) (span : Span) : Safe cs (objectValue cls span) := by
  unfold objectValue
  refine (classInfo?_safe cls).bind fun _ => Safe.ite (Safe.pure _) ?_
  refine (klassId_safe cls).bind fun _ => (className_safe cls).bind fun _ =>
    (freshVar_safe _).bind fun _ => (emit_safe _).bind fun _ => (freshVar_safe _).bind fun _ =>
    (emit_safe _).bind fun _ => ?_
  -- the initialization block is entered and left for the continuation block
  exact Safe.newBlock_bind _ fun cont => Safe.newBlock_bind _ fun init => (emit_safe _).bind fun _ =>
    (switchTo_safe (by simp)).bind fun _ => (softFailure_safe _ _ _).bind fun _ =>
    (emit_safe _).bind fun _ => (switchTo_safe (c := cont) (by simp)).bind fun _ => Safe.pure _

theorem unsupportedNode_safe (what : String) (span : Span) : Safe cs (unsupportedNode what span) :=
  (softFailure_safe _ _ _).bind fun _ => Safe.pure _

theorem resultVar_safe (ty : Tree.Ty) : Safe cs (resultVar ty) := by
  unfold resultVar
  exact Safe.ite (Safe.pure _) ((lowerType_safe ty).bind fun _ => (freshVar_safe _).map)

end Steps

/-! ## Lowerings

A loop holds its check and exit blocks while its body is lowered, a `when` and a `try` hold
their exit block through their arms, and a `try` holds the block it started in and the landing
block around it while it lowers its handlers. -/

section Lowering

variable {cs : List Cursor}

theorem whileLoop_safe {loop : LoopId} {cond : Expr} {body : Option Expr} {ty span}
    (hcond : Safe [] (lowerExpr cond)) (hbody : Safe [] (lowerOpt body)) :
    Safe cs (lowerKind (.whileLoop loop cond body) ty span) := by
  rw [lowerKind]
  refine Safe.newBlock_bind _ fun check => Safe.newBlock_bind _ fun bodyBlock =>
    Safe.newBlock_bind _ fun exit => ?_
  exact (emit_safe _).bind fun _ => (switchTo_safe (c := check) (by simp)).bind fun _ =>
    hcond.weaken.bind fun _ => (emit_safe _).bind fun _ =>
    (pushLoop_safe (c := check) (e := exit) (by simp) (by simp) loop).bind fun _ =>
    (switchTo_safe (c := bodyBlock) (by simp)).bind fun _ => hbody.weaken.bind fun _ =>
    (jumpIfOpen_safe _).bind fun _ => popLoop_safe.bind fun _ =>
    (switchTo_safe (c := exit) (by simp)).bind fun _ => Safe.pure _

theorem doWhile_safe {loop : LoopId} {cond : Expr} {body : Option Expr} {ty span}
    (hcond : Safe [] (lowerExpr cond)) (hbody : Safe [] (lowerOpt body)) :
    Safe cs (lowerKind (.doWhile loop cond body) ty span) := by
  rw [lowerKind]
  refine Safe.newBlock_bind _ fun check => Safe.newBlock_bind _ fun bodyBlock =>
    Safe.newBlock_bind _ fun exit => ?_
  exact (emit_safe _).bind fun _ =>
    (pushLoop_safe (c := check) (e := exit) (by simp) (by simp) loop).bind fun _ =>
    (switchTo_safe (c := bodyBlock) (by simp)).bind fun _ => hbody.weaken.bind fun _ =>
    (jumpIfOpen_safe _).bind fun _ => (switchTo_safe (c := check) (by simp)).bind fun _ =>
    hcond.weaken.bind fun _ => (emit_safe _).bind fun _ => popLoop_safe.bind fun _ =>
    (switchTo_safe (c := exit) (by simp)).bind fun _ => Safe.pure _

theorem lowerArms_cons_safe {cond res : Expr} {rest : List Arm} {result : Option Var}
    {c : Cursor} (hcond : Safe [] (lowerExpr cond)) (hres : Safe [] (lowerExpr res))
    (hrest : Safe [c] (lowerArms rest result c.block)) :
    Safe [c] (lowerArms (.mk cond res :: rest) result c.block) := by
  rw [lowerArms]
  refine Safe.ite (hres.weaken.bind fun _ => finishArm_safe _ _ _) ?_
  refine hcond.weaken.bind fun _ => Safe.newBlock_bind _ fun arm => ?_
  extract_lets test
  have htest : ∀ next : Cursor, Safe (next :: arm :: [c]) (test next.block) := fun next =>
    (emit_safe _).bind fun _ => (switchTo_safe (c := arm) (by simp)).bind fun _ =>
    hres.weaken.bind fun _ => (finishArm_safe _ _ _).bind fun _ =>
    (switchTo_safe (c := next) (by simp)).bind fun _ => hrest.mono (by simp)
  -- the next test's block: the exit after the last arm, else a new block
  split
  · rw [pure_bind]
    exact (htest c).mono (by simp)
  · exact Safe.newBlock_bind _ htest

theorem whenArms_safe {arms : List Arm} {ty span}
    (harms : ∀ result (c : Cursor), Safe [c] (lowerArms arms result c.block)) :
    Safe cs (lowerKind (.whenArms arms) ty span) := by
  rw [lowerKind]
  refine (resultVar_safe ty).bind fun result => Safe.newBlock_bind _ fun exit => ?_
  refine ((harms result exit).mono (by simp)).bind fun _ => Safe.get_bind fun _ => ?_
  extract_lets rest
  have hrest : ∀ u, Safe (exit :: cs) (rest u) := fun _ =>
    (switchTo_safe (c := exit) (by simp)).bind fun _ => Safe.pure _
  exact Safe.ite ((jumpIfOpen_safe _).bind hrest) (hrest ())

theorem tryCatch_safe {body : Expr} {catches : List Catch} {ty span}
    (hbody : Safe [] (lowerExpr body))
    (hcs : ∀ exn result (c : Cursor), Safe [c] (lowerHandlers catches exn result c.block)) :
    Safe cs (lowerKind (.tryCatch body catches) ty span) := by
  rw [lowerKind]
  refine (resultVar_safe ty).bind fun result => Safe.newBlock_bind _ fun exit =>
    Safe.get_held_bind fun x => ?_
  extract_lets outer rest
  -- the body, with the landing block around the `try` restored after it
  have hrest : ∀ u, Safe (x.held ++ exit :: cs) (rest u) := fun _ =>
    hbody.weaken.bind fun _ => (finishArm_safe _ _ _).bind fun _ =>
    (setLanding_safe fun _ hl => ⟨_, List.mem_append_left _ (State.landing_held hl), rfl⟩).bind
    fun _ => (switchTo_safe (c := exit) (by simp)).bind fun _ => Safe.pure _
  refine Safe.ite (Safe.get_held_bind fun y => ?_) (hrest ())
  -- the handlers, from a new landing block; then back at the block of the `try`
  exact Safe.newBlock_bind _ fun header => (switchTo_safe (c := header) (by simp)).bind fun _ =>
    (freshVar_safe _).bind fun exn => (emit_safe _).bind fun _ =>
    (Safe.forM (fun c => by cases c; exact bindLocal_safe _ _) catches).bind fun _ =>
    ((hcs _ result exit).mono (by simp)).bind fun _ =>
    (setCursor_safe (c := y.cursor) (by simp [State.held])).bind fun _ =>
    (setLanding_safe fun _ hl => ⟨header, by simp, by cases hl; rfl⟩).bind fun u =>
    (hrest u).mono fun _ h => List.mem_cons_of_mem _ (List.mem_append_right _ h)

theorem lowerHandlers_last_safe {c : Catch} {exn : Operand} {result : Option Var} {d : Cursor}
    (hres : Safe [] (lowerExpr c.result)) : Safe [d] (lowerHandlers [c] exn result d.block) := by
  cases c
  rw [lowerHandlers]
  exact hres.weaken.bind fun _ => finishArm_safe _ _ _

theorem lowerHandlers_test_safe {c c' : Catch} {rest : List Catch} {exn : Operand}
    {result : Option Var} {d : Cursor} (hres : Safe [] (lowerExpr c.result))
    (hrest : Safe [d] (lowerHandlers (c' :: rest) exn result d.block)) :
    Safe [d] (lowerHandlers (c :: c' :: rest) exn result d.block) := by
  cases c
  rw [lowerHandlers]
  swap
  · exact List.cons_ne_nil _ _
  -- the handler's body and the next test are two new blocks
  exact (lowerType_safe _).bind fun _ => (freshVar_safe _).bind fun _ => (emit_safe _).bind fun _ =>
    Safe.newBlock_bind _ fun bodyBlock => Safe.newBlock_bind _ fun next => (emit_safe _).bind fun _ =>
    (switchTo_safe (c := bodyBlock) (by simp)).bind fun _ => hres.weaken.bind fun _ =>
    (finishArm_safe _ _ _).bind fun _ => (switchTo_safe (c := next) (by simp)).bind fun _ =>
    hrest.mono (by simp)

mutual

theorem lowerExpr_safe : ∀ (e : Expr), Safe [] (lowerExpr e)
  | .node k ty span => by
    rw [lowerExpr]
    exact lowerKind_safe k ty span

theorem lowerKind_safe : ∀ (k : ExprKind) (ty : Tree.Ty) (span : Span), Safe [] (lowerKind k ty span)
  | .literal v, ty, span => by
    rw [lowerKind]
    exact Safe.pure _
  | .typeOp op arg operand, ty, span => by
    have harg := lowerExpr_safe arg
    cases op <;> rw [lowerKind]
    case cast | safeCast | instanceOf | notInstanceOf =>
      exact harg.bind fun _ => (lowerType_safe _).bind fun _ => (freshVar_safe _).bind fun _ =>
        emit_safe _
    case implicitCast => exact harg
    case implicitNotNull => exact harg.bind fun _ => (softFailure_safe _ _ _).bind fun _ => Safe.pure _
    case coercionToUnit => exact harg.bind fun _ => Safe.pure _
    case integerCoercion =>
      exact Safe.ite (Safe.throw_bind _) (harg.bind fun _ => coerceInteger_safe _ _)
  | .call callee dispatch extension args, ty, span => by
    rw [lowerKind]
    have hd := lowerOpt_safe dispatch
    have he := lowerOpt_safe extension
    have ha := lowerList_safe args
    split
    · split
      · exact hd.bind fun _ => he.bind fun _ => ha.bind fun _ => applyIntrinsic_safe _ _ _ _ _
      · exact Safe.throw_lowering _
    · exact hd.bind fun _ => he.bind fun _ => ha.bind fun _ => (lowerType_safe _).bind fun _ =>
        (freshVar_safe _).bind fun _ => emit_safe _
    · exact (klassId_safe _).bind fun _ => (freshVar_safe _).bind fun _ => (emit_safe _).bind fun _ =>
        hd.bind fun _ => he.bind fun _ => ha.bind fun _ => (calleeFor_safe _ _ _).bind fun _ =>
        (generateCall_safe _ _ _).bind fun _ => Safe.pure _
    · exact hd.bind fun _ => he.bind fun _ => ha.bind fun _ => (lowerType_safe _).bind fun _ =>
        (calleeFor_safe _ _ _).bind fun _ => generateCall_safe _ _ _
  | .delegatingCall callee args, ty, span => by
    rw [lowerKind]
    refine currentFunction_safe.bind fun _ => ?_
    split
    · exact (lowerList_safe args).bind fun _ => (calleeFor_safe _ _ _).bind fun _ =>
        generateCall_safe _ _ _
    · exact Safe.throw_lowering _
  | .instanceInit cls, ty, span => by
    rw [lowerKind]
    exact Safe.pure _
  | .block stmts, ty, span => by
    rw [lowerKind]
    exact lowerBlock_safe stmts
  | .whileLoop loop cond body, ty, span => whileLoop_safe (lowerExpr_safe cond) (lowerOpt_safe body)
  | .doWhile loop cond body, ty, span => doWhile_safe (lowerExpr_safe cond) (lowerOpt_safe body)
  | .breakLoop loop, ty, span => by
    rw [lowerKind]
    exact (findLoop_safe _ _ _).bind fun _ => (emit_safe _).bind fun _ => Safe.pure _
  | .continueLoop loop, ty, span => by
    rw [lowerKind]
    exact (findLoop_safe _ _ _).bind fun _ => (emit_safe _).bind fun _ => Safe.pure _
  | .ret target value, ty, span => by
    rw [lowerKind]
    exact (lowerExpr_safe value).bind fun _ => (emit_safe _).bind fun _ =>
      (returnsUnit_safe _).bind fun _ => Safe.ite (Safe.pure _) (Safe.pure _)
  | .whenArms arms, ty, span => whenArms_safe (lowerArms_safe arms)
  | .declare var name varTy init, ty, span => by
    rw [lowerKind]
    exact (lowerOpt_safe init).bind fun _ => (bindLocal_safe _ _).bind fun _ => Safe.pure _
  | .assign var name value, ty, span => by
    rw [lowerKind]
    exact (lowerExpr_safe value).bind fun _ => (emit_safe _).bind fun _ =>
      (bindLocal_safe _ _).bind fun _ => Safe.pure _
  | .read var name, ty, span => by
    rw [lowerKind]
    refine Safe.get_bind fun _ => ?_
    split
    · exact Safe.pure _
    · exact (softFailure_safe _ _ _).bind fun _ => Safe.pure _
  | .vararg elems, ty, span => by
    rw [lowerKind]
    exact (lowerVararg_safe elems).bind fun _ => (lowerType_safe _).bind fun _ => Safe.pure _
  | .throw value, ty, span => by
    rw [lowerKind]
    exact (lowerExpr_safe value).bind fun _ => (softFailure_safe _ _ _).bind fun _ => Safe.pure _
  | .tryCatch body catches, ty, span =>
    tryCatch_safe (lowerExpr_safe body) (lowerHandlers_safe catches)
  | .getField field none, ty, span => by
    rw [lowerKind]
    refine (Safe.pure _).bind fun p => ?_
    obtain ⟨address, offset⟩ := p
    exact (lowerType_safe _).bind fun _ => (freshVar_safe _).bind fun _ => emit_safe _
  | .getField field (some r), ty, span => by
    rw [lowerKind]
    refine (fieldOffset_safe _ _ _).bind fun _ => (lowerExpr_safe r).bind fun _ =>
      (Safe.pure _).bind fun p => ?_
    obtain ⟨address, offset⟩ := p
    exact (lowerType_safe _).bind fun _ => (freshVar_safe _).bind fun _ => emit_safe _
  | .setField field none value, ty, span => by
    rw [lowerKind]
    refine (Safe.pure _).bind fun p => ?_
    obtain ⟨address, offset⟩ := p
    exact (lowerExpr_safe value).bind fun _ => (emit_safe _).bind fun _ => Safe.pure _
  | .setField field (some r) value, ty, span => by
    rw [lowerKind]
    refine (fieldOffset_safe _ _ _).bind fun _ => (lowerExpr_safe r).bind fun _ =>
      (Safe.pure _).bind fun p => ?_
    obtain ⟨address, offset⟩ := p
    exact (lowerExpr_safe value).bind fun _ => (emit_safe _).bind fun _ => Safe.pure _
  | .objectValue cls, ty, span => by
    rw [lowerKind]
    exact objectValue_safe _ _
  | .stringConcat args, ty, span => by
    rw [lowerKind]
    exact unsupportedNode_safe _ _
  | .classReference cls, ty, span => by
    rw [lowerKind]
    exact unsupportedNode_safe _ _
  | .functionReference fn, ty, span => by
    rw [lowerKind]
    exact unsupportedNode_safe _ _
  | .enumEntry cls name, ty, span => by
    rw [lowerKind]
    exact unsupportedNode_safe _ _

theorem lowerOpt_safe : ∀ (e : Option Expr), Safe [] (lowerOpt e)
  | none => by
    rw [lowerOpt]
    exact Safe.pure _
  | some e => by
    rw [lowerOpt]
    exact (lowerExpr_safe e).map

theorem lowerList_safe : ∀ (es : List Expr), Safe [] (lowerList es)
  | [] => by
    rw [lowerList]
    exact Safe.pure _
  | e :: es => by
    rw [lowerList]
    exact (lowerExpr_safe e).bind fun _ => (lowerList_safe es).bind fun _ => Safe.pure _

theorem lowerBlock_safe : ∀ (es : List Expr), Safe [] (lowerBlock es)
  | [] => by
    rw [lowerBlock]
    exact Safe.pure _
  | [e] => by
    rw [lowerBlock]
    exact lowerExpr_safe e
  | e :: e' :: es => by
    rw [lowerBlock]
    · exact (lowerExpr_safe e).bind fun _ => lowerBlock_safe (e' :: es)
    · exact List.cons_ne_nil _ _

theorem lowerArms_safe : ∀ (arms : List Arm) (result : Option Var) (c : Cursor),
    Safe [c] (lowerArms arms result c.block)
  | [], result, c => by
    rw [lowerArms]
    exact Safe.pure _
  | .mk cond res :: rest, result, c =>
    lowerArms_cons_safe (lowerExpr_safe cond) (lowerExpr_safe res) (lowerArms_safe rest result c)

theorem lowerHandlers_safe : ∀ (catches : List Catch) (exn : Operand) (result : Option Var)
    (c : Cursor), Safe [c] (lowerHandlers catches exn result c.block)
  | [], exn, result, c => by
    rw [lowerHandlers]
    exact Safe.pure _
  | [.mk param name ty res], exn, result, c => lowerHandlers_last_safe (lowerExpr_safe res)
  | .mk param name ty res :: c' :: rest, exn, result, c =>
    lowerHandlers_test_safe (lowerExpr_safe res) (lowerHandlers_safe (c' :: rest) exn result c)

theorem lowerVararg_safe : ∀ (elems : List VarargElem), Safe [] (lowerVararg elems)
  | [] => by
    rw [lowerVararg]
    exact Safe.pure _
  | .value e :: rest => by
    rw [lowerVararg]
    exact (lowerExpr_safe e).bind fun _ => (lowerVararg_safe rest).bind fun _ => Safe.pure _
  | .spread e :: rest => by
    rw [lowerVararg]
    exact Safe.throw_lowering _

end

end Lowering

/-! ## Declarations

Between declarations selection is `Ready`, and so in bounds. A function body starts at a new
entry block of a function that exists, and a field initializer at the end of the global
initializer; both are lowerings, which are safe. -/

section Declarations

variable {cs : List Cursor} {ctx : Context} {s : State}

theorem Ready.inBounds (hr : Ready s) : InBounds s where
  cursor := hr.built.cursor
  loops := by simp [hr.loops]
  landing := by simp [hr.landing]
  global := hr.global
  globalInit := by
    rw [hr.globalInit]
    exact Nat.lt_of_le_of_lt (Nat.zero_le _) hr.global.1

theorem Ready.inBounds_field (hr : Ready s) :
    InBounds { s with env := [], landing := none, current := none, cursor := s.globalCursor } :=
  ⟨hr.global, by simp [hr.loops], by simp, hr.global, hr.inBounds.globalInit⟩

theorem Ready.inBounds_beginFunction (hr : Ready s) {fn : Nat}
    (hfn : fn < s.program.functions.length) :
    InBounds { s.mapFn fn (·.addBlock "entry") with cursor := ⟨fn, (s.fn fn).blocks.length⟩ } := by
  have hl := State.length_mapFn s fn (·.addBlock "entry")
  have grow : ∀ i, (s.fn i).blocks.length ≤ ((s.mapFn fn (·.addBlock "entry")).fn i).blocks.length :=
    fun i => by
      rw [State.fn_mapFn_at hfn]
      split
      · simp
      · exact Nat.le_refl _
  refine ⟨⟨?_, ?_⟩, by simp [State.mapFn, hr.loops], by simp [State.mapFn, hr.landing], ⟨?_, ?_⟩, ?_⟩
  · show fn < _
    rw [hl]
    exact hfn
  · show _ < ((s.mapFn fn (·.addBlock "entry")).fn fn).blocks.length
    rw [State.fn_mapFn_self s _ hfn]
    simp
  · show s.globalCursor.fn < _
    rw [hl]
    exact hr.global.1
  · exact Nat.lt_of_lt_of_le hr.global.2 (grow _)
  · show s.program.globalInit < _
    rw [hl]
    exact hr.inBounds.globalInit

theorem enterBody_safe (d : FunctionDecl) :
    Safe cs (modify fun s : State =>
      { s with env := [], loops := [], landing := none, current := some d } : LowerM Unit) :=
  Safe.of_run (v := fun _ => ()) (fun _ _ => rfl) fun _ hs _ =>
    ⟨hs.of_same rfl rfl rfl (fun _ h => by cases h) (fun _ h => by cases h), Widens.of_same rfl rfl rfl⟩

theorem leaveBody_safe : Safe cs (modify fun s : State => { s with current := none } : LowerM Unit) :=
  Safe.of_other (v := fun _ => ()) (fun _ _ => rfl) (fun _ => rfl) (fun _ => rfl) (fun _ => rfl)
    (fun _ => rfl) fun _ => rfl

theorem selectFunction_noPanic {d : FunctionDecl} (hr : Ready s) :
    NoPanic (selectFunction d ctx s) := by
  unfold selectFunction
  split
  · exact NoPanic.ok _
  obtain ⟨fn, s₁, h₁⟩ := declaredFunction_ok d.defId d.name [] .void ctx s
  have hfn := declaredFunction_lt hr.built h₁
  have r₁ := hr.registers (declaredFunction_registers h₁).1
  rw [bind_of_ok h₁]
  cases d.body with
  | none => exact NoPanic.ok _
  | some body =>
    refine NoPanic.bind (by rw [beginFunction_run hfn]; exact NoPanic.ok _) fun _ t h => ?_
    obtain ⟨-, rfl⟩ := beginFunction_ok h
    refine ((?body : Safe [] _) ctx _ (r₁.inBounds_beginFunction hfn) fun _ h => by cases h).1
    refine (modifyFunction_safe (g := fun f => { f with span := d.span }) fun _ => rfl).bind fun _ =>
      (enterBody_safe d).bind fun _ => currentFunction_safe.bind fun _ =>
      (Safe.forM (fun (pv : Tree.Param × Var) => by obtain ⟨p, v⟩ := pv; exact bindLocal_safe _ _)
        _).bind fun _ => ?_
    extract_lets leave close
    -- a body left open returns its value
    have hclose : ∀ v, Safe [] (close v) := fun _ =>
      isTerminated_safe.bind fun _ => Safe.ite (leaveBody_safe) ((emit_safe _).bind fun _ => leaveBody_safe)
    cases body with
    | expression e => exact (lowerExpr_safe e).bind hclose
    | block stmts =>
      exact (Safe.forM (fun e => (lowerExpr_safe e).bind fun _ => Safe.pure _) stmts).bind fun _ =>
        (Safe.pure _).bind hclose
    | synthetic => exact Safe.throw_bind _

theorem visitField_noPanic {f : FieldDecl} (hr : Ready s) : NoPanic (visitField f ctx s) := by
  unfold visitField
  cases f.init with
  | none => exact NoPanic.ok _
  | some init =>
    split
    · exact NoPanic.ok _
    · refine NoPanic.bind (m := get) (NoPanic.ok _) fun _ t h => ?_
      cases h
      refine NoPanic.bind (NoPanic.ok _) fun _ t h => ?_
      cases h
      obtain ⟨n₁, p₁⟩ := lowerExpr_safe _ ctx _ hr.inBounds_field fun _ h => by cases h
      refine NoPanic.bind n₁ fun v t h => ?_
      obtain ⟨n₂, -⟩ := (emit_safe _ : Safe [] _) ctx t (p₁ v t h).1 fun _ h => by cases h
      exact NoPanic.bind n₂ fun _ _ _ => NoPanic.ok _

mutual

theorem visitDecl_noPanic : ∀ (d : Decl) {s : State}, Ready s → NoPanic (visitDecl d ctx s)
  | .klass c members, s, hr => by
    obtain ⟨k, s₁, h₁⟩ := klassId_ok c.defId ctx s
    rw [visitDecl, bind_of_ok h₁]
    exact visitDecls_noPanic members (hr.registers (klassId_registers h₁).1)
  | .function f, s, hr => by
    rw [visitDecl_function]
    exact selectFunction_noPanic hr
  | .field f, s, hr => by
    rw [visitDecl_field]
    exact visitField_noPanic hr

theorem visitDecls_noPanic : ∀ (ds : List Decl) {s : State}, Ready s → NoPanic (visitDecls ds ctx s)
  | [], s, hr => by
    rw [visitDecls]
    exact NoPanic.ok _
  | d :: ds, s, hr => by
    rw [visitDecls]
    refine NoPanic.bind (visitDecl_noPanic d hr) fun u t h => ?_
    exact visitDecls_noPanic ds (visitDecl_ready d hr h)

end

theorem moduleRun_noPanic (m : Module) (cfg : Config) : NoPanic (moduleRun m cfg) := by
  unfold moduleRun
  refine NoPanic.map (NoPanic.bind (visitDecls_noPanic m.decls (Ready.start _)) fun u t h => ?_)
  dsimp only
  rw [finishGlobalInit_run (visitDecls_ready m.decls (Ready.start _) h)]
  exact NoPanic.ok _

theorem select_noPanic (m : Module) (cfg : Config) : NoPanic (select m cfg) := by
  rw [select_eq_map]
  exact (moduleRun_noPanic m cfg).map

theorem selectModule_eq_error {m : Module} {cfg : Config} {e : LowerError} :
    selectModule m cfg = .error e ↔ select m cfg = .error (.lowering e) := by
  unfold selectModule
  cases h : select m cfg with
  | ok sel => simp
  | error f =>
    cases f with
    | lowering e' => simp
    | outOfRange n i => exact absurd h (select_noPanic m cfg n i)

end Declarations

/-- Selection never panics. Every step of the builder that indexes the program, run in bounds,
does not panic and stays in bounds; so does the lowering of any expression, failing runs
included, whatever blocks its caller holds. Selection starts in bounds; a body starts in bounds
at its new entry block and an initializer at the end of the global initializer; every
declaration visited where selection is ready runs without a panic. So selection of any module
under any configuration ends with a selection or with a failure on a node, and that is what is
reported. -/
theorem selection_never_panics :
    (Safe [] currentFunction ∧ Safe [] isTerminated ∧ (∀ l, Safe [] (newBlock l)) ∧
      (∀ ty, Safe [] (freshVar ty)) ∧ (∀ i, Safe [] (emit i)) ∧ (∀ b, Safe [] (jumpIfOpen b))) ∧
    (∀ e : Expr, Safe [] (lowerExpr e)) ∧
    (∀ name, InBounds (State.start name)) ∧
    (∀ (ctx : Context) (s : State) (fn : Nat), Ready s → fn < s.program.functions.length →
      ∃ t, beginFunction fn ctx s = .ok ((), t) ∧ InBounds t) ∧
    (∀ s : State, Ready s →
      InBounds { s with env := [], landing := none, current := none, cursor := s.globalCursor }) ∧
    (∀ (ctx : Context) (ds : List Decl) (s : State), Ready s → NoPanic (visitDecls ds ctx s)) ∧
    (∀ (m : Module) (cfg : Config), NoPanic (select m cfg)) ∧
    (∀ (m : Module) (cfg : Config) (e : LowerError),
      selectModule m cfg = .error e ↔ select m cfg = .error (.lowering e)) := by
  refine ⟨⟨currentFunction_safe, isTerminated_safe, newBlock_safe, freshVar_safe, emit_safe,
    jumpIfOpen_safe⟩, lowerExpr_safe, fun name => (Ready.start name).inBounds, ?_,
    fun _ hr => hr.inBounds_field, fun _ ds _ hr => visitDecls_noPanic ds hr, select_noPanic,
    fun _ _ _ => selectModule_eq_error⟩
  intro ctx s fn hr hfn
  exact ⟨_, beginFunction_run hfn, hr.inBounds_beginFunction hfn⟩

/-- A `break` outside any loop, lowered from the start of selection, fails on its node; the
declarations of `retryModule`, visited from there, run without a panic. -/
theorem strayBreak_never_panics :
    InBounds (State.start "init") ∧
      NoPanic (lowerExpr (.node (.breakLoop ⟨0⟩) .nothing ⟨0, 0, 1, 1⟩)
        (moduleContext retryModule {}) (State.start "init")) ∧
    Ready (State.start "init") ∧
      NoPanic (visitDecls retryModule.decls (moduleContext retryModule {}) (State.start "init")) :=
  have h := selection_never_panics
  ⟨h.2.2.1 "init", (h.2.1 _ _ _ (h.2.2.1 "init") fun _ h => by cases h).1, Ready.start "init",
    h.2.2.2.2.2.1 _ _ _ (Ready.start "init")⟩

end Isel.Lower
