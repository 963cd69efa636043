import Isel.Lower.Module

/-!
# Running selection step by step

Selection runs in `LowerM`: it reads the module, changes a `State` and may fail. A `do` block
succeeds exactly when each of its steps succeeds on the state the step before left, and
`bind_ok` takes such a run apart. Each primitive of the builder then gets its effect as an
equation, in terms of a few operations on the state: the function at a position, the block at
the cursor, appending a block, moving the cursor and appending an instruction. Registering
functions and classes only appends to the program and to the tables (`Registers`).
-/

namespace Isel.Graph.Function

def addBlock (f : Function) (label : String) : Function :=
  { f with blocks := f.blocks ++ [⟨label, []⟩] }

def pushAt (f : Function) (b : Nat) (i : Instr) : Function :=
  { f with blocks := f.blocks.modify b fun bl => { bl with instrs := bl.instrs ++ [i] } }

def bump (f : Function) : Function := { f with nextVar := f.nextVar + 1 }

@[simp] theorem addBlock_blocks (f : Function) (l : String) :
    (f.addBlock l).blocks = f.blocks ++ [⟨l, []⟩] := rfl

@[simp] theorem pushAt_blocks (f : Function) (b : Nat) (i : Instr) :
    (f.pushAt b i).blocks = f.blocks.modify b fun bl => { bl with instrs := bl.instrs ++ [i] } := rfl

@[simp] theorem bump_blocks (f : Function) : f.bump.blocks = f.blocks := rfl

@[simp] theorem addBlock_params (f : Function) (l : String) : (f.addBlock l).params = f.params := rfl
@[simp] theorem pushAt_params (f : Function) (b : Nat) (i : Instr) : (f.pushAt b i).params = f.params := rfl
@[simp] theorem bump_params (f : Function) : f.bump.params = f.params := rfl

end Isel.Graph.Function

def Isel.Tree.Catch.param : Isel.Tree.Catch → Isel.Tree.LocalId
  | .mk p _ _ _ => p

def Isel.Tree.Catch.ty : Isel.Tree.Catch → Isel.Tree.Ty
  | .mk _ _ t _ => t

def Isel.Tree.Catch.result : Isel.Tree.Catch → Isel.Tree.Expr
  | .mk _ _ _ r => r

namespace Isel.Lower

open Isel.Graph (Operand Instr Var Block Function Program)
open Isel.Tree (DefId LoopId Decl FunctionDecl ClassInfo)

variable {α β : Type}

/-! ## Runs of `do` blocks -/

theorem bind_run (x : LowerM α) (f : α → LowerM β) (ctx : Context) (s : State) :
    (x >>= f) ctx s = match x ctx s with
      | .ok (a, t) => f a ctx t
      | .error e => .error e := by
  show Except.bind _ _ = _
  cases x ctx s <;> rfl

theorem bind_ok {x : LowerM α} {f : α → LowerM β} {ctx : Context} {s s' : State} {b : β}
    (h : (x >>= f) ctx s = .ok (b, s')) :
    ∃ a t, x ctx s = .ok (a, t) ∧ f a ctx t = .ok (b, s') := by
  rw [bind_run] at h
  split at h
  · exact ⟨_, _, ‹_›, h⟩
  · cases h

theorem bind_of_ok {x : LowerM α} {f : α → LowerM β} {ctx : Context} {s t : State} {a : α}
    (h : x ctx s = .ok (a, t)) : (x >>= f) ctx s = f a ctx t := by
  rw [bind_run, h]

theorem map_run (f : α → β) (x : LowerM α) (ctx : Context) (s : State) :
    (f <$> x) ctx s = match x ctx s with
      | .ok (a, t) => .ok (f a, t)
      | .error e => .error e := by
  show Except.map _ _ = _
  cases x ctx s <;> rfl

theorem map_ok {f : α → β} {x : LowerM α} {ctx : Context} {s s' : State} {b : β}
    (h : (f <$> x) ctx s = .ok (b, s')) : ∃ a, x ctx s = .ok (a, s') ∧ b = f a := by
  rw [map_run] at h
  split at h
  · cases h
    exact ⟨_, ‹_›, rfl⟩
  · cases h

theorem pure_ok {a b : α} {ctx : Context} {s s' : State}
    (h : (pure a : LowerM α) ctx s = .ok (b, s')) : b = a ∧ s' = s := by
  cases h
  exact ⟨rfl, rfl⟩

theorem throw_ok {e : Fault} {ctx : Context} {s s' : State} {b : α}
    (h : (throw e : LowerM α) ctx s = .ok (b, s')) : False := by
  cases h

/-! ## Operations on the state -/

namespace State

def fn (s : State) (i : Nat) : Function := s.program.functions.getD i default

def curFn (s : State) : Function := s.fn s.cursor.fn

def curBlock (s : State) : Block := s.curFn.blocks.getD s.cursor.block default

def mapFn (s : State) (i : Nat) (f : Function → Function) : State :=
  { s with program := { s.program with functions := s.program.functions.modify i f } }

def warn (s : State) (code : Code) (message : String) (span : Span) : State :=
  { s with diagnostics := s.diagnostics ++ [Diagnostic.coded .warning code message span] }

def moveTo (s : State) (b : Nat) : State := { s with cursor := { s.cursor with block := b } }

def addBlock (s : State) (label : String) : State := s.mapFn s.cursor.fn (·.addBlock label)

def reopen (s : State) : State :=
  if s.curBlock.isTerminal then (s.addBlock "unreachable").moveTo s.curFn.blocks.length else s

def push (s : State) (i : Instr) : State := s.mapFn s.cursor.fn (·.pushAt s.cursor.block i)

@[simp] theorem mapFn_cursor (s : State) (i : Nat) (f : Function → Function) :
    (s.mapFn i f).cursor = s.cursor := rfl
@[simp] theorem moveTo_cursor (s : State) (b : Nat) :
    (s.moveTo b).cursor = { s.cursor with block := b } := rfl
@[simp] theorem addBlock_cursor (s : State) (l : String) : (s.addBlock l).cursor = s.cursor := rfl
@[simp] theorem push_cursor (s : State) (i : Instr) : (s.push i).cursor = s.cursor := rfl
@[simp] theorem curFn_moveTo (s : State) (b : Nat) : (s.moveTo b).curFn = s.curFn := rfl
@[simp] theorem program_moveTo (s : State) (b : Nat) : (s.moveTo b).program = s.program := rfl
@[simp] theorem fn_moveTo (s : State) (b i : Nat) : (s.moveTo b).fn i = s.fn i := rfl

theorem length_mapFn (s : State) (i : Nat) (f : Function → Function) :
    (s.mapFn i f).program.functions.length = s.program.functions.length := by
  simp [mapFn]

theorem fn_mapFn (s : State) (i j : Nat) (f : Function → Function) :
    (s.mapFn i f).fn j = if i = j ∧ i < s.program.functions.length then f (s.fn j) else s.fn j := by
  simp only [fn, mapFn, List.getD_eq_getElem?_getD, List.getElem?_modify]
  by_cases hij : i = j
  · subst hij
    by_cases hi : i < s.program.functions.length
    · simp [hi]
    · simp [hi]
  · simp [hij]

theorem fn_mapFn_of_ne (s : State) {i j : Nat} (f : Function → Function) (h : i ≠ j) :
    (s.mapFn i f).fn j = s.fn j := by
  simp [fn_mapFn, h]

theorem fn_mapFn_self (s : State) {i : Nat} (f : Function → Function)
    (h : i < s.program.functions.length) : (s.mapFn i f).fn i = f (s.fn i) := by
  simp [fn_mapFn, h]

def Placed (s : State) : Prop :=
  s.cursor.fn < s.program.functions.length ∧ s.cursor.block < s.curFn.blocks.length

theorem Placed.reopen {s : State} (h : s.Placed) : s.reopen.Placed := by
  unfold State.reopen
  split
  · refine ⟨?_, ?_⟩
    · simpa [addBlock, length_mapFn] using h.1
    · simp [curFn, addBlock, fn_mapFn_self s _ h.1]
  · exact h

end State

/-! ## The primitives -/

section Primitives

variable (ctx : Context) (s : State)

@[simp] theorem get_run : (get : LowerM State) ctx s = .ok (s, s) := rfl

@[simp] theorem read_run : (read : LowerM Context) ctx s = .ok (ctx, s) := rfl

@[simp] theorem pure_run (a : α) : (pure a : LowerM α) ctx s = .ok (a, s) := rfl

/-! Reading or writing at the cursor succeeds exactly when the cursor is placed: each of these
primitives has its effect as an equation under that condition (`_run`), and a success tells
that it held (`_ok`). -/

theorem functionAt_eq (i : Nat) : functionAt i ctx s =
    match s.program.functions[i]? with
    | some f => .ok (f, s)
    | none => .error (.outOfRange s.program.functions.length i) := by
  unfold functionAt
  simp only [bind_run, get_run]
  cases s.program.functions[i]? <;> rfl

theorem fn_eq_getElem {i : Nat} (h : i < s.program.functions.length) :
    s.fn i = s.program.functions[i] := by
  simp [State.fn, List.getD_eq_getElem?_getD, List.getElem?_eq_getElem h]

theorem functionAt_run {i : Nat} (h : i < s.program.functions.length) :
    functionAt i ctx s = .ok (s.fn i, s) := by
  rw [functionAt_eq, List.getElem?_eq_getElem h, fn_eq_getElem s h]

variable {ctx s}

theorem functionAt_ok {i : Nat} {f : Function} {t : State} (h : functionAt i ctx s = .ok (f, t)) :
    i < s.program.functions.length ∧ f = s.fn i ∧ t = s := by
  rw [functionAt_eq] at h
  split at h
  · rename_i hi
    cases h
    obtain ⟨hlt, hf⟩ := List.getElem?_eq_some_iff.1 hi
    exact ⟨hlt, by rw [fn_eq_getElem s hlt, hf], rfl⟩
  · cases h

variable (ctx s)

theorem currentFunction_run (h : s.cursor.fn < s.program.functions.length) :
    currentFunction ctx s = .ok (s.curFn, s) :=
  functionAt_run ctx s h

variable {ctx s}

theorem currentFunction_ok {f : Function} {t : State} (h : currentFunction ctx s = .ok (f, t)) :
    s.cursor.fn < s.program.functions.length ∧ f = s.curFn ∧ t = s :=
  functionAt_ok h

variable (ctx s)

theorem currentBlock_eq (h : s.cursor.fn < s.program.functions.length) : currentBlock ctx s =
    match s.curFn.blocks[s.cursor.block]? with
    | some b => .ok (b, s)
    | none => .error (.outOfRange s.curFn.blocks.length s.cursor.block) := by
  unfold currentBlock
  rw [bind_of_ok (currentFunction_run ctx s h)]
  simp only [bind_run, get_run]
  cases s.curFn.blocks[s.cursor.block]? <;> rfl

theorem currentBlock_run (h : s.Placed) : currentBlock ctx s = .ok (s.curBlock, s) := by
  rw [currentBlock_eq ctx s h.1, List.getElem?_eq_getElem h.2]
  simp [State.curBlock, List.getD_eq_getElem?_getD, List.getElem?_eq_getElem h.2]

variable {ctx s}

theorem currentBlock_ok {b : Block} {t : State} (h : currentBlock ctx s = .ok (b, t)) :
    s.Placed ∧ b = s.curBlock ∧ t = s := by
  obtain ⟨f, t₁, h₁, -⟩ := bind_ok h
  have hf := (currentFunction_ok h₁).1
  rw [currentBlock_eq ctx s hf] at h
  split at h
  · rename_i hb
    cases h
    refine ⟨⟨hf, (List.getElem?_eq_some_iff.1 hb).1⟩, ?_, rfl⟩
    simp [State.curBlock, List.getD_eq_getElem?_getD, hb]
  · cases h

variable (ctx s)

theorem isTerminated_run (h : s.Placed) : isTerminated ctx s = .ok (s.curBlock.isTerminal, s) := by
  unfold isTerminated
  rw [bind_of_ok (currentBlock_run ctx s h)]
  rfl

variable {ctx s}

theorem isTerminated_ok {b : Bool} {t : State} (h : isTerminated ctx s = .ok (b, t)) :
    s.Placed ∧ b = s.curBlock.isTerminal ∧ t = s := by
  obtain ⟨blk, t₁, h₁, h⟩ := bind_ok h
  obtain ⟨hp, rfl, rfl⟩ := currentBlock_ok h₁
  cases h
  exact ⟨hp, rfl, rfl⟩

variable (ctx s)

theorem newBlock_run (h : s.cursor.fn < s.program.functions.length) (l : String) :
    newBlock l ctx s = .ok (s.curFn.blocks.length, s.addBlock l) := by
  unfold newBlock
  rw [bind_of_ok (currentFunction_run ctx s h)]
  rfl

variable {ctx s}

theorem newBlock_ok {l : String} {b : Nat} {t : State} (h : newBlock l ctx s = .ok (b, t)) :
    s.cursor.fn < s.program.functions.length ∧ b = s.curFn.blocks.length ∧ t = s.addBlock l := by
  obtain ⟨f, t₁, h₁, -⟩ := bind_ok h
  have hf := (currentFunction_ok h₁).1
  rw [newBlock_run ctx s hf] at h
  cases h
  exact ⟨hf, rfl, rfl⟩

variable (ctx s)

@[simp] theorem switchTo_run (b : Nat) : switchTo b ctx s = .ok ((), s.moveTo b) := rfl

theorem freshVar_run (h : s.cursor.fn < s.program.functions.length) (ty : Graph.Ty) :
    freshVar ty ctx s =
      .ok (⟨ty, "%" ++ toString s.curFn.nextVar⟩, s.mapFn s.cursor.fn Function.bump) := by
  unfold freshVar
  rw [bind_of_ok (currentFunction_run ctx s h)]
  rfl

variable {ctx s}

theorem freshVar_ok {ty : Graph.Ty} {x : Var} {t : State} (h : freshVar ty ctx s = .ok (x, t)) :
    s.cursor.fn < s.program.functions.length ∧ x = ⟨ty, "%" ++ toString s.curFn.nextVar⟩ ∧
      t = s.mapFn s.cursor.fn Function.bump := by
  obtain ⟨f, t₁, h₁, -⟩ := bind_ok h
  have hf := (currentFunction_ok h₁).1
  rw [freshVar_run ctx s hf] at h
  cases h
  exact ⟨hf, rfl, rfl⟩

variable (ctx s)

@[simp] theorem modifyFunction_run (i : Nat) (f : Function → Function) :
    modifyFunction i f ctx s = .ok ((), s.mapFn i f) := rfl

theorem emit_run (h : s.Placed) (i : Instr) :
    emit i ctx s = .ok ((i.dst?.map Operand.var).getD .unit, s.reopen.push i) := by
  unfold emit
  rw [bind_of_ok (isTerminated_run ctx s h)]
  have hr := h.reopen
  by_cases ht : s.curBlock.isTerminal
  · have hr' : s.reopen = (s.addBlock "unreachable").moveTo s.curFn.blocks.length := by
      simp [State.reopen, ht]
    rw [hr'] at hr
    simp only [ht, if_true]
    rw [bind_of_ok (newBlock_run ctx s h.1 _), bind_of_ok (switchTo_run _ _ _),
      bind_of_ok (currentBlock_run ctx _ hr)]
    simp [hr', State.push, State.moveTo, State.addBlock, State.mapFn]
    rfl
  · have hr' : s.reopen = s := by simp [State.reopen, ht]
    rw [hr'] at hr
    simp only [ht, Bool.false_eq_true, if_false]
    rw [bind_of_ok (currentBlock_run ctx s hr)]
    simp [hr', State.push, State.mapFn]
    rfl

variable {ctx s}

theorem emit_ok {i : Instr} {v : Operand} {t : State} (h : emit i ctx s = .ok (v, t)) :
    s.Placed ∧ v = (i.dst?.map Operand.var).getD .unit ∧ t = s.reopen.push i := by
  obtain ⟨b, t₁, h₁, -⟩ := bind_ok h
  have hp := (isTerminated_ok h₁).1
  rw [emit_run ctx s hp] at h
  cases h
  exact ⟨hp, rfl, rfl⟩

variable (ctx s)

theorem jumpIfOpen_run (h : s.Placed) (t : Nat) :
    jumpIfOpen t ctx s = .ok ((), if s.curBlock.isTerminal then s else s.push (.br t)) := by
  unfold jumpIfOpen
  rw [bind_of_ok (isTerminated_run ctx s h)]
  by_cases ht : s.curBlock.isTerminal
  · simp only [ht, if_true]
    rfl
  · simp [ht, bind_run, emit_run ctx s h, State.reopen]

variable {ctx s}

theorem jumpIfOpen_ok {b : Nat} {t : State} (h : jumpIfOpen b ctx s = .ok ((), t)) :
    s.Placed ∧ t = if s.curBlock.isTerminal then s else s.push (.br b) := by
  obtain ⟨x, t₁, h₁, -⟩ := bind_ok h
  have hp := (isTerminated_ok h₁).1
  rw [jumpIfOpen_run ctx s hp] at h
  cases h
  exact ⟨hp, rfl⟩

variable (ctx s)

@[simp] theorem bindLocal_run (l : Tree.LocalId) (o : Operand) :
    bindLocal l o ctx s = .ok ((), { s with env := (l, o) :: s.env }) := rfl

@[simp] theorem pushLoop_run (fr : LoopFrame) :
    pushLoop fr ctx s = .ok ((), { s with loops := fr :: s.loops }) := rfl

@[simp] theorem popLoop_run : popLoop ctx s = .ok ((), { s with loops := s.loops.tail }) := rfl

@[simp] theorem setLanding_run (l : Option Nat) :
    setLanding l ctx s = .ok ((), { s with landing := l }) := rfl

theorem forM_bindLocal_run {γ : Type} (xs : List γ) (f : γ → LowerM PUnit)
    (key : γ → Tree.LocalId) (val : γ → Operand) (hf : ∀ x, f x = bindLocal (key x) (val x)) :
    xs.forM f ctx s = .ok ((), { s with env := (xs.map fun x => (key x, val x)).reverse ++ s.env }) := by
  induction xs generalizing s with
  | nil => rfl
  | cons x xs ih =>
    show (f x >>= fun _ => xs.forM f) ctx s = _
    rw [bind_run, hf, bindLocal_run]
    dsimp only
    rw [ih]
    simp

@[simp] theorem softFailure_run (code : Code) (message : String) (span : Span) :
    softFailure code message span ctx s = .ok ((), s.warn code message span) := rfl

end Primitives

/-! ## Looking declarations up

Declarations are looked up in the context alone; these are the values the lookups return. -/

namespace Context

def decl? (ctx : Context) (id : DefId) : Option Decl := ctx.decls.find? (·.defId == id)

def functionDecl? (ctx : Context) (id : DefId) : Option FunctionDecl :=
  match ctx.decl? id with
  | some (.function f) => some f
  | _ => none

def classInfo? (ctx : Context) (id : DefId) : Option ClassInfo :=
  match ctx.decl? id with
  | some (.klass c _) => some c
  | _ => none

def className (ctx : Context) (id : DefId) : String :=
  ((ctx.classInfo? id).map (·.name)).getD id.display

/-- The class that registering a class id enters: the declared name and layout, or `defN`
with an empty layout. -/
def klassOf (ctx : Context) (id : DefId) : Graph.Klass :=
  match ctx.classInfo? id with
  | some c => ⟨c.name, c.layout⟩
  | none => ⟨id.display, {}⟩

def functionName (ctx : Context) (f : FunctionDecl) : String :=
  match f.constructedClass with
  | some c => ctx.className c ++ ".<init>"
  | none => f.name

end Context

section Lookups

variable (ctx : Context) (s : State)

@[simp] theorem lookupDecl_run (id : DefId) : lookupDecl id ctx s = .ok (ctx.decl? id, s) := rfl

@[simp] theorem functionDecl?_run (id : DefId) :
    functionDecl? id ctx s = .ok (ctx.functionDecl? id, s) := by
  unfold functionDecl? Context.functionDecl?
  simp only [bind_run, lookupDecl_run]
  generalize ctx.decl? id = o
  rcases o with _ | ⟨_ | _ | _⟩ <;> rfl

@[simp] theorem classInfo?_run (id : DefId) :
    classInfo? id ctx s = .ok (ctx.classInfo? id, s) := by
  unfold classInfo? Context.classInfo?
  simp only [bind_run, lookupDecl_run]
  generalize ctx.decl? id = o
  rcases o with _ | ⟨_ | _ | _⟩ <;> rfl

@[simp] theorem className_run (id : DefId) : className id ctx s = .ok (ctx.className id, s) := by
  simp [className, Context.className, bind_run]

@[simp] theorem functionName_run (f : FunctionDecl) :
    functionName f ctx s = .ok (ctx.functionName f, s) := by
  unfold functionName Context.functionName
  cases f.constructedClass <;> simp [bind_run] <;> rfl

theorem returnsUnit_run (target : DefId) :
    returnsUnit target ctx s = .ok ((match ctx.functionDecl? target with
      | some f => f.returnTy == .unit
      | none => (s.current.map (·.returnTy == .unit)).getD true), s) := by
  unfold returnsUnit
  simp only [bind_run, functionDecl?_run]
  generalize ctx.functionDecl? target = o
  rcases o with _ | _ <;> rfl

theorem findLoop_run (loop : LoopId) (e : LoopExit) (span : Span) :
    findLoop loop e span ctx s = match s.loops.find? (·.loop == loop) with
      | some fr => .ok (fr, s)
      | none => .error (.lowering (.loopNotFound e span)) := by
  unfold findLoop
  simp only [bind_run, get_run]
  generalize s.loops.find? _ = o
  rcases o with _ | _ <;> rfl

end Lookups

/-! ## Registering functions and classes -/

def State.extend (s : State) (fs : List Function) (ks : List Graph.Klass)
    (tf tk : List (DefId × Nat)) : State :=
  { s with
    program := { s.program with
      functions := s.program.functions ++ fs, klasses := s.program.klasses ++ ks }
    functions := tf ++ s.functions
    klasses := tk ++ s.klasses }

/-- What registration changes: bodyless functions and classes are appended to the program and
the tables learn new entries, each naming one of the new functions; nothing else moves. -/
def Registers (s s' : State) : Prop :=
  ∃ fs ks tf tk, (∀ f ∈ fs, f.blocks = []) ∧
    (∀ e ∈ tf, s.program.functions.length ≤ e.2 ∧ e.2 < s.program.functions.length + fs.length) ∧
    s' = s.extend fs ks tf tk

theorem State.blocks_fn_extend {s : State} {fs : List Function} {ks : List Graph.Klass}
    {tf tk : List (DefId × Nat)} (hfs : ∀ f ∈ fs, f.blocks = []) (j : Nat) :
    ((s.extend fs ks tf tk).fn j).blocks = (s.fn j).blocks := by
  simp only [State.fn, State.extend, List.getD_eq_getElem?_getD]
  by_cases hj : j < s.program.functions.length
  · rw [List.getElem?_append_left hj]
  · rw [List.getElem?_append_right (Nat.le_of_not_lt hj), List.getElem?_eq_none (Nat.le_of_not_lt hj)]
    cases hf : fs[j - s.program.functions.length]? with
    | none => rfl
    | some f => exact hfs f (List.mem_of_getElem? hf)

theorem State.fn_extend_of_lt {s : State} {fs : List Function} {ks : List Graph.Klass}
    {tf tk : List (DefId × Nat)} {j : Nat} (hj : j < s.program.functions.length) :
    (s.extend fs ks tf tk).fn j = s.fn j := by
  simp only [State.fn, State.extend, List.getD_eq_getElem?_getD, List.getElem?_append_left hj]

namespace Registers

theorem refl (s : State) : Registers s s :=
  ⟨[], [], [], [], by simp, by simp, by simp [State.extend]⟩

theorem trans {s₁ s₂ s₃ : State} (h₁ : Registers s₁ s₂) (h₂ : Registers s₂ s₃) :
    Registers s₁ s₃ := by
  obtain ⟨fs, ks, tf, tk, hfs, htf, rfl⟩ := h₁
  obtain ⟨fs', ks', tf', tk', hfs', htf', rfl⟩ := h₂
  refine ⟨fs ++ fs', ks ++ ks', tf' ++ tf, tk' ++ tk, ?_, ?_, ?_⟩
  · intro f hf
    rcases List.mem_append.1 hf with hf | hf
    · exact hfs f hf
    · exact hfs' f hf
  · intro e he
    have h₂ := fun e he => htf' e he
    simp only [State.extend, List.length_append] at h₂
    simp only [List.length_append]
    rcases List.mem_append.1 he with he | he
    · obtain ⟨lo, hi⟩ := h₂ e he
      omega
    · obtain ⟨lo, hi⟩ := htf e he
      omega
  · simp [State.extend]

theorem of_eq {s s' : State} (h : s' = s) : Registers s s' := h ▸ refl s

end Registers

section Registration

variable {ctx : Context} {s s' : State}

theorem klassId_run (cls : DefId) :
    klassId cls ctx s = .ok (match s.klasses.lookup cls with
      | some k => (k, s)
      | none => (s.program.klasses.length,
          s.extend [] [ctx.klassOf cls] [] [(cls, s.program.klasses.length)])) := by
  unfold klassId
  simp only [bind_run, get_run]
  cases hk : s.klasses.lookup cls with
  | some k => rfl
  | none =>
    simp only [bind_run, classInfo?_run, Context.klassOf]
    generalize ctx.classInfo? cls = o
    rcases o with _ | _ <;> simp [addKlass, bind_run, State.extend] <;> rfl

theorem klassId_registers {cls : DefId} {k : Nat} (h : klassId cls ctx s = .ok (k, s')) :
    Registers s s' ∧ s'.klasses.lookup cls = some k := by
  rw [klassId_run] at h
  cases hk : s.klasses.lookup cls with
  | some k' =>
    rw [hk] at h; cases h
    exact ⟨Registers.refl s, hk⟩
  | none =>
    rw [hk] at h; cases h
    exact ⟨⟨[], _, [], _, by simp, by simp, rfl⟩, by simp [State.extend]⟩

theorem lowerType_registers {t : Tree.Ty} {t' : Graph.Ty} (h : lowerType t ctx s = .ok (t', s')) :
    Registers s s' := by
  cases t
  case classRef c =>
    simp only [lowerType, map_run] at h
    split at h
    · cases h; exact (klassId_registers ‹_›).1
    · cases h
  all_goals exact Registers.of_eq (pure_ok h).2

theorem mapM_registers {γ δ : Type} {f : γ → LowerM δ}
    (hf : ∀ x s s' y, f x ctx s = .ok (y, s') → Registers s s') :
    ∀ (xs : List γ) (s s' : State) (ys : List δ), xs.mapM f ctx s = .ok (ys, s') → Registers s s'
  | [], s, s', ys, h => Registers.of_eq (pure_ok h).2
  | x :: xs, s, s', ys, h => by
    rw [List.mapM_cons] at h
    obtain ⟨y, s₁, h₁, h⟩ := bind_ok h
    obtain ⟨ys', s₂, h₂, h⟩ := bind_ok h
    obtain ⟨-, rfl⟩ := pure_ok h
    exact (hf x s s₁ y h₁).trans (mapM_registers hf xs s₁ _ ys' h₂)

theorem addFunction_run (name : String) (params : List Var) (ret : Graph.Ty) :
    addFunction name params ret ctx s =
      .ok (s.program.functions.length,
        s.extend [{ name := name, params := params, returnTy := ret, blocks := [] }] [] [] []) := by
  simp only [addFunction, bind_run, get_run, State.extend, List.append_nil, List.nil_append]; rfl

theorem addFunction_enter {id : DefId} {name : String} {params : List Var} {ret : Graph.Ty}
    {fn : Nat} {s₁ : State}
    (h : (do
        let fn ← addFunction name params ret
        modify fun s : State => { s with functions := (id, fn) :: s.functions }
        pure fn : LowerM Nat) ctx s₁ = .ok (fn, s')) :
    s' = s₁.extend [{ name := name, params := params, returnTy := ret, blocks := [] }] []
      [(id, s₁.program.functions.length)] [] ∧ fn = s₁.program.functions.length := by
  obtain ⟨fn', s₂, h₂, h⟩ := bind_ok h
  rw [addFunction_run] at h₂; cases h₂
  obtain ⟨_, s₃, h₃, h⟩ := bind_ok h
  cases h₃
  obtain ⟨rfl, rfl⟩ := pure_ok h
  exact ⟨rfl, rfl⟩

theorem declaredFunction_registers {id : DefId} {name : String} {argTys : List Graph.Ty}
    {ret : Graph.Ty} {fn : Nat} (h : declaredFunction id name argTys ret ctx s = .ok (fn, s')) :
    Registers s s' ∧ s'.functions.lookup id = some fn ∧
      (s.functions.lookup id = some fn ∨ fn < s'.program.functions.length) := by
  unfold declaredFunction at h
  simp only [bind_run, get_run] at h
  cases hf : s.functions.lookup id with
  | some f =>
    rw [hf] at h
    obtain ⟨rfl, hs⟩ := pure_ok h
    exact ⟨Registers.of_eq hs, hs ▸ hf, .inl rfl⟩
  | none =>
    rw [hf] at h
    obtain ⟨o, s₁, h₁, h⟩ := bind_ok h
    rw [functionDecl?_run] at h₁; cases h₁
    -- Both branches append one function and enter it; the declared one lowers its types first.
    have hreg : ∃ s₁, Registers s s₁ ∧ ∃ f, s' = s₁.extend [f] [] [(id, s₁.program.functions.length)] [] ∧
        f.blocks = [] ∧ fn = s₁.program.functions.length := by
      generalize ctx.functionDecl? id = o at h
      cases o with
      | none =>
        obtain ⟨rfl, rfl⟩ := addFunction_enter h
        exact ⟨s, Registers.refl s, _, rfl, rfl, rfl⟩
      | some d =>
        obtain ⟨nm, s₃, h₃, h⟩ := bind_ok h
        rw [functionName_run] at h₃; cases h₃
        obtain ⟨ps, s₄, h₄, h⟩ := bind_ok h
        obtain ⟨rt, s₅, h₅, h⟩ := bind_ok h
        obtain ⟨rfl, rfl⟩ := addFunction_enter h
        have r₄ := mapM_registers (fun p s s' y hp => by
          obtain ⟨t, s₆, h₆, hp⟩ := bind_ok hp
          exact (lowerType_registers h₆).trans (Registers.of_eq (pure_ok hp).2)) _ _ _ _ h₄
        exact ⟨s₅, r₄.trans (lowerType_registers h₅), _, rfl, rfl, rfl⟩
    obtain ⟨s₁, ⟨fs, ks, tf, tk, hfs, htf, rfl⟩, f, rfl, hf', rfl⟩ := hreg
    refine ⟨⟨fs ++ [f], ks, (id, (s.extend fs ks tf tk).program.functions.length) :: tf, tk, ?_,
      ?_, by simp [State.extend]⟩, by simp [State.extend], .inr (by simp [State.extend])⟩
    · intro g hg
      rcases List.mem_append.1 hg with hg | hg
      · exact hfs g hg
      · rw [List.mem_singleton.1 hg]; exact hf'
    · intro e he
      rcases List.mem_cons.1 he with rfl | he
      · simp [State.extend]
      · obtain ⟨lo, hi⟩ := htf e he
        simp only [List.length_append, List.length_singleton]
        omega

theorem calleeFor_registers {callee : Tree.Callee} {args : List Operand} {ret : Graph.Ty} {fn : Nat}
    (h : calleeFor callee args ret ctx s = .ok (fn, s')) :
    Registers s s' ∧ s'.functions.lookup callee.defId = some fn ∧
      (s.functions.lookup callee.defId = some fn ∨ fn < s'.program.functions.length) :=
  declaredFunction_registers h

end Registration

end Isel.Lower
