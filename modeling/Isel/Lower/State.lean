import Isel.Tree.Module
import Isel.Graph.Program
import Isel.Lower.Error
import Isel.Config

/-!
# The state of selection

Selection builds the program in place: a cursor names the function and block that new
instructions go to. Emitting into a block that already ends starts a fresh block labelled
`unreachable` first, so no instruction ever follows a terminator. New blocks are appended
to the cursor's function and are not linked to anything until an instruction branches to
them. Reading or writing a function or block past the end of the program is a panic of the
builder, as its indexing is (`Fault.outOfRange`).

Besides the program the state holds the functions and classes registered so far (by their
`DefId`), the bindings of local variables, the enclosing loops, the landing block of the
innermost `try` with handlers, the function being lowered, and the soft failures reported.
-/

namespace Isel.Lower

open Isel.Tree (DefId LocalId LoopId Decl FunctionDecl ClassInfo)
open Isel.Graph (Operand Instr Var Block Function Klass Program)

/-- Where instructions go: a function and one of its blocks. -/
structure Cursor where
  fn : Nat
  block : Nat
deriving Repr, DecidableEq, Inhabited

/-- An enclosing loop: its id, the block that tests its condition and the block after it. -/
structure LoopFrame where
  loop : LoopId
  check : Nat
  exit : Nat
deriving Repr, DecidableEq, Inhabited

/-- What selection reads. -/
structure Context where
  /-- The declarations of the module, class members included, the last one first. -/
  decls : List Decl
  pointerSize : Nat

/-- What selection changes. -/
structure State where
  program : Program
  cursor : Cursor
  /-- Where the next global initializer goes. -/
  globalCursor : Cursor
  /-- The functions registered so far. -/
  functions : List (DefId × Nat)
  /-- The classes registered so far. -/
  klasses : List (DefId × Nat)
  /-- The operands bound to locals, the latest binding first. -/
  env : List (LocalId × Operand)
  /-- The enclosing loops, the innermost first. -/
  loops : List LoopFrame
  /-- The landing block of the innermost `try` with handlers. -/
  landing : Option Nat
  /-- The function whose body is being lowered. -/
  current : Option FunctionDecl
  /-- The soft failures, in the order they were found. -/
  diagnostics : List Diagnostic

/-- Selection: reads the context, changes the state, may stop. -/
abbrev LowerM := ReaderT Context (StateT State (Except Fault))

def Program.start (name : String) : Program :=
  ⟨[{ name := name, params := [], returnTy := .void, blocks := [⟨"entry", []⟩] }], [], 0⟩

def State.start (globalInitName : String) : State :=
  { program := Program.start globalInitName, cursor := ⟨0, 0⟩, globalCursor := ⟨0, 0⟩,
    functions := [], klasses := [], env := [], loops := [], landing := none, current := none,
    diagnostics := [] }

/-! ## The program under construction -/

def modifyFunction (fn : Nat) (f : Function → Function) : LowerM Unit :=
  modify fun s => { s with program := { s.program with functions := s.program.functions.modify fn f } }

def functionAt (fn : Nat) : LowerM Function := do
  let fs := (← get).program.functions
  match fs[fn]? with
  | some f => pure f
  | none => throw (.outOfRange fs.length fn)

def currentFunction : LowerM Function := do
  functionAt (← get).cursor.fn

def currentBlock : LowerM Block := do
  let f ← currentFunction
  let b := (← get).cursor.block
  match f.blocks[b]? with
  | some blk => pure blk
  | none => throw (.outOfRange f.blocks.length b)

def isTerminated : LowerM Bool := do
  pure (← currentBlock).isTerminal

def newBlock (label : String) : LowerM Nat := do
  let f ← currentFunction
  modifyFunction (← get).cursor.fn fun f => { f with blocks := f.blocks ++ [⟨label, []⟩] }
  pure f.blocks.length

def switchTo (b : Nat) : LowerM Unit :=
  modify fun s => { s with cursor := { s.cursor with block := b } }

def freshVar (ty : Graph.Ty) : LowerM Var := do
  let f ← currentFunction
  modifyFunction (← get).cursor.fn fun f => { f with nextVar := f.nextVar + 1 }
  pure ⟨ty, "%" ++ toString f.nextVar⟩

/-- Appends an instruction at the cursor, in a fresh `unreachable` block if the cursor's
block already ends; the variable it defines, or `unit`. -/
def emit (i : Instr) : LowerM Operand := do
  if ← isTerminated then
    let dead ← newBlock "unreachable"
    switchTo dead
  -- the block written to is indexed again
  let _ ← currentBlock
  let c := (← get).cursor
  modifyFunction c.fn fun f =>
    { f with blocks := f.blocks.modify c.block fun b => { b with instrs := b.instrs ++ [i] } }
  pure ((i.dst?.map Operand.var).getD .unit)

def jumpIfOpen (target : Nat) : LowerM Unit := do
  unless ← isTerminated do
    let _ ← emit (.br target)

def beginFunction (fn : Nat) : LowerM Unit := do
  let entry := (← functionAt fn).blocks.length
  modifyFunction fn fun f => { f with blocks := f.blocks ++ [⟨"entry", []⟩] }
  modify fun s => { s with cursor := ⟨fn, entry⟩ }

def addFunction (name : String) (params : List Var) (ret : Graph.Ty) : LowerM Nat := do
  let s ← get
  set { s with program := { s.program with
    functions := s.program.functions ++
      [({ name := name, params := params, returnTy := ret, blocks := [] } : Function)] } }
  pure s.program.functions.length

def addKlass (name : String) (layout : Layout) : LowerM Nat := do
  let s ← get
  set { s with program := { s.program with klasses := s.program.klasses ++ [(⟨name, layout⟩ : Klass)] } }
  pure s.program.klasses.length

/-! ## Declarations -/

def lookupDecl (id : DefId) : LowerM (Option Decl) := do
  pure ((← read).decls.find? (·.defId == id))

def functionDecl? (id : DefId) : LowerM (Option FunctionDecl) := do
  match ← lookupDecl id with
  | some (.function f) => pure (some f)
  | _ => pure none

def classInfo? (id : DefId) : LowerM (Option ClassInfo) := do
  match ← lookupDecl id with
  | some (.klass c _) => pure (some c)
  | _ => pure none

def className (id : DefId) : LowerM String := do
  pure (((← classInfo? id).map (·.name)).getD id.display)

/-- The class registered for a class id; the first use registers it with its declared name
and layout, or as `defN` with an empty layout. -/
def klassId (cls : DefId) : LowerM Nat := do
  match (← get).klasses.lookup cls with
  | some k => pure k
  | none =>
    let (name, layout) := match ← classInfo? cls with
      | some c => (c.name, c.layout)
      | none => (cls.display, {})
    let k ← addKlass name layout
    modify fun s => { s with klasses := (cls, k) :: s.klasses }
    pure k

def lowerType : Tree.Ty → LowerM Graph.Ty
  | .unit | .nothing => pure .void
  | .boolean => pure .boolean
  | .byte => pure .byte
  | .short => pure .short
  | .int => pure .int
  | .long => pure .long
  | .float => pure .float
  | .double => pure .double
  | .char => pure .char
  | .string => pure .string
  | .nativePtr | .array _ => pure .ptr
  | .classRef c => Graph.Ty.klassPtr <$> klassId c

def functionName (f : FunctionDecl) : LowerM String :=
  match f.constructedClass with
  | some c => do pure ((← className c) ++ ".<init>")
  | none => pure f.name

/-- The function registered for an id. The first use registers it: with the declared
signature if a function is declared with that id, else with parameters `p0`, `p1`, … of the
argument types and the given return type. -/
def declaredFunction (id : DefId) (name : String) (argTys : List Graph.Ty) (ret : Graph.Ty) :
    LowerM Nat := do
  match (← get).functions.lookup id with
  | some f => pure f
  | none =>
    let fn ← match ← functionDecl? id with
      | some d => do
        let name ← functionName d
        let params ← d.params.mapM fun p => do pure (⟨← lowerType p.ty, p.name⟩ : Var)
        let ret ← lowerType d.returnTy
        addFunction name params ret
      | none =>
        addFunction name (argTys.zipIdx.map fun (t, i) => ⟨t, "p" ++ toString i⟩) ret
    modify fun s => { s with functions := (id, fn) :: s.functions }
    pure fn

/-- Whether a `return` to `target` has no value: the target's declared return type is
`Unit`; for an undeclared target, that of the function being lowered, and yes outside one. -/
def returnsUnit (target : DefId) : LowerM Bool := do
  match ← functionDecl? target with
  | some f => pure (f.returnTy == .unit)
  | none => pure (((← get).current.map (·.returnTy == .unit)).getD true)

/-! ## Locals, loops, landings and soft failures -/

def bindLocal (l : LocalId) (o : Operand) : LowerM Unit :=
  modify fun s => { s with env := (l, o) :: s.env }

def pushLoop (fr : LoopFrame) : LowerM Unit :=
  modify fun s => { s with loops := fr :: s.loops }

def popLoop : LowerM Unit :=
  modify fun s => { s with loops := s.loops.tail }

def setLanding (l : Option Nat) : LowerM Unit :=
  modify fun s => { s with landing := l }

def softFailure (code : Code) (message : String) (span : Span) : LowerM Unit :=
  modify fun s => { s with diagnostics := s.diagnostics ++ [Diagnostic.coded .warning code message span] }

/-- Ends an arm that is still open: moves its value into `result`, if there is one, and
branches to `exit`. -/
def finishArm (value : Operand) (result : Option Var) (exit : Nat) : LowerM Unit := do
  unless ← isTerminated do
    if let some r := result then
      let _ ← emit (.mov r value)
    let _ ← emit (.br exit)

end Isel.Lower
