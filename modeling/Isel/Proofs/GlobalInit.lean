import Isel.Proofs.Closed

/-!
# The global initializer

Every field outside a class that has an initializer appends to one function, the global
initializer at position `0`, named by the configuration. `Decl.globalInits` lists these
initializers in the order selection meets them, the members of a class right after it, and
`InitRun` strings their lowerings together: each starts with nothing bound, no loop, no landing
block and no function being lowered, in the block where the one before it ended, and is followed
by a store of its value at the symbol of its field. Function bodies are lowered in between, in
functions of their own, and leave the global initializer alone; at the end a block left open
returns `unit`.

Lowering an initializer changes no other function and only appends classes and functions
without blocks, and it hands back the cursor, the bindings, the loops, the landing block and the
function being lowered as it found them.
-/

namespace Isel.Tree

/-- The initializer a declaration appends to the global initializer: that of a field of no
class. -/
def Decl.globalInit? : Decl → Option (FieldDecl × Expr)
  | .field f =>
    match f.init, f.containingClass with
    | some e, none => some (f, e)
    | _, _ => none
  | _ => none

/-- The initializers declarations append to the global initializer, in the order selection
meets them: depth first, the members of a class right after it. -/
def Decl.globalInits (ds : List Decl) : List (FieldDecl × Expr) :=
  (Decl.flatten ds).filterMap Decl.globalInit?

theorem Decl.globalInits_nil : Decl.globalInits [] = [] := rfl

theorem Decl.globalInits_cons (d : Decl) (ds : List Decl) :
    Decl.globalInits (d :: ds) = d.flattenOne.filterMap Decl.globalInit? ++ Decl.globalInits ds := by
  simp only [globalInits, Decl.flatten, List.filterMap_append]

theorem Decl.globalInits_klass (c : ClassInfo) (members : List Decl) :
    (Decl.klass c members).flattenOne.filterMap Decl.globalInit? = Decl.globalInits members := by
  simp only [Decl.flattenOne, List.filterMap_cons, globalInit?, globalInits]

end Isel.Tree

namespace Isel.Lower

open Isel.Graph (Operand Function)
open Isel.Tree (Expr FieldDecl FunctionDecl Decl Module)

/-- Where an initializer is lowered: at block `c` of the global initializer `g`, at position
`0`, with nothing bound, no loop, no landing block and no function being lowered. -/
def State.InitAt (t : State) (g : Function) (c : Nat) : Prop :=
  t.fn 0 = g ∧ t.cursor = ⟨0, c⟩ ∧ t.env = [] ∧ t.loops = [] ∧ t.landing = none ∧ t.current = none

/-- The lowerings of the initializers `xs` one after the other, the global initializer going
from `g`, where block `c` is its end, to `g'` ending at block `c'`: each initializer is lowered
where the one before it ended, and its value is then stored at the symbol of its field. -/
inductive InitRun (ctx : Context) : List (FieldDecl × Expr) → Function → Nat → Function → Nat →
    Prop
  | nil (g : Function) (c : Nat) : InitRun ctx [] g c g c
  | cons {f : FieldDecl} {init : Expr} {rest : List (FieldDecl × Expr)} {g g' : Function}
      {c c' : Nat} {t t₁ t₂ : State} {v u : Operand} (start : t.InitAt g c)
      (lower : lowerExpr init ctx t = .ok (v, t₁))
      (store : emit (.store v (.symbol f.name) 0) ctx t₁ = .ok (u, t₂))
      (next : InitRun ctx rest (t₂.fn 0) t₂.cursor.block g' c') :
      InitRun ctx ((f, init) :: rest) g c g' c'

theorem InitRun.append {ctx : Context} {xs ys : List (FieldDecl × Expr)} {g₁ g₂ g₃ : Function}
    {c₁ c₂ c₃ : Nat} (h₁ : InitRun ctx xs g₁ c₁ g₂ c₂) (h₂ : InitRun ctx ys g₂ c₂ g₃ c₃) :
    InitRun ctx (xs ++ ys) g₁ c₁ g₃ c₃ := by
  induction h₁ with
  | nil => exact h₂
  | cons start lower store _ ih => exact .cons start lower store (ih h₂)

/-! ## Between declarations -/

/-- Between declarations: ready for the next one, with the global initializer going on in
function `0`, a position the function table never names. -/
structure Walk (s : State) : Prop where
  ready : Ready s
  global : s.globalCursor.fn = 0
  table : ∀ e ∈ s.functions, 0 < e.2

variable {ctx : Context} {s s' t : State}

theorem Walk.start (name : String) : Walk (State.start name) :=
  ⟨Ready.start name, rfl, fun _ h => by simp [State.start] at h⟩

theorem Walk.length_pos (hw : Walk s) : 0 < s.program.functions.length := by
  have h := hw.ready.global.1
  rwa [hw.global] at h

theorem Keeps.table_pos (k : Keeps s t) (hs : ∀ e ∈ s.functions, 0 < e.2)
    (hl : 0 < s.program.functions.length) : ∀ e ∈ t.functions, 0 < e.2 :=
  fun e he => (k.table e he).elim (hs e) fun h => Nat.lt_of_lt_of_le hl h

theorem Walk.registers (hw : Walk s) (h : Registers s t) :
    Walk t ∧ t.fn 0 = s.fn 0 ∧ t.globalCursor = s.globalCursor := by
  have k := Keeps.of_registers h
  refine ⟨⟨hw.ready.registers h, k.globalCursor ▸ hw.global, k.table_pos hw.table hw.length_pos⟩,
    ?_, k.globalCursor⟩
  obtain ⟨fs, ks, tf, tk, -, -, rfl⟩ := h
  exact State.fn_extend_of_lt hw.length_pos

theorem selectFunction_walk {d : FunctionDecl} (hw : Walk s)
    (h : selectFunction d ctx s = .ok ((), s')) :
    Walk s' ∧ s'.fn 0 = s.fn 0 ∧ s'.globalCursor = s.globalCursor := by
  have hr := selectFunction_ready hw.ready h
  rcases selectFunction_steps h with ⟨-, rfl⟩ |
    ⟨-, fn, s₁, h₁, ⟨-, rfl⟩ | ⟨body, v, s₂, s₃, -, hrun, hend, rfl⟩⟩
  · exact ⟨hw, rfl, rfl⟩
  · exact hw.registers (declaredFunction_registers h₁).1
  · obtain ⟨reg, hl, -⟩ := declaredFunction_registers h₁
    obtain ⟨w₁, f₁, g₁⟩ := hw.registers reg
    have hfn : 0 < fn := by
      obtain ⟨l₁, l₂, hs, -⟩ := List.lookup_eq_some_iff.1 hl
      exact w₁.table (d.defId, fn) (by rw [hs]; simp)
    have k : Keeps (s₁.enterBody fn d) s₃ := by
      have k₂ := (hrun.built (w₁.ready.enterBody (declaredFunction_lt hw.ready.built h₁) d).1).2
      rcases hend with ⟨-, rfl⟩ | ⟨-, u, he⟩
      · exact k₂
      · exact k₂.trans (emit_keeps he)
    have hlen : (s₁.enterBody fn d).program.functions.length = s₁.program.functions.length := by
      simp [State.enterBody, State.length_mapFn]
    have e₀ : (s₁.enterBody fn d).fn 0 = s₁.fn 0 := by
      show ((s₁.mapFn fn (·.addBlock "entry")).mapFn fn fun f => { f with span := d.span }).fn 0 = _
      rw [State.fn_mapFn_of_ne _ _ (Nat.ne_of_gt hfn), State.fn_mapFn_of_ne _ _ (Nat.ne_of_gt hfn)]
    refine ⟨⟨hr, ?_, ?_⟩, ?_, k.globalCursor.trans g₁⟩
    · show s₃.globalCursor.fn = 0
      rw [k.globalCursor]
      exact w₁.global
    · exact k.table_pos w₁.table (hlen ▸ w₁.length_pos)
    · show s₃.fn 0 = s.fn 0
      rw [k.frame 0 (Nat.ne_of_lt hfn) (hlen ▸ w₁.length_pos), e₀, f₁]

/-! ## Field initializers -/

theorem State.blocks_fn_of_le {j : Nat} (h : s.program.functions.length ≤ j) :
    (s.fn j).blocks = [] := by
  simp [State.fn, List.getD_eq_getElem?_getD, List.getElem?_eq_none h]
  rfl

/-- Lowering an initializer changes no function but the one where the global initializer goes
on; it only appends classes and functions without blocks, and it hands back the cursor, the
bindings, the loops, the landing block and the function being lowered. -/
theorem visitField_frame {f : FieldDecl} (h : visitField f ctx s = .ok ((), s')) :
    (∀ j, j < s.program.functions.length → j ≠ s.globalCursor.fn → s'.fn j = s.fn j) ∧
    (∀ j, s.program.functions.length ≤ j → j ≠ s.globalCursor.fn → (s'.fn j).blocks = []) ∧
    s.program.functions.length ≤ s'.program.functions.length ∧
    s.program.klasses <+: s'.program.klasses ∧
    s'.cursor = s.cursor ∧ s'.env = s.env ∧ s'.loops = s.loops ∧ s'.landing = s.landing ∧
    s'.current = s.current := by
  rcases visitField_steps h with ⟨-, rfl⟩ | ⟨init, v, s₁, u, s₂, -, -, h₁, h₂, rfl⟩
  · exact ⟨fun _ _ _ => rfl, fun j hj _ => State.blocks_fn_of_le hj, Nat.le_refl _,
      List.prefix_refl _, rfl, rfl, rfl, rfl, rfl⟩
  · -- the initializer is lowered in the global initializer's function, from its end
    have k := (lowerExpr_keeps init h₁).trans (emit_keeps h₂)
    exact ⟨fun j hj hne => k.frame j hne hj,
      fun j hj hne => (k.others j hne).trans (State.blocks_fn_of_le hj), k.fnCount, k.klasses,
      rfl, rfl, k.loops, rfl, rfl⟩

theorem Walk.initAt (hw : Walk s) :
    State.InitAt { s with env := [], landing := none, current := none, cursor := s.globalCursor }
      (s.fn 0) s.globalCursor.block := by
  refine ⟨rfl, ?_, rfl, hw.ready.loops, rfl, rfl⟩
  show s.globalCursor = ⟨0, s.globalCursor.block⟩
  rw [← hw.global]

theorem visitField_walk {f : FieldDecl} (hw : Walk s) (h : visitField f ctx s = .ok ((), s')) :
    Walk s' ∧ InitRun ctx (Decl.field f).globalInit?.toList (s.fn 0) s.globalCursor.block
      (s'.fn 0) s'.globalCursor.block ∧ (s'.fn 0).name = (s.fn 0).name := by
  have hr := visitField_ready hw.ready h
  rcases visitField_steps h with ⟨hn, rfl⟩ | ⟨init, v, s₁, u, s₂, hi, hc, h₁, h₂, rfl⟩
  · have hg : (Decl.field f).globalInit? = none := by
      rcases hn with hn | hn
      · simp [Decl.globalInit?, hn]
      · cases hc : f.containingClass with
        | none => simp [hc] at hn
        | some c => cases f.init <;> simp [Decl.globalInit?, hc]
    rw [hg]
    exact ⟨hw, .nil _ _, rfl⟩
  · have k := (lowerExpr_keeps init h₁).trans (emit_keeps h₂)
    have hg : (Decl.field f).globalInit? = some (f, init) := by simp [Decl.globalInit?, hi, hc]
    rw [hg]
    refine ⟨⟨hr, ?_, k.table_pos hw.table hw.length_pos⟩, .cons hw.initAt h₁ h₂ (.nil _ _),
      k.name 0 hw.length_pos⟩
    show s₂.cursor.fn = 0
    rw [k.fn]
    exact hw.global

/-- What selecting declarations from `s` to `s'` does to the global initializer: it runs the
initializers `xs` from where the global initializer ended to where it ends now, and keeps its
name; `s'` is ready for more. -/
structure InitsFrom (ctx : Context) (xs : List (FieldDecl × Expr)) (s s' : State) : Prop where
  walk : Walk s'
  run : InitRun ctx xs (s.fn 0) s.globalCursor.block (s'.fn 0) s'.globalCursor.block
  name : (s'.fn 0).name = (s.fn 0).name

theorem InitsFrom.of_same (hw : Walk s') (hf : s'.fn 0 = s.fn 0)
    (hg : s'.globalCursor = s.globalCursor) : InitsFrom ctx [] s s' :=
  ⟨hw, hf ▸ hg ▸ .nil _ _, by rw [hf]⟩

theorem InitsFrom.trans {xs ys : List (FieldDecl × Expr)} {s₁ s₂ s₃ : State}
    (h₁ : InitsFrom ctx xs s₁ s₂) (h₂ : InitsFrom ctx ys s₂ s₃) : InitsFrom ctx (xs ++ ys) s₁ s₃ :=
  ⟨h₂.walk, h₁.run.append h₂.run, h₂.name.trans h₁.name⟩

mutual

theorem visitDecl_inits : ∀ (d : Decl) {s s' : State}, Walk s →
    visitDecl d ctx s = .ok ((), s') → InitsFrom ctx (d.flattenOne.filterMap Decl.globalInit?) s s'
  | .klass c members, s, s', hw, h => by
    obtain ⟨k, s₁, h₁, h₂⟩ := visitDecl_klass_steps h
    obtain ⟨w₁, f₁, g₁⟩ := hw.registers (klassId_registers h₁).1
    rw [Decl.globalInits_klass, ← List.nil_append (Decl.globalInits members)]
    exact (InitsFrom.of_same w₁ f₁ g₁).trans (visitDecls_inits members w₁ h₂)
  | .function f, s, s', hw, h => by
    obtain ⟨w, hf, hg⟩ := selectFunction_walk hw (by rwa [visitDecl_function] at h)
    exact InitsFrom.of_same w hf hg
  | .field f, s, s', hw, h => by
    obtain ⟨w, hrun, hn⟩ := visitField_walk hw (by rwa [visitDecl_field] at h)
    refine ⟨w, ?_, hn⟩
    cases hg : (Decl.field f).globalInit? with
    | none =>
      rw [hg] at hrun
      simpa [Decl.flattenOne, hg] using hrun
    | some x =>
      rw [hg] at hrun
      simpa [Decl.flattenOne, hg] using hrun

theorem visitDecls_inits : ∀ (ds : List Decl) {s s' : State}, Walk s →
    visitDecls ds ctx s = .ok ((), s') → InitsFrom ctx (Decl.globalInits ds) s s'
  | [], s, s', hw, h => by
    rw [visitDecls_nil_steps h]
    exact InitsFrom.of_same hw rfl rfl
  | d :: ds, s, s', hw, h => by
    obtain ⟨s₁, h₁, h₂⟩ := visitDecls_cons_steps h
    have i₁ := visitDecl_inits d hw h₁
    rw [Decl.globalInits_cons]
    exact i₁.trans (visitDecls_inits ds i₁.walk h₂)

end

/-! ## The module -/

/-- The global initializer once its initializers ran to `g`, ending at block `c`: a block left
open there returns `unit`. -/
def closeGlobalInit (g : Function) (c : Nat) : Function :=
  if (g.blocks.getD c default).isTerminal then g else g.pushAt c (.ret .unit)

theorem State.getElem?_functions {j : Nat} (h : j < s.program.functions.length) :
    s.program.functions[j]? = some (s.fn j) := by
  simp [State.fn, List.getD_eq_getElem?_getD, List.getElem?_eq_getElem h]

theorem finishGlobalInit_global (hw : Walk s) (h : finishGlobalInit ctx s = .ok ((), s')) :
    s'.program.functions[0]? = some (closeGlobalInit (s.fn 0) s.globalCursor.block) := by
  have hc : ({ s with cursor := s.globalCursor } : State).curBlock =
      (s.fn 0).blocks.getD s.globalCursor.block default := by
    show (s.fn s.globalCursor.fn).blocks.getD _ _ = _
    rw [hw.global]
  rcases finishGlobalInit_steps h with ⟨ht, rfl⟩ | ⟨ht, u, he⟩
  · rw [hc] at ht
    rw [closeGlobalInit, if_pos ht]
    exact State.getElem?_functions (s := { s with cursor := s.globalCursor }) hw.length_pos
  · rw [hc] at ht
    have hne : ¬ ((s.fn 0).blocks.getD s.globalCursor.block default).isTerminal = true := by
      rw [ht]
      exact Bool.false_ne_true
    rw [closeGlobalInit, if_neg hne]
    -- the open end takes the `ret`, with no fresh block before it
    obtain ⟨-, -, rfl⟩ := emit_ok he
    rw [State.reopen, if_neg (hc ▸ hne)]
    simp only [State.push, hw.global]
    rw [State.getElem?_functions (by rw [State.length_mapFn]; exact hw.length_pos)]
    exact congrArg some (State.fn_mapFn_self _ _ hw.length_pos)

/-- The global initializer of a selected program, the function at position `0`, is named by the
configuration and holds exactly the initializers of the module's fields outside classes,
lowered one after the other in the order of the module, class members right after their class:
each from the block where the one before it ended, with nothing bound, no loop, no landing block
and no function being lowered, and followed by a store of its value at its field's symbol. A
block left open after the last returns `unit`. Lowering an initializer leaves every other
function as it was, only appends classes and functions without blocks, and gives back the
cursor, the bindings, the loops, the landing block and the function being lowered. -/
theorem selectModule_globalInit {m : Module} {cfg : Config} {sel : Selection}
    (h : selectModule m cfg = .ok sel) :
    (sel.program.globalInit = 0 ∧ ∃ g c,
      InitRun (moduleContext m cfg) (Decl.globalInits m.decls)
        { name := cfg.globalInitName, params := [], returnTy := .void, blocks := [⟨"entry", []⟩] }
        0 g c ∧
      g.name = cfg.globalInitName ∧ sel.program.functions[0]? = some (closeGlobalInit g c)) ∧
    ∀ (f : FieldDecl) (s s' : State), visitField f (moduleContext m cfg) s = .ok ((), s') →
      (∀ j, j < s.program.functions.length → j ≠ s.globalCursor.fn → s'.fn j = s.fn j) ∧
      (∀ j, s.program.functions.length ≤ j → j ≠ s.globalCursor.fn → (s'.fn j).blocks = []) ∧
      s.program.functions.length ≤ s'.program.functions.length ∧
      s.program.klasses <+: s'.program.klasses ∧
      s'.cursor = s.cursor ∧ s'.env = s.env ∧ s'.loops = s.loops ∧ s'.landing = s.landing ∧
      s'.current = s.current := by
  refine ⟨?_, fun f s s' hf => visitField_frame hf⟩
  obtain ⟨s₁, s₂, h₁, h₂, rfl⟩ := selectModule_steps h
  have i₁ := visitDecls_inits m.decls (Walk.start cfg.globalInitName) h₁
  exact ⟨(finishGlobalInit_closed i₁.walk.ready h₂).2.2, s₁.fn 0, s₁.globalCursor.block, i₁.run,
    i₁.name, finishGlobalInit_global i₁.walk h₂⟩

/-- `val a = 1; fun f() {}; val b = 2`: two globals with a function declared between them. -/
def globalsModule : Module :=
  let sp : Span := ⟨0, 0, 1, 1⟩
  let global (id : Nat) (name : String) (v : Int) : Decl :=
    .field ⟨⟨id⟩, name, .int, none, some (.node (.literal (.int v)) .int sp), sp⟩
  ⟨"globals", [global 0 "a" 1,
    .function ⟨⟨1⟩, "f", [], .unit, some (.block []), .defined, false, none, sp⟩, global 2 "b" 2]⟩

theorem globalsModule_globalInit : ∃ sel, selectModule globalsModule {} = .ok sel ∧
    sel.program.globalInit = 0 ∧ ∃ g c,
      InitRun (moduleContext globalsModule {}) (Decl.globalInits globalsModule.decls)
        { name := "global-init", params := [], returnTy := .void, blocks := [⟨"entry", []⟩] } 0 g c ∧
      g.name = "global-init" ∧ sel.program.functions[0]? = some (closeGlobalInit g c) := by
  have hok : (selectModule globalsModule {}).isOk = true := by decide +kernel
  cases h : selectModule globalsModule {} with
  | error e =>
    rw [h] at hok
    cases hok
  | ok sel => exact ⟨sel, rfl, (selectModule_globalInit h).1⟩

end Isel.Lower
