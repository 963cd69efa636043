import Isel.Proofs.GlobalInit
import Isel.Proofs.Registering

/-!
# Visiting declarations one at a time

Selection visits a module's declarations depth first, each class right before its members, so
selecting them is visiting their flattened list one declaration at a time (`visitOwn`). A visit
changes no function the program had but one: the function it selects, or the global
initializer for a field; the functions it appends have no block (`Touches`). So a function that
no visit has selected yet has no block (`State.Unentered`), a function once selected stays as
it is, and between two fields the global initializer stays as it is too.

What the global initializer is at a visit is seen through codes (`State.globalView`), which do
not depend on the order in which functions and classes were registered; `InitChain` strings
together the visits of the fields with initializers, each from the view the one before left.
-/

namespace Isel.Lower

open Isel.Graph (Function)
open Isel.Tree (Expr FieldDecl FunctionDecl Decl DefId)

/-! ## Declarations one at a time -/

/-- Visits one declaration of the depth-first list on its own: a class is registered, and its
members come after it in the list. -/
def visitOwn : Decl → LowerM Unit
  | .klass c _ => do
    let _ ← klassId c.defId
    pure ()
  | .function f => selectFunction f
  | .field f => visitField f

theorem forM_visitOwn_append (A B : List Decl) :
    (A ++ B).forM visitOwn = (A.forM visitOwn >>= fun _ => B.forM visitOwn) := by
  rw [List.forM_eq_forM, List.forM_append]

mutual

theorem visitDecl_eq_forM : ∀ d : Decl, visitDecl d = d.flattenOne.forM visitOwn
  | .klass c members => by
    show _ = (visitOwn (.klass c members) >>= fun _ => (Decl.flatten members).forM visitOwn)
    rw [← visitDecls_eq_forM members]
    simp only [visitDecl, visitOwn, bind_assoc, pure_bind]
  | .function f => by
    show _ = (visitOwn (.function f) >>= fun _ => pure PUnit.unit)
    simp only [visitDecl, visitOwn, bind_pure_unit]
  | .field f => by
    show _ = (visitOwn (.field f) >>= fun _ => pure PUnit.unit)
    simp only [visitDecl, visitOwn, bind_pure_unit]

theorem visitDecls_eq_forM : ∀ ds : List Decl, visitDecls ds = (Decl.flatten ds).forM visitOwn
  | [] => by
    simp only [visitDecls, Decl.flatten]
    rfl
  | d :: ds => by
    rw [Decl.flatten, forM_visitOwn_append, ← visitDecl_eq_forM d, ← visitDecls_eq_forM ds]
    simp only [visitDecls]

end

variable {ctx : Context} {s s' : State}

theorem forM_visitOwn_append_ok {A B : List Decl}
    (h : (A ++ B).forM visitOwn ctx s = .ok ((), s')) :
    ∃ s₁, A.forM visitOwn ctx s = .ok ((), s₁) ∧ B.forM visitOwn ctx s₁ = .ok ((), s') := by
  rw [forM_visitOwn_append] at h
  obtain ⟨_, s₁, h₁, h₂⟩ := bind_ok h
  exact ⟨s₁, h₁, h₂⟩

theorem forM_visitOwn_cons_ok {D : Decl} {B : List Decl}
    (h : (D :: B).forM visitOwn ctx s = .ok ((), s')) :
    ∃ s₁, visitOwn D ctx s = .ok ((), s₁) ∧ B.forM visitOwn ctx s₁ = .ok ((), s') := by
  obtain ⟨_, s₁, h₁, h₂⟩ := bind_ok (x := visitOwn D) (f := fun _ => B.forM visitOwn) h
  exact ⟨s₁, h₁, h₂⟩

theorem forM_visitOwn_snoc {A : List Decl} {D : Decl} {s₁ : State}
    (h : A.forM visitOwn ctx s = .ok ((), s₁)) (h' : visitOwn D ctx s₁ = .ok ((), s')) :
    (A ++ [D]).forM visitOwn ctx s = .ok ((), s') := by
  rw [forM_visitOwn_append, bind_of_ok h]
  show (visitOwn D >>= fun _ => pure PUnit.unit) ctx s₁ = _
  rw [bind_of_ok h']
  rfl

theorem visitOwn_klass {c : Tree.ClassInfo} {members : List Decl}
    (h : visitOwn (.klass c members) ctx s = .ok ((), s')) : ∃ k, klassId c.defId ctx s = .ok (k, s') := by
  simp only [visitOwn] at h
  obtain ⟨k, s₁, h₁, h⟩ := bind_ok h
  obtain ⟨-, rfl⟩ := pure_ok h
  exact ⟨k, h₁⟩

/-! ## What a visit changes -/

def State.Unentered (s : State) (d : DefId) : Prop :=
  ∀ j, (d, j) ∈ s.functions → (s.fn j).blocks = []

theorem State.unentered_start (name : String) (d : DefId) : (State.start name).Unentered d :=
  fun _ h => by simp [State.start] at h

/-- The global initializer as the next field finds it: its function, with positions replaced by
codes, and the block where it ends. -/
def State.globalView (s : State) : Function × Nat :=
  ((s.fn 0).rename s.fcode s.kcode, s.globalCursor.block)

theorem Table.key_unique {tb : List (DefId × Nat)} {lo n j : Nat} {d₁ d₂ : DefId}
    (h : Table tb lo n) (h₁ : (d₁, j) ∈ tb) (h₂ : (d₂, j) ∈ tb) : d₁ = d₂ :=
  congrArg Prod.fst (List.inj_on_of_nodup_map h.ids_nodup h₁ h₂ rfl)

theorem State.length_enterBody (s : State) (fn : Nat) (d : FunctionDecl) :
    (s.enterBody fn d).program.functions.length = s.program.functions.length := by
  show ((s.mapFn fn (·.addBlock "entry")).mapFn fn fun f => { f with span := d.span }).program.functions.length = _
  rw [State.length_mapFn, State.length_mapFn]

/-- A visit that changes no function the program had but the one at position `p`: those it
appends have no block, and the function table only learns appended positions. -/
structure Touches (s s' : State) (p : Nat) : Prop where
  frame : ∀ j, j ≠ p → j < s.program.functions.length → s'.fn j = s.fn j
  fresh : ∀ j, j ≠ p → s.program.functions.length ≤ j → (s'.fn j).blocks = []
  table : ∀ e ∈ s'.functions, e ∈ s.functions ∨ s.program.functions.length ≤ e.2
  length : s.program.functions.length ≤ s'.program.functions.length

namespace Touches

variable {s₁ s₂ : State} {p : Nat}

theorem refl (s : State) (p : Nat) : Touches s s p :=
  ⟨fun _ _ _ => rfl, fun _ _ hj => State.blocks_fn_of_le hj, fun _ he => .inl he, Nat.le_refl _⟩

theorem trans (h₁ : Touches s s₁ p) (h₂ : Touches s₁ s₂ p) : Touches s s₂ p where
  frame j hj hl := (h₂.frame j hj (Nat.lt_of_lt_of_le hl h₁.length)).trans (h₁.frame j hj hl)
  fresh j hj hl := by
    by_cases hl₁ : j < s₁.program.functions.length
    · rw [h₂.frame j hj hl₁]
      exact h₁.fresh j hj hl
    · exact h₂.fresh j hj (Nat.le_of_not_lt hl₁)
  table e he := (h₂.table e he).elim (h₁.table e) fun hl => .inr (Nat.le_trans h₁.length hl)
  length := Nat.le_trans h₁.length h₂.length

theorem of_keeps (k : Keeps s s') : Touches s s' s.cursor.fn :=
  ⟨fun j hj hl => k.frame j hj hl, fun j hj hl => (k.others j hj).trans (State.blocks_fn_of_le hl),
    k.table, k.fnCount⟩

theorem of_registers (h : Registers s s') (p : Nat) : Touches s s' p := by
  have k := Keeps.of_registers h
  obtain ⟨fs, ks, tf, tk, hfs, -, rfl⟩ := h
  exact ⟨fun j _ hj => State.fn_extend_of_lt hj,
    fun j _ hj => (State.blocks_fn_extend hfs j).trans (State.blocks_fn_of_le hj), k.table, k.fnCount⟩

theorem enterBody (s : State) (fn : Nat) (d : FunctionDecl) : Touches s (s.enterBody fn d) fn := by
  have hfn : ∀ j, j ≠ fn → (s.enterBody fn d).fn j = s.fn j := fun j hj => by
    show ((s.mapFn fn (·.addBlock "entry")).mapFn fn fun f => { f with span := d.span }).fn j = _
    rw [State.fn_mapFn_of_ne _ _ (Ne.symm hj), State.fn_mapFn_of_ne _ _ (Ne.symm hj)]
  exact ⟨fun j hj _ => hfn j hj, fun j hj hl => (hfn j hj).symm ▸ State.blocks_fn_of_le hl,
    fun _ he => .inl he, Nat.le_of_eq (State.length_enterBody s fn d).symm⟩

theorem ne_of_mem (hw : Walk s') {D d : DefId} (hp : p = 0 ∨ ∀ d', (d', p) ∈ s'.functions → d' = D)
    (hd : d ≠ D) {j : Nat} (hj : (d, j) ∈ s'.functions) : j ≠ p := by
  rintro rfl
  rcases hp with rfl | hp
  · exact absurd (hw.table _ hj) (Nat.lt_irrefl 0)
  · exact hd (hp d hj)

theorem unentered (t : Touches s s' p) (hw : Walk s') {D d : DefId}
    (hp : p = 0 ∨ ∀ d', (d', p) ∈ s'.functions → d' = D) (hd : d ≠ D) (hu : s.Unentered d) :
    s'.Unentered d := fun j hj => by
  have hne := Touches.ne_of_mem hw hp hd hj
  by_cases hl : j < s.program.functions.length
  · rw [t.frame j hne hl]
    rcases t.table _ hj with hj' | hl'
    · exact hu j hj'
    · exact absurd hl (Nat.not_lt_of_le hl')
  · exact t.fresh j hne (Nat.le_of_not_lt hl)

end Touches

/-! ## Each kind of declaration -/

theorem selectFunction_touches {d : FunctionDecl} (hw : Walk s) (hi : Inv ctx s)
    (h : selectFunction d ctx s = .ok ((), s')) :
    ∃ p, Touches s s' p ∧ (p = 0 ∨ ∀ d', (d', p) ∈ s'.functions → d' = d.defId) := by
  rcases selectFunction_steps h with ⟨-, rfl⟩ |
    ⟨-, fn, s₁, h₁, ⟨-, rfl⟩ | ⟨body, v, s₂, s₃, -, hrun, hend, rfl⟩⟩
  · exact ⟨0, Touches.refl _ 0, .inl rfl⟩
  · exact ⟨0, Touches.of_registers (declaredFunction_registers h₁).1 0, .inl rfl⟩
  · have reg := (declaredFunction_registers h₁).1
    obtain ⟨r, hm, -⟩ := declaredFunction_registration hi (by simp)
      (show Graph.Ty.Below _ .void from trivial) h₁
    have w₁ := (hw.registers reg).1
    -- the body is lowered in the function entered, and only there
    have k : Keeps (s₁.enterBody fn d) s₃ := by
      have k₂ := (hrun.built (w₁.ready.enterBody (declaredFunction_lt hw.ready.built h₁) d).1).2
      rcases hend with ⟨-, rfl⟩ | ⟨-, u, he⟩
      · exact k₂
      · exact k₂.trans (emit_keeps he)
    have t := ((Touches.of_registers reg fn).trans (Touches.enterBody s₁ fn d)).trans
      (Touches.of_keeps k)
    refine ⟨fn, ⟨t.1, t.2, t.3, t.4⟩, .inr fun d' hd' => ?_⟩
    rcases k.table _ hd' with hd' | hl
    · exact r.inv.functions.key_unique hd' hm
    · rw [State.length_enterBody] at hl
      exact absurd hl (Nat.not_le_of_lt (r.inv.functions.lt_of_mem hm).2)

theorem visitField_touches {f : FieldDecl} (hw : Walk s) (h : visitField f ctx s = .ok ((), s')) :
    Touches s s' 0 := by
  rcases visitField_steps h with ⟨-, rfl⟩ | ⟨init, v, s₁, u, s₂, -, -, h₁, h₂, rfl⟩
  · exact Touches.refl _ 0
  · -- the initializer is lowered at the end of the global initializer, at position `0`
    have t := Touches.of_keeps ((lowerExpr_keeps init h₁).trans (emit_keeps h₂))
    have hg : s.globalCursor.fn = 0 := hw.global
    exact ⟨hg ▸ t.1, hg ▸ t.2, t.3, t.4⟩

theorem visitOwn_touches {D : Decl} (hw : Walk s) (hi : Inv ctx s)
    (h : visitOwn D ctx s = .ok ((), s')) :
    ∃ p, Touches s s' p ∧ (p = 0 ∨ ∀ d, (d, p) ∈ s'.functions → d = D.defId) := by
  cases D with
  | klass c members =>
    obtain ⟨k, hk⟩ := visitOwn_klass h
    exact ⟨0, Touches.of_registers (klassId_registers hk).1 0, .inl rfl⟩
  | function f => exact selectFunction_touches hw hi h
  | field f => exact ⟨0, visitField_touches hw h, .inl rfl⟩

theorem visitOwn_walk {D : Decl} (hw : Walk s) (h : visitOwn D ctx s = .ok ((), s')) : Walk s' := by
  cases D with
  | klass c members =>
    obtain ⟨k, hk⟩ := visitOwn_klass h
    exact (hw.registers (klassId_registers hk).1).1
  | function f => exact (selectFunction_walk hw h).1
  | field f => exact (visitField_walk hw h).1

theorem visitOwn_global {D : Decl} (hw : Walk s) (hD : D.globalInit? = none)
    (h : visitOwn D ctx s = .ok ((), s')) :
    s'.fn 0 = s.fn 0 ∧ s'.globalCursor = s.globalCursor := by
  cases D with
  | klass c members =>
    obtain ⟨k, hk⟩ := visitOwn_klass h
    exact (hw.registers (klassId_registers hk).1).2
  | function f => exact (selectFunction_walk hw h).2
  | field f =>
    rcases visitField_steps h with ⟨-, rfl⟩ | ⟨init, v, s₁, u, s₂, hi, hc, -⟩
    · exact ⟨rfl, rfl⟩
    · simp [Decl.globalInit?, hi, hc] at hD

/-! ## The global initializer through codes -/

theorem Decl.globalInit?_eq_some {D : Decl} {x : FieldDecl × Expr} (h : D.globalInit? = some x) :
    D = .field x.1 ∧ x.1.init = some x.2 ∧ x.1.containingClass = none := by
  cases D with
  | field f =>
    simp only [Decl.globalInit?] at h
    split at h
    · cases h
      exact ⟨rfl, ‹_›, ‹_›⟩
    · cases h
  | klass | function => simp [Decl.globalInit?] at h

/-- The visits of the fields `xs`, with initializers, one after the other: each from a state
between declarations whose global initializer is seen as the one before it left it. -/
inductive InitChain (c : Context) : List (FieldDecl × Expr) → Function × Nat → Function × Nat →
    Prop
  | nil (v : Function × Nat) : InitChain c [] v v
  | cons {f : FieldDecl} {init : Expr} {rest : List (FieldDecl × Expr)} {v w : Function × Nat}
      {t t' : State} (inv : Inv c t) (walk : Walk t) (view : t.globalView = v)
      (field : (Decl.field f).globalInit? = some (f, init))
      (visit : visitField f c t = .ok ((), t')) (next : InitChain c rest t'.globalView w) :
      InitChain c ((f, init) :: rest) v w

theorem InitChain.append {c : Context} {xs ys : List (FieldDecl × Expr)} {u v w : Function × Nat}
    (h₁ : InitChain c xs u v) (h₂ : InitChain c ys v w) : InitChain c (xs ++ ys) u w := by
  induction h₁ with
  | nil => exact h₂
  | cons inv walk view field visit _ ih => exact .cons inv walk view field visit (ih h₂)

end Isel.Lower
