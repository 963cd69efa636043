import Isel.Proofs.Continuations
import Isel.Proofs.Regions
import Isel.Proofs.Reordering

/-! # Single-entry regions of selected programs

An expression lowered while a module is selected makes a region of its function: the blocks the
function gains while the expression is lowered. Right after the expression, every edge into the
region leaves its entry, the block at the cursor when the expression started, or the region
itself (`lowerExpr_single_entry`). The code lowered afterwards, in the constructs around the
expression, in the rest of its declaration and in the declarations after it, adds no edge into
the region: it branches to blocks of its own, to enclosing loops and landing blocks, none of
which is in the region, and nothing else. So the property holds of the selected program, where
the entry dominates every block of the region.

Where an expression is lowered is said by `Lowered`: a declaration lowers an expression on its
own (`Root`), and the expression is lowered while that one is (`Within`).
-/

namespace Isel.Graph.Function

/-- Blocks `n` to `n'` of the function form a region entered only from block `d`: every edge into
the region leaves `d` or the region, and `d` dominates every block of it. -/
structure Region (f : Function) (d n n' : Nat) : Prop where
  entries : ∀ a t, (a, t) ∈ f.edges → n ≤ t → t < n' → a = d ∨ n ≤ a ∧ a < n'
  dominated : ∀ t, n ≤ t → t < n' → f.Dominates d t

/-- A region entered only from a block before it is dominated by that block: a path from the
function's entry, which is not in the region, enters it through that block. -/
theorem Region.of_entries {f : Function} {d n n' : Nat} (hd : d < n)
    (h : ∀ a t, (a, t) ∈ f.edges → n ≤ t → t < n' → a = d ∨ n ≤ a ∧ a < n') :
    f.Region d n n' :=
  ⟨h, fun t ht ht' => dominates_of_entries (S := fun x => n ≤ x ∧ x < n') (by omega)
    (fun x y hxy hx hy => (h x y (mem_edges.2 hxy) hy.1 hy.2).resolve_right hx) ⟨ht, ht'⟩⟩

end Isel.Graph.Function

namespace Isel.Lower

open Isel.Graph (Operand Block Instr)
open Isel.Tree (Expr Decl FunctionDecl FieldDecl Module)

variable {ctx : Context} {F : Nat} {I : Nat → Prop} {s s' t t' u u' : State}

/-! ## Between declarations -/

theorem Unnamed.nil {n : Nat} : Unnamed [] none n :=
  ⟨fun _ h => absurd h List.not_mem_nil, by simp⟩

/-- Outside every loop and protected region, the blocks of a function of the program that
exist are fenced. -/
theorem Fenced.top (hf : F < s.program.functions.length) (hr : InRange s)
    (hm : ∀ t, I t → t < (s.fn F).blocks.length) (hl : s.loops = []) (hd : s.landing = none) :
    Fenced F I s :=
  ⟨hf, hr, hm, fun _ _ _ => by rw [hl, hd]; exact Unnamed.nil⟩

/-- Entering the body of a function: a new empty block, no loop and no landing block. -/
theorem Ready.enterBody_shut (hr : Ready s) (hs : Fenced F I s) {fn : Nat}
    (hfn : fn < s.program.functions.length) (d : FunctionDecl) : Shut F I s (s.enterBody fn d) := by
  obtain ⟨hb, hg⟩ := hr.enterBody hfn d
  refine ⟨hg F, fun l i ha => ?_, Fenced.top (by rw [State.length_enterBody]; exact hs.fn)
    hb.inRange (fun t ht => Nat.lt_of_lt_of_le (hs.made t ht) (hg F).1) rfl rfl⟩
  rw [State.fn_enterBody hfn] at ha
  split at ha
  · -- the body's function gains its empty entry block, no instruction
    rename_i hF
    subst hF
    change Graph.Added _ ((s.fn F).addBlock "entry").blocks l i at ha
    rw [Graph.Function.addBlock_blocks] at ha
    exact absurd ha Graph.Added.not_append
  · exact absurd ha Graph.Added.not_refl

/-- The statements of a block body, each a lowered expression. -/
theorem forM_shut {g : Expr → LowerM PUnit}
    (hg : ∀ e t t' u, g e ctx t = .ok (u, t') → ∃ w, lowerExpr e ctx t = .ok (w, t')) :
    ∀ (es : List Expr) {s s' : State}, Fenced F I s → es.forM g ctx s = .ok ((), s') →
      Shut F I s s'
  | [], _, _, hs, h => by
    cases h
    exact Shut.refl hs
  | e :: es, _, _, hs, h => by
    obtain ⟨u, s₁, h₁, h₂⟩ := bind_ok (x := g e) (f := fun _ => es.forM g) h
    obtain ⟨w, hw⟩ := hg e _ s₁ u h₁
    have k := Tallies.shut (lowerExpr_tally e) hs hw
    exact k.trans (forM_shut hg es k.fenced h₂)

theorem BodyRun.shut {body : Tree.Body} {v : Operand} (h : BodyRun ctx body s v s')
    (hs : Fenced F I s) : Shut F I s s' := by
  cases h with
  | expression h => exact Tallies.shut (lowerExpr_tally _) hs h
  | block g hg h => exact forM_shut hg _ hs h

/-- The end of a body: a return unless its block has ended. -/
theorem finishBody_shut {r : Operand} {s₃ : State} (hs : Fenced F I s)
    (hend : (s.curBlock.isTerminal = true ∧ s₃ = s) ∨
      (s.curBlock.isTerminal = false ∧ ∃ u, emit (.ret r) ctx s = .ok (u, s₃))) :
    Shut F I s { s₃ with current := none } := by
  have k : Shut F I s s₃ := by
    rcases hend with ⟨-, rfl⟩ | ⟨-, u, he⟩
    · exact Shut.refl hs
    · exact emit_shut hs he (by simp [Instr.successors])
  exact k.trans (Shut.of_same k.fenced rfl rfl rfl rfl)

theorem selectFunction_shut {d : FunctionDecl} (hr : Ready s) (hs : Fenced F I s)
    (h : selectFunction d ctx s = .ok ((), s')) : Shut F I s s' := by
  rcases selectFunction_steps h with ⟨-, rfl⟩ |
    ⟨-, fn, s₁, h₁, ⟨-, rfl⟩ | ⟨body, v, s₂, s₃, -, hrun, hend, rfl⟩⟩
  · exact Shut.refl hs
  · exact ((declaredFunction_registers h₁).1.quiet hs.placed).shut hs
  · have k₁ := ((declaredFunction_registers h₁).1.quiet hs.placed).shut hs
    have k₂ := (hr.registers (declaredFunction_registers h₁).1).enterBody_shut k₁.fenced
      (declaredFunction_lt hr.built h₁) d
    have k₃ := hrun.shut k₂.fenced
    exact k₁.trans (k₂.trans (k₃.trans (finishBody_shut k₃.fenced hend)))

/-- Where a top-level field's initializer is lowered: at the end of the global initializer, with
nothing bound. -/
theorem Ready.toInit_shut (hr : Ready s) (hs : Fenced F I s) :
    Shut F I s { s with env := [], landing := none, current := none, cursor := s.globalCursor } :=
  Shut.of_blocks (Fenced.top hs.fn hr.global hs.made hr.loops rfl) rfl

/-- The end of a field's initializer: the store of its value, and the return to the cursor and
bindings the field found. -/
theorem fieldEnd_shut {f : FieldDecl} {v w : Operand} {s₁ s₂ : State} (hr : Ready s)
    (hk : Keeps { s with env := [], landing := none, current := none, cursor := s.globalCursor } s₁)
    (hs : Fenced F I s₁) (h₂ : emit (.store v (.symbol f.name) 0) ctx s₁ = .ok (w, s₂)) :
    Shut F I s₁ { s₂ with
      globalCursor := s₂.cursor, cursor := s.cursor, env := s.env, landing := s.landing,
      current := s.current } := by
  have k₂ := emit_shut hs h₂ (by simp [Instr.successors])
  have j := hk.trans (emit_keeps h₂)
  refine k₂.trans (Shut.of_blocks (Fenced.top k₂.fenced.fn ⟨?_, ?_⟩ k₂.fenced.made
    (j.loops.trans hr.loops) hr.landing) rfl)
  · exact Nat.lt_of_lt_of_le hr.built.cursor.1 j.fnCount
  · exact Nat.lt_of_lt_of_le hr.built.cursor.2 (j.grows s.cursor.fn).1

theorem visitField_shut {f : FieldDecl} (hr : Ready s) (hs : Fenced F I s)
    (h : visitField f ctx s = .ok ((), s')) : Shut F I s s' := by
  rcases visitField_steps h with ⟨-, rfl⟩ | ⟨init, v, s₁, w, s₂, -, -, h₁, h₂, rfl⟩
  · exact Shut.refl hs
  · have k₀ := hr.toInit_shut hs
    have k₁ := Tallies.shut (lowerExpr_tally init) k₀.fenced h₁
    exact k₀.trans (k₁.trans (fieldEnd_shut hr (lowerExpr_keeps init h₁) k₁.fenced h₂))

theorem visitOwn_ready {D : Decl} (hr : Ready s) (h : visitOwn D ctx s = .ok ((), s')) :
    Ready s' := by
  cases D with
  | klass c members =>
    obtain ⟨k, hk⟩ := visitOwn_klass h
    exact hr.registers (klassId_registers hk).1
  | function d => exact selectFunction_ready hr h
  | field f => exact visitField_ready hr h

theorem forM_visitOwn_ready {A : List Decl} (hr : Ready s)
    (h : A.forM visitOwn ctx s = .ok ((), s')) :
    Ready s' :=
  forM_inv (fun _ _ _ _ _ ht he => visitOwn_ready ht he) hr h

theorem visitOwn_shut {D : Decl} (hr : Ready s) (hs : Fenced F I s)
    (h : visitOwn D ctx s = .ok ((), s')) : Shut F I s s' := by
  cases D with
  | klass c members =>
    obtain ⟨k, hk⟩ := visitOwn_klass h
    exact Quiet.shut klassId_quiet hs hk
  | function d => exact selectFunction_shut hr hs h
  | field f => exact visitField_shut hr hs h

/-- The declarations visited one at a time, each from a state between declarations. -/
theorem forM_visitOwn_shut : ∀ (B : List Decl) {s s' : State}, Ready s → Fenced F I s →
    B.forM visitOwn ctx s = .ok ((), s') → Shut F I s s'
  | [], _, _, _, hs, h => by
    obtain ⟨-, rfl⟩ := pure_ok (a := PUnit.unit) h
    exact Shut.refl hs
  | D :: B, _, _, hr, hs, h => by
    obtain ⟨s₁, h₁, h₂⟩ := forM_visitOwn_cons_ok h
    have k := visitOwn_shut hr hs h₁
    exact k.trans (forM_visitOwn_shut B (visitOwn_ready hr h₁) k.fenced h₂)

theorem finishGlobalInit_shut (hr : Ready s) (hs : Fenced F I s)
    (h : finishGlobalInit ctx s = .ok ((), s')) : Shut F I s s' := by
  have k₀ : Shut F I s { s with cursor := s.globalCursor } :=
    Shut.of_blocks (Fenced.top hs.fn hr.global hs.made hr.loops hr.landing) rfl
  rcases finishGlobalInit_steps h with ⟨-, rfl⟩ | ⟨-, w, he⟩
  · exact k₀
  · exact k₀.trans (emit_shut k₀.fenced he (by simp [Instr.successors]))

/-! ## The expressions a declaration lowers -/

/-- The expressions a declaration lowers on its own, each with the state its lowering starts in:
the body of a function that is one expression, each statement of a body that is a block after
the statements before it, and the initializer of a top-level field at the end of the global
initializer. -/
inductive Root (ctx : Context) (u : State) : Decl → Expr → State → Prop
  | body {d : FunctionDecl} {fn : Nat} {u₁ : State} {e : Expr} (ho : d.origin ≠ .fakeOverride)
      (h₁ : declaredFunction d.defId d.name [] .void ctx u = .ok (fn, u₁))
      (hb : d.body = some (.expression e)) : Root ctx u (.function d) e (u₁.enterBody fn d)
  | stmt {d : FunctionDecl} {fn : Nat} {u₁ : State} {pre post : List Expr} {e : Expr}
      {vs : List Operand} {t : State} (ho : d.origin ≠ .fakeOverride)
      (h₁ : declaredFunction d.defId d.name [] .void ctx u = .ok (fn, u₁))
      (hb : d.body = some (.block (pre ++ e :: post)))
      (hpre : lowerList pre ctx (u₁.enterBody fn d) = .ok (vs, t)) : Root ctx u (.function d) e t
  | field {f : FieldDecl} {e : Expr} (hi : f.init = some e) (hc : f.containingClass = none) :
      Root ctx u (.field f) e
        { u with env := [], landing := none, current := none, cursor := u.globalCursor }

/-- A declaration lowers its expressions from states of selection. -/
theorem Root.built {D : Decl} {e : Expr} (h : Root ctx u D e t) (hr : Ready u) :
    Built (fun _ => True) t := by
  cases h with
  | body ho h₁ hb =>
    exact ((hr.registers (declaredFunction_registers h₁).1).enterBody
      (declaredFunction_lt hr.built h₁) _).1.forget
  | stmt ho h₁ hb hpre =>
    exact lowerList_built _ ((hr.registers (declaredFunction_registers h₁).1).enterBody
      (declaredFunction_lt hr.built h₁) _).1.forget hpre
  | field hi hc =>
    exact (hr.toGlobal.of_blocks
      (t := { u with env := [], landing := none, current := none, cursor := u.globalCursor })
      (fun _ => rfl) (Nat.le_refl _) rfl rfl hr.landing.symm hr.toGlobal.table).forget

/-- The statements before one, run by the body as by `lowerList`, end where `lowerList` ends. -/
theorem forM_eq_lowerList {g : Expr → LowerM PUnit}
    (hg : ∀ e t t' u, g e ctx t = .ok (u, t') → ∃ w, lowerExpr e ctx t = .ok (w, t')) :
    ∀ (pre : List Expr) {s t t' : State} {vs : List Operand}, pre.forM g ctx s = .ok ((), t) →
      lowerList pre ctx s = .ok (vs, t') → t = t'
  | [], _, _, _, _, h, h' => by
    cases h
    exact (lowerList_nil_steps h').2.symm
  | e :: es, _, _, _, _, h, h' => by
    obtain ⟨u, s₁, h₁, h₂⟩ := bind_ok (x := g e) (f := fun _ => es.forM g) h
    obtain ⟨w, hw⟩ := hg e _ s₁ u h₁
    obtain ⟨a, s₁', as, e₁, e₂, -⟩ := lowerList_cons_steps h'
    obtain ⟨-, rfl⟩ := run_unique hw e₁
    exact forM_eq_lowerList hg es h₂ e₂

/-- A function with a body, once declared, lowers the body at a new entry block and ends it. -/
theorem selectFunction_body_steps {d : FunctionDecl} {fn : Nat} {u₁ : State} {body : Tree.Body}
    (ho : d.origin ≠ .fakeOverride)
    (h₁ : declaredFunction d.defId d.name [] .void ctx u = .ok (fn, u₁)) (hb : d.body = some body)
    (h : selectFunction d ctx u = .ok ((), u')) :
    ∃ v s₂ s₃, BodyRun ctx body (u₁.enterBody fn d) v s₂ ∧
      ((s₂.curBlock.isTerminal = true ∧ s₃ = s₂) ∨
        (s₂.curBlock.isTerminal = false ∧ ∃ w, emit (.ret (if d.returnTy == .unit ||
          d.returnTy == .nothing then .unit else v)) ctx s₂ = .ok (w, s₃))) ∧
      u' = { s₃ with current := none } := by
  rcases selectFunction_steps h with ⟨ho', -⟩ |
    ⟨-, fn', s₁, e₁, ⟨hn, -⟩ | ⟨body', v, s₂, s₃, hb', hrun, hend, rfl⟩⟩
  · exact absurd ho' ho
  · exact absurd (hb.symm.trans hn) (by simp)
  obtain ⟨rfl, rfl⟩ := run_unique h₁ e₁
  obtain rfl := Option.some.inj (hb.symm.trans hb')
  exact ⟨v, s₂, s₃, hrun, hend, rfl⟩

/-- What a declaration does after one of its own expressions: the statements after it, the
return at the end of the body, or the store of a field's value. -/
theorem Root.shut {D : Decl} {e : Expr} {v : Operand} (h : Root ctx u D e t) (hr : Ready u)
    (hD : visitOwn D ctx u = .ok ((), u')) (he : lowerExpr e ctx t = .ok (v, t'))
    (hs : Fenced F I t') : Shut F I t' u' := by
  cases h with
  | body ho h₁ hb =>
    obtain ⟨v', s₂, s₃, hrun, hend, rfl⟩ := selectFunction_body_steps ho h₁ hb hD
    cases hrun with
    | expression hrun =>
      obtain ⟨-, rfl⟩ := run_unique he hrun
      exact finishBody_shut hs hend
  | stmt ho h₁ hb hpre =>
    obtain ⟨v', s₂, s₃, hrun, hend, rfl⟩ := selectFunction_body_steps ho h₁ hb hD
    cases hrun with
    | block g hg hrun =>
      -- the statements before `e` end where `e` starts, and `e` ends where the rest starts
      rw [List.forM_eq_forM, List.forM_append] at hrun
      obtain ⟨_, t₁, h₂, h₃⟩ := bind_ok hrun
      obtain rfl := forM_eq_lowerList hg _ h₂ hpre
      obtain ⟨_, t₂, h₄, h₅⟩ := bind_ok (x := g e) (f := fun _ => List.forM _ g) h₃
      obtain ⟨w, hw⟩ := hg e _ t₂ _ h₄
      obtain ⟨-, rfl⟩ := run_unique he hw
      have k := forM_shut hg _ hs h₅
      exact k.trans (finishBody_shut k.fenced hend)
  | field hi hc =>
    rcases visitField_steps hD with ⟨hn | hn, -⟩ | ⟨init, v', s₁, w, s₂, hi', -, e₁, e₂, rfl⟩
    · exact absurd (hi.symm.trans hn) (by simp)
    · exact absurd hn (by simp [hc])
    obtain rfl := Option.some.inj (hi.symm.trans hi')
    obtain ⟨-, rfl⟩ := run_unique he e₁
    exact fieldEnd_shut hr (lowerExpr_keeps _ e₁) hs e₂

/-! ## Selected programs -/

/-- `e` is lowered from `s` to `s'` while `m` is selected: a declaration, visited after the
ones before it in the depth-first list of the module, lowers an expression of its own, and `e`
is lowered while that one is. -/
def Lowered (m : Module) (cfg : Config) (e : Expr) (s s' : State) : Prop :=
  ∃ A D B u r t t', Decl.flatten m.decls = A ++ D :: B ∧
    A.forM visitOwn (moduleContext m cfg) (State.start cfg.globalInitName) = .ok ((), u) ∧
    Root (moduleContext m cfg) u D r t ∧
    Within (moduleContext m cfg) (.expr e) s s' (.expr r) t t'

/-- With every block of the cursor's function that is pending an old one. -/
theorem Built.old (hb : Built (fun _ => True) s) :
    Built (fun c => c.fn = s.cursor.fn → c.block < s.curFn.blocks.length) s :=
  ⟨hb.cursor, fun c b h => .inr (.inr fun hc => by
    have hlt := (List.getElem?_eq_some_iff.1 h).1
    rwa [State.curFn, ← hc]), hb.sound, hb.loops, hb.landing, hb.table⟩

/-- Every expression lowered while a module is selected makes a single-entry region of its
function: right after the expression, the region is as `SingleEntry` says; in the selected
program, every edge into a block of the region still leaves the block at the cursor where the
expression started or a block of the region, and that block dominates the region. The blocks of
the region, fenced where the expression ends, stay shut through the constructs around it, the
rest of its declaration, the declarations after it and the end of the global initializer. -/
theorem selection_regions_single_entry {m : Module} {cfg : Config} {sel : Selection} {e : Expr}
    (h : selectModule m cfg = .ok sel) (hl : Lowered m cfg e s s') :
    SingleEntry s s' ∧ ∃ f, sel.program.functions[s.cursor.fn]? = some f ∧
      f.Region s.cursor.block s.curFn.blocks.length s'.curFn.blocks.length := by
  obtain ⟨A, D, B, u, r, t, t', hAB, hA, hroot, hw⟩ := hl
  obtain ⟨s₁, sf, h₁, h₂, rfl⟩ := selectModule_steps h
  rw [visitDecls_eq_forM, hAB] at h₁
  obtain ⟨u₀, u', e₁, e₂, e₃⟩ := run_split h₁
  obtain ⟨-, rfl⟩ := run_unique hA e₁
  have hu := forM_visitOwn_ready (Ready.start _) hA
  have hbt := hroot.built hu
  obtain ⟨he, -⟩ := hw.entered hbt trivial
  obtain ⟨v, hv⟩ := hw.inner_runs
  have se := lowerExpr_single_entry he.built.old (fun _ hc hf => hc hf) hv
  -- the region, fenced where `e` ends
  have hF : s'.cursor.fn = t.cursor.fn := (lowerExpr_keeps e hv).fn.trans he.fn
  have hs : Fenced t.cursor.fn (fun i => s.curFn.blocks.length ≤ i ∧ i < s'.curFn.blocks.length)
      s' := by
    have b' := lowerExpr_built e he.built hv
    refine ⟨hF ▸ b'.cursor.1, b'.inRange, fun i hi => ?_, fun _ i hi => se.unnamed i hi.1⟩
    rw [← hF]
    exact hi.2
  -- and shut until selection ends
  obtain ⟨vr, hr⟩ := hw.runs
  have k₁ := hw.shut (fun i hi => hi.1) hbt trivial hs
  have k₂ := hroot.shut hu e₂ hr k₁.fenced
  have hu' := visitOwn_ready hu e₂
  have k₃ := forM_visitOwn_shut B hu' k₂.fenced e₃
  have k := k₁.trans (k₂.trans (k₃.trans
    (finishGlobalInit_shut (forM_visitOwn_ready hu' e₃) k₃.fenced h₂)))
  have hlt : t.cursor.fn < sf.program.functions.length := k.fenced.fn
  refine ⟨se, sf.fn t.cursor.fn, ?_, Graph.Function.Region.of_entries he.built.cursor.2
    fun a b hab hb hb' => ?_⟩
  · rw [he.fn]
    simp [State.fn, List.getD_eq_getElem?_getD, hlt]
  -- an edge into the region was there when `e` ended
  have hab' : (a, b) ∈ s'.curFn.edges := by
    rw [State.curFn, hF]
    exact k.edges (he.fn ▸ hab) ⟨hb, hb'⟩
  obtain ⟨bl, hbl, -⟩ := Graph.Function.mem_edges.1 hab'
  exact (se.entries a b hab' hb).imp_right fun ha => ⟨ha, (List.getElem?_eq_some_iff.1 hbl).1⟩

/-- A top-level field whose initializer is a block with a loop around a protected call. -/
def retryGlobal : Module :=
  ⟨"retry", [.field ⟨⟨0⟩, "r", .unit, none, some retryBlock, ⟨0, 0, 1, 1⟩⟩]⟩

/-- The initializer of `retryGlobal`, lowered in the global initializer, makes a region of new
blocks that the global initializer of the selected program enters only from its first block. -/
theorem retryGlobal_single_entry : ∃ sel s s', selectModule retryGlobal {} = .ok sel ∧
    Lowered retryGlobal {} retryBlock s s' ∧ s.curFn.blocks.length < s'.curFn.blocks.length ∧
    SingleEntry s s' ∧ ∃ f, sel.program.functions[s.cursor.fn]? = some f ∧
      f.Region s.cursor.block s.curFn.blocks.length s'.curFn.blocks.length := by
  have hok : (selectModule retryGlobal {}).isOk = true := by decide +kernel
  obtain ⟨sel, h⟩ : ∃ sel, selectModule retryGlobal {} = .ok sel := by
    cases h : selectModule retryGlobal {} with
    | error e =>
      rw [h] at hok
      cases hok
    | ok sel => exact ⟨sel, rfl⟩
  have hgrow : (match lowerExpr retryBlock (moduleContext retryGlobal {})
      (State.start "global-init") with
    | .ok (_, s') => decide ((State.start "global-init").curFn.blocks.length <
        s'.curFn.blocks.length)
    | .error _ => false) = true := by decide +kernel
  cases hr : lowerExpr retryBlock (moduleContext retryGlobal {}) (State.start "global-init") with
  | error e =>
    rw [hr] at hgrow
    cases hgrow
  | ok r =>
    rw [hr] at hgrow
    have hl : Lowered retryGlobal {} retryBlock (State.start "global-init") r.2 :=
      ⟨[], _, [], _, retryBlock, _, r.2, rfl, rfl, .field rfl rfl, .refl ⟨r.1, hr⟩⟩
    exact ⟨sel, _, r.2, h, hl, of_decide_eq_true hgrow, selection_regions_single_entry h hl⟩

end Isel.Lower
