import Isel.Proofs.LockstepLowering
import Isel.Proofs.Visits

/-!
# Visiting a declaration in lockstep

Two runs about to visit the same declaration, over contexts that declare the same, need not be
in corresponding states: each has registered what its own order met so far, and its cursor is
wherever its last visit left it. What a visit reads is less: a function is entered fresh, from
its declaration alone, and a field's initializer is lowered at the end of the global
initializer. So if the function has no block yet in either run (`State.Unentered`), and for a
field the two global initializers agree up to codes, the two runs visit the declaration alike
(`Poised`): the second succeeds whenever the first does, registers whatever the first does, and
selects the same function, or extends the global initializer alike, up to codes (`Agreed`).

Instantiated with one run against itself, this gives what a visit keeps in a single run, and by
induction what visiting a list keeps (`Visited`).
-/

namespace Isel.Lower

open Isel.Graph (Operand Instr Var Block Function)
open Isel.Tree (Expr Body FieldDecl FunctionDecl Decl DefId)

/-! ## The body of a function -/

def lowerBody (d : FunctionDecl) : Body → LowerM Operand
  | .expression e => lowerExpr e
  | .block stmts => do
    stmts.forM fun e => do
      let _ ← lowerExpr e
    pure .unit
  | .synthetic => throw (.lowering (.unsupportedBody d.name d.span))

/-- The end of a function body: a block left open returns the body's value, and no function is
being lowered any more. -/
def returnValue (d : FunctionDecl) (value : Operand) : LowerM Unit := do
  unless ← isTerminated do
    let _ ← emit (.ret (if d.returnTy == .unit || d.returnTy == .nothing then .unit else value))
  modify fun s => { s with current := none }

section One

variable {ctx : Context} {s s' : State} {d : FunctionDecl} {fn : Nat}

theorem selectFunction_fake (ho : d.origin = .fakeOverride) : selectFunction d ctx s = .ok ((), s) := by
  unfold selectFunction
  simp only [ho, beq_self_eq_true, ↓reduceIte]
  rfl

theorem selectFunction_bodyless {fn : Nat} {s₁ : State} (ho : d.origin ≠ .fakeOverride)
    (hb : d.body = none) (h : declaredFunction d.defId d.name [] .void ctx s = .ok (fn, s₁)) :
    selectFunction d ctx s = .ok ((), s₁) := by
  unfold selectFunction
  simp only [show (d.origin == .fakeOverride) = false from by simpa using ho, Bool.false_eq_true,
    ↓reduceIte]
  rw [bind_of_ok h]
  simp only [hb]
  rfl

theorem selectFunction_body {body : Body} {fn : Nat} {s₁ : State} (ho : d.origin ≠ .fakeOverride)
    (hb : d.body = some body) (h : declaredFunction d.defId d.name [] .void ctx s = .ok (fn, s₁))
    (hfn : fn < s₁.program.functions.length) :
    selectFunction d ctx s = (lowerBody d body >>= returnValue d) ctx (s₁.enterBody fn d) := by
  unfold selectFunction
  simp only [show (d.origin == .fakeOverride) = false from by simpa using ho, Bool.false_eq_true,
    ↓reduceIte]
  rw [bind_of_ok h]
  simp only [hb]
  rw [bind_of_ok (beginFunction_run hfn), bind_of_ok (modifyFunction_run _ _ _ _), bind_of_ok rfl,
    bind_of_ok (currentFunction_run _ _ (by simpa [State.length_mapFn] using hfn)),
    bind_of_ok (forM_bindLocal_run _ _ _ _ (fun x => x.1.var) (fun x => .var x.2) fun x => by
      cases x; rfl)]
  simp only [List.append_nil]
  -- the lowering of the body is the same `do` block, with its match moved out
  cases body with
  | block stmts =>
    simp only [lowerBody, bind_assoc, pure_bind]
    rfl
  | expression e | synthetic => rfl

theorem State.curFn_enterBody (hfn : fn < s.program.functions.length) :
    (s.enterBody fn d).curFn = { (s.fn fn).addBlock "entry" with span := d.span } := by
  show ((s.mapFn fn (·.addBlock "entry")).mapFn fn fun f => { f with span := d.span }).fn fn = _
  rw [State.fn_mapFn_self _ _ (by rw [State.length_mapFn]; exact hfn),
    State.fn_mapFn_self _ _ hfn]

theorem State.fn_enterBody (hfn : fn < s.program.functions.length) (j : Nat) :
    (s.enterBody fn d).fn j = if j = fn then { (s.fn fn).addBlock "entry" with span := d.span }
      else s.fn j := by
  split
  · rename_i hj
    subst hj
    exact State.curFn_enterBody hfn
  · rename_i hj
    show ((s.mapFn fn (·.addBlock "entry")).mapFn fn fun f => { f with span := d.span }).fn j = _
    rw [State.fn_mapFn_of_ne _ _ (Ne.symm hj), State.fn_mapFn_of_ne _ _ (Ne.symm hj)]

theorem State.env_enterBody (hfn : fn < s.program.functions.length) :
    (s.enterBody fn d).env =
      ((d.params.zip (s.fn fn).params).map fun pv => (pv.1.var, Operand.var pv.2)).reverse := by
  show ((d.params.zip (s.enterBody fn d).curFn.params).map _).reverse = _
  rw [State.curFn_enterBody hfn]
  rfl

theorem Inv.enterBody (h : Inv ctx s) (hfn : fn < s.program.functions.length) :
    Inv ctx (s.enterBody fn d) := by
  have hlen := State.length_enterBody s fn d
  have hfn' := State.fn_enterBody (d := d) hfn
  refine ⟨h.klasses, hlen ▸ h.functions, h.klassOf, fun d' j f hm hf => ?_, fun j => ?_,
    fun j hj hb => ?_, ?_, fun e he => ?_, by rw [hlen]; exact hfn⟩
  · rw [hfn']
    split
    · rename_i hj
      subst hj
      exact h.declared d' j f hm hf
    · exact h.declared d' j f hm hf
  · rw [hfn', hlen]
    split
    · rename_i hj
      subst hj
      have b := (h.below j).addBlock "entry"
      exact ⟨b.blocks, b.params, b.returnTy⟩
    · exact h.below j
  · rw [hfn'] at hb ⊢
    split at hb
    · simp [Function.addBlock] at hb
    · rw [if_neg ‹_›]
      exact h.fresh j (hlen ▸ hj) hb
  · show (s.enterBody fn d).curFn.blocks ≠ []
    rw [State.curFn_enterBody hfn]
    simp [Function.addBlock]
  · rw [State.env_enterBody hfn] at he
    obtain ⟨pv, hpv, rfl⟩ := List.mem_map.1 (List.mem_reverse.1 he)
    exact (h.below fn).params pv.2 (List.of_mem_zip hpv).2

theorem Inv.rename_curFn_enterBody (h : Inv ctx s) (hF : ctx.functionDecl? d.defId = some d)
    (hm : (d.defId, fn) ∈ s.functions) (hu : (s.fn fn).blocks = []) :
    (s.enterBody fn d).curFn.rename s.fcode s.kcode =
      { name := ctx.functionName d, params := d.loweredParams, returnTy := d.returnTy.lowered,
        blocks := [⟨"entry", []⟩], span := d.span, nextVar := 0 } := by
  have hfn := (h.functions.lt_of_mem hm).2
  obtain ⟨hn, hp, hr⟩ := h.declared _ _ _ hm hF
  have hv := (h.fresh fn hfn hu).1
  rw [State.curFn_enterBody hfn]
  generalize s.fn fn = f at hn hp hr hv hu
  cases f
  simp_all [Function.rename, Function.addBlock, Block.rename]

theorem Inv.rename_env_enterBody (h : Inv ctx s) (hF : ctx.functionDecl? d.defId = some d)
    (hm : (d.defId, fn) ∈ s.functions) :
    (s.enterBody fn d).env.map (fun e => (e.1, e.2.rename s.kcode)) =
      ((d.params.zip d.loweredParams).map fun pv => (pv.1.var, Operand.var pv.2)).reverse := by
  rw [State.env_enterBody (h.functions.lt_of_mem hm).2, ← (h.declared _ _ _ hm hF).2.1,
    List.zip_map_right, List.map_reverse, List.map_map, List.map_map]
  rfl

theorem Inv.of_program (h : Inv ctx s) (hp : s'.program = s.program) (hf : s'.functions = s.functions)
    (hk : s'.klasses = s.klasses) (he : ∀ e ∈ s'.env, e.2.Below s.program.klasses.length)
    (hc : s'.cursor.fn < s.program.functions.length) (hb : (s.fn s'.cursor.fn).blocks ≠ []) :
    Inv ctx s' := by
  have hfn : ∀ j, s'.fn j = s.fn j := fun j => by simp [State.fn, hp]
  have hkc : s'.kcode = s.kcode := by simp [State.kcode, hk]
  refine ⟨hk ▸ hp ▸ h.klasses, hf ▸ hp ▸ h.functions, fun c' k hm => ?_, fun d j f hm hF => ?_,
    fun j => ?_, fun j hj hb' => ?_, ?_, fun e he' => ?_, ?_⟩
  · rw [hp]; exact h.klassOf c' k (hk ▸ hm)
  · rw [hfn, hkc]; exact h.declared d j f (hf ▸ hm) hF
  · rw [hfn, hp]; exact h.below j
  · rw [hfn] at hb' ⊢; exact h.fresh j (hp ▸ hj) hb'
  · show (s'.fn s'.cursor.fn).blocks ≠ []
    rw [hfn]; exact hb
  · rw [hp]; exact he e he'
  · show s'.cursor.fn < s'.program.functions.length
    rw [hp]; exact hc

theorem Registers.unentered (h : Registers s s') {d : DefId} (hu : s.Unentered d) : s'.Unentered d := by
  intro j hj
  obtain ⟨fs, ks, tf, tk, hfs, htf, rfl⟩ := h
  rw [State.blocks_fn_extend hfs]
  rcases List.mem_append.1 hj with hj | hj
  · exact State.blocks_fn_of_le (htf _ hj).1
  · exact hu j hj

theorem visitField_skip {f : FieldDecl} (hn : f.init = none ∨ f.containingClass.isSome = true) :
    visitField f ctx s = .ok ((), s) := by
  unfold visitField
  rcases hn with hn | hn
  · rw [hn]
    rfl
  · cases hi : f.init with
    | none => rfl
    | some init =>
      simp only [hn, ↓reduceIte]
      rfl

theorem visitField_init {f : FieldDecl} {init : Expr} {v u : Operand} {s₁ s₂ : State}
    (hi : f.init = some init) (hc : f.containingClass = none)
    (h₁ : lowerExpr init ctx
      { s with env := [], landing := none, current := none, cursor := s.globalCursor } = .ok (v, s₁))
    (h₂ : emit (.store v (.symbol f.name) 0) ctx s₁ = .ok (u, s₂)) :
    visitField f ctx s = .ok ((), { s₂ with
      globalCursor := s₂.cursor, cursor := s.cursor, env := s.env, landing := s.landing,
      current := s.current }) := by
  unfold visitField
  simp only [hi, hc, Option.isSome_none, Bool.false_eq_true, ↓reduceIte]
  rw [bind_of_ok (get_run _ _), bind_of_ok rfl, bind_of_ok h₁, bind_of_ok h₂]
  rfl

end One

/-! ## Two runs -/

section Two

variable {c₁ c₂ : Context} {s s' t t' : State}

theorem SameDecls.refl (c : Context) : SameDecls c c := ⟨rfl, fun _ => rfl⟩

theorem Covers.trans_suffix {s₁ s₂ t₁ t₂ : State} (h₁ : Covers s s₁ t₁) (h₂ : Covers s₁ s₂ t₂)
    (hk : t₁.klasses <:+ t₂.klasses) (hf : t₁.functions <:+ t₂.functions) : Covers s s₂ t₂ := by
  refine ⟨fun c hc => ?_, fun d hd => ?_⟩
  · rcases h₂.1 c hc with hc | hc
    · exact (h₁.1 c hc).imp_right fun h => (hk.map Prod.fst).subset h
    · exact .inr hc
  · rcases h₂.2 d hd with hd | hd
    · exact (h₁.2 d hd).imp_right fun h => (hf.map Prod.fst).subset h
    · exact .inr hd

theorem Related.enterBody (hd : SameDecls c₁ c₂) (i₁ : Inv c₁ s) (i₂ : Inv c₂ t) {F : FunctionDecl}
    (hF : c₁.functionDecl? F.defId = some F) {fn fn' : Nat} (hm₁ : (F.defId, fn) ∈ s.functions)
    (hm₂ : (F.defId, fn') ∈ t.functions) (u₁ : (s.fn fn).blocks = []) (u₂ : (t.fn fn').blocks = []) :
    Related c₁ c₂ (s.enterBody fn F) (t.enterBody fn' F) := by
  have hF₂ : c₂.functionDecl? F.defId = some F := (hd.functionDecl F.defId).trans hF
  refine ⟨hd, i₁.enterBody (i₁.functions.lt_of_mem hm₁).2, i₂.enterBody (i₂.functions.lt_of_mem hm₂).2,
    ⟨?_, ?_, ?_, ?_, rfl, rfl, rfl⟩⟩
  · show (t.fn fn').blocks.length = (s.fn fn).blocks.length
    rw [u₁, u₂]
  · show t.fcode fn' = s.fcode fn
    rw [i₁.fcode_of_mem hm₁, i₂.fcode_of_mem hm₂]
  · show (t.enterBody fn' F).curFn.rename t.fcode t.kcode = (s.enterBody fn F).curFn.rename s.fcode s.kcode
    rw [i₁.rename_curFn_enterBody hF hm₁ u₁, i₂.rename_curFn_enterBody hF₂ hm₂ u₂, hd.functionName]
  · show (t.enterBody fn' F).env.map (fun e => (e.1, e.2.rename t.kcode)) =
      (s.enterBody fn F).env.map (fun e => (e.1, e.2.rename s.kcode))
    rw [i₁.rename_env_enterBody hF hm₁, i₂.rename_env_enterBody hF₂ hm₂]

theorem forM_lowerExpr_lockstep (stmts : List Expr) :
    Lockstep c₁ c₂ (stmts.forM fun e => do let _ ← lowerExpr e) fun _ _ _ _ => True := by
  induction stmts with
  | nil => exact fun _ _ rel => SimAt.pure rel trivial
  | cons e es ih =>
    intro _ _ rel
    show SimAt c₁ c₂ _ _ ((do let _ ← lowerExpr e) >>= fun _ => es.forM _)
      ((do let _ ← lowerExpr e) >>= fun _ => es.forM _) _
    exact SimAt.bind (R := fun _ _ _ _ => True) (SimAt.bind (lowerExpr_lockstep e rel)
      fun _ _ _ _ st _ => SimAt.pure st.rel trivial) fun _ _ _ _ st _ => ih st.rel

theorem clearCurrent_sim (rel : Related c₁ c₂ s t) :
    SimAt c₁ c₂ s t (modify fun s => { s with current := none })
      (modify fun s => { s with current := none }) fun _ _ _ _ => True :=
  SimAt.of_run rfl rfl (Step.control rel rfl rfl rfl rfl rfl rfl rfl rfl rfl rfl
    ⟨rel.agree.block, rel.agree.fn, rel.agree.curFn, rel.agree.env, rel.agree.loops,
      rel.agree.landing, rfl⟩) trivial

theorem lowerBody_lockstep (d : FunctionDecl) (body : Body) :
    Lockstep c₁ c₂ (lowerBody d body) Corr := by
  intro s t rel
  cases body with
  | expression e => exact lowerExpr_lockstep e rel
  | block stmts =>
    exact SimAt.bind (forM_lowerExpr_lockstep stmts rel) fun _ _ _ _ st _ => SimAt.pure st.rel Corr.unit
  | synthetic => exact SimAt.of_throw

theorem returnValue_sim (d : FunctionDecl) (rel : Related c₁ c₂ s t) {v v' : Operand}
    (hv : Corr s t v v') :
    SimAt c₁ c₂ s t (returnValue d v) (returnValue d v') fun _ _ _ _ => True := by
  unfold returnValue
  refine SimAt.bind_eq (isTerminated_sim rel) fun b s₁ t₁ st₁ => ?_
  cases b
  · simp only [Bool.false_eq_true, ↓reduceIte]
    -- the value returned from a block left open
    have hr : Corr s₁ t₁
        (if (d.returnTy == .unit || d.returnTy == .nothing) = true then Operand.unit else v)
        (if (d.returnTy == .unit || d.returnTy == .nothing) = true then Operand.unit else v') := by
      split
      · exact Corr.unit
      · exact hv.mono st₁
    exact SimAt.bind (emit_sim st₁.rel (Corr.ret hr)) fun _ _ _ _ st₂ _ => clearCurrent_sim st₂.rel
  · simp only [↓reduceIte]
    exact clearCurrent_sim st₁.rel

/-! ## Visiting a declaration in lockstep -/

/-- Two runs about to visit the declaration `D`, over contexts that declare the same with `D`
among the declarations: neither run has entered a function of `D` yet, and if `D` is a field
with an initializer, the two global initializers agree up to codes. -/
structure Poised (c₁ c₂ : Context) (D : Decl) (s t : State) : Prop where
  decls : SameDecls c₁ c₂
  decl : c₁.decl? D.defId = some D
  inv₁ : Inv c₁ s
  inv₂ : Inv c₂ t
  walk₁ : Walk s
  walk₂ : Walk t
  unentered₁ : s.Unentered D.defId
  unentered₂ : t.Unentered D.defId
  view : D.globalInit?.isSome → t.globalView = s.globalView

/-- What two runs agree on once both visited `D`: whatever the first registered the second has
registered too, a field with an initializer leaves the global initializers agreeing, and a
function with a body is selected to the same function up to codes. Each run keeps `Inv` and only
adds to its tables. -/
structure Agreed (c₁ c₂ : Context) (D : Decl) (s s' t t' : State) : Prop where
  inv₁ : Inv c₁ s'
  inv₂ : Inv c₂ t'
  functions₁ : s.functions <:+ s'.functions
  klasses₁ : s.klasses <:+ s'.klasses
  functions₂ : t.functions <:+ t'.functions
  klasses₂ : t.klasses <:+ t'.klasses
  covers : Covers s s' t'
  view : D.globalInit?.isSome → t'.globalView = s'.globalView
  body : ∀ F, D = .function F → F.origin ≠ .fakeOverride → F.body.isSome →
    ∃ j j', (F.defId, j) ∈ s'.functions ∧ (F.defId, j') ∈ t'.functions ∧
      (t'.fn j').rename t'.fcode t'.kcode = (s'.fn j).rename s'.fcode s'.kcode

theorem Agreed.of_registration {D : Decl} {ks fs ks' fs' : List DefId}
    (r₁ : Registration c₁ s s' ks fs) (r₂ : Registration c₂ t t' ks' fs')
    (hk : ∀ k ∈ ks, k ∈ t'.klasses.map Prod.fst) (hf : ∀ d ∈ fs, d ∈ t'.functions.map Prod.fst)
    (hv : D.globalInit? = none)
    (hb : ∀ F, D = .function F → F.origin ≠ .fakeOverride → F.body.isSome → False) :
    Agreed c₁ c₂ D s s' t t' :=
  ⟨r₁.inv, r₂.inv, r₁.registers.functions, r₁.registers.klasses, r₂.registers.functions,
    r₂.registers.klasses, Covers.of_registration r₁ hk hf, fun h => by simp [hv] at h,
    fun F hF ho hs => (hb F hF ho hs).elim⟩

theorem klass_agree {cls : Tree.ClassInfo} {members : List Decl}
    (p : Poised c₁ c₂ (.klass cls members) s t)
    (e : visitOwn (.klass cls members) c₁ s = .ok ((), s')) :
    ∃ t', visitOwn (.klass cls members) c₂ t = .ok ((), t') ∧
      Agreed c₁ c₂ (.klass cls members) s s' t t' := by
  obtain ⟨k, hk⟩ := visitOwn_klass e
  obtain ⟨k', t', hk'⟩ := klassId_ok cls.defId c₂ t
  obtain ⟨r₁, -⟩ := klassId_registration p.inv₁ hk
  obtain ⟨r₂, hm₂⟩ := klassId_registration p.inv₂ hk'
  refine ⟨t', ?_, Agreed.of_registration r₁ r₂ (fun k hk => ?_) (fun d hd => by simp at hd) rfl
    fun F hF => by cases hF⟩
  · show (klassId cls.defId >>= fun _ => pure ()) c₂ t = _
    rw [bind_of_ok hk']
    rfl
  · obtain rfl := List.mem_singleton.1 hk
    exact List.mem_map.2 ⟨_, hm₂, rfl⟩

theorem selectFunction_agree {F : FunctionDecl} (hd : SameDecls c₁ c₂) (i₁ : Inv c₁ s)
    (i₂ : Inv c₂ t) (hF : c₁.functionDecl? F.defId = some F) (u₁ : s.Unentered F.defId)
    (u₂ : t.Unentered F.defId) (e : selectFunction F c₁ s = .ok ((), s')) :
    ∃ t', selectFunction F c₂ t = .ok ((), t') ∧ Agreed c₁ c₂ (.function F) s s' t t' := by
  have hv : (Decl.function F).globalInit? = none := rfl
  by_cases ho : F.origin = .fakeOverride
  · rw [selectFunction_fake ho] at e
    cases e
    exact ⟨t, selectFunction_fake ho, Agreed.of_registration (.refl i₁ [] []) (.refl i₂ [] [])
      (by simp) (by simp) hv fun F' hF' ho' _ => by cases hF'; exact ho' ho⟩
  have hF₂ : c₂.functionDecl? F.defId = some F := (hd.functionDecl F.defId).trans hF
  -- both runs register the function under its declared signature
  rcases selectFunction_steps e with ⟨ho', -⟩ | ⟨-, fn, s₁, h₁, -⟩
  · exact absurd ho' ho
  obtain ⟨fn', t₁, g₁⟩ := declaredFunction_ok F.defId F.name [] .void c₂ t
  obtain ⟨r₁, hm₁, -⟩ := declaredFunction_registration i₁ (by simp)
    (show Graph.Ty.Below _ .void from trivial) h₁
  obtain ⟨r₂, hm₂, hc₂⟩ := declaredFunction_registration i₂ (by simp)
    (show Graph.Ty.Below _ .void from trivial) g₁
  have cov : Covers s s₁ t₁ := Covers.of_registration r₁
    (fun k hk => hc₂ F hF₂ k (by simpa [hF] using hk))
    fun d hd => by
      obtain rfl := List.mem_singleton.1 hd
      exact List.mem_map.2 ⟨_, hm₂, rfl⟩
  cases hb : F.body with
  | none =>
    rw [selectFunction_bodyless ho hb h₁] at e
    cases e
    refine ⟨t₁, selectFunction_bodyless ho hb g₁, ⟨r₁.inv, r₂.inv, r₁.registers.functions,
      r₁.registers.klasses, r₂.registers.functions, r₂.registers.klasses, cov,
      fun h => by simp [hv] at h, fun F' hF' _ hs => ?_⟩⟩
    cases hF'
    simp [hb] at hs
  | some body =>
    rw [selectFunction_body ho hb h₁ (r₁.inv.functions.lt_of_mem hm₁).2] at e
    -- from the fresh entry blocks on, the two runs correspond
    have rel := Related.enterBody hd r₁.inv r₂.inv hF hm₁ hm₂
      (r₁.registers.unentered u₁ fn hm₁) (r₂.registers.unentered u₂ fn' hm₂)
    obtain ⟨v, s₂, e₂, e₃⟩ := bind_ok e
    obtain ⟨v', t₂, g₂, st₂, hv'⟩ := lowerBody_lockstep F body rel v s₂ e₂
    obtain ⟨_, t', g₃, st₃, -⟩ := returnValue_sim F st₂.rel hv' () s' e₃
    have st := st₂.trans st₃
    refine ⟨t', by rw [selectFunction_body ho hb g₁ (r₂.inv.functions.lt_of_mem hm₂).2, bind_of_ok g₂, g₃], ⟨st.rel.inv₁, st.rel.inv₂,
      r₁.registers.functions.trans st.ext₁.functions, r₁.registers.klasses.trans st.ext₁.klasses,
      r₂.registers.functions.trans st.ext₂.functions, r₂.registers.klasses.trans st.ext₂.klasses,
      cov.trans_suffix st.covers st.ext₂.klasses st.ext₂.functions, fun h => by simp [hv] at h,
      fun F' hF' _ _ => ?_⟩⟩
    cases hF'
    -- the function is still at the cursor, where the two runs agree up to codes
    have a := st.rel.agree.curFn
    rw [State.curFn, State.curFn, st.ext₁.fn, st.ext₂.fn] at a
    exact ⟨fn, fn', st.ext₁.functions.subset hm₁, st.ext₂.functions.subset hm₂, a⟩

theorem Related.atGlobal (hd : SameDecls c₁ c₂) (i₁ : Inv c₁ s) (i₂ : Inv c₂ t) (w₁ : Walk s)
    (w₂ : Walk t) (hview : t.globalView = s.globalView) :
    Related c₁ c₂ { s with env := [], landing := none, current := none, cursor := s.globalCursor }
      { t with env := [], landing := none, current := none, cursor := t.globalCursor } := by
  refine ⟨hd, i₁.of_program rfl rfl rfl (by simp) (w₁.global ▸ w₁.length_pos) ?_,
    i₂.of_program rfl rfl rfl (by simp) (w₂.global ▸ w₂.length_pos) ?_,
    ⟨congrArg Prod.snd hview, ?_, ?_, rfl, ?_, rfl, rfl⟩⟩
  · exact List.ne_nil_of_length_pos (Nat.lt_of_le_of_lt (Nat.zero_le _) w₁.ready.global.2)
  · exact List.ne_nil_of_length_pos (Nat.lt_of_le_of_lt (Nat.zero_le _) w₂.ready.global.2)
  · show t.fcode t.globalCursor.fn = s.fcode s.globalCursor.fn
    rw [w₁.global, w₂.global, i₁.fcode_zero, i₂.fcode_zero]
  · show (t.fn t.globalCursor.fn).rename t.fcode t.kcode = (s.fn s.globalCursor.fn).rename s.fcode s.kcode
    rw [w₁.global, w₂.global]
    exact congrArg Prod.fst hview
  · show t.loops = s.loops
    rw [w₁.ready.loops, w₂.ready.loops]

theorem Walk.entered_back {c : Context} {s s₂ : State} (w : Walk s) (i : Inv c s) (i₂ : Inv c s₂)
    (g : Extends { s with env := [], landing := none, current := none, cursor := s.globalCursor } s₂) :
    (s₂.fn s.cursor.fn).blocks ≠ [] := by
  by_cases h0 : s.cursor.fn = 0
  · -- the cursor was in the global initializer, which the run just went on with
    have hc : s₂.cursor.fn = 0 := g.fn.trans w.global
    rw [h0, ← hc]
    exact i₂.entered
  · rw [g.frame _ (w.global ▸ h0) i.cursor]
    exact i.entered

theorem Inv.restore {c : Context} {s s₂ : State} (i : Inv c s) (w : Walk s) (i₂ : Inv c s₂)
    (g : Extends { s with env := [], landing := none, current := none, cursor := s.globalCursor } s₂) :
    Inv c { s₂ with
      globalCursor := s₂.cursor, cursor := s.cursor, env := s.env, landing := s.landing,
      current := s.current } :=
  i₂.of_program rfl rfl rfl (fun e he => (i.env e he).mono g.nk) (Nat.lt_of_lt_of_le i.cursor g.nf)
    (w.entered_back i i₂ g)

theorem visitField_agree {f : FieldDecl} (hd : SameDecls c₁ c₂) (i₁ : Inv c₁ s) (i₂ : Inv c₂ t)
    (w₁ : Walk s) (w₂ : Walk t) (hv : (Decl.field f).globalInit?.isSome → t.globalView = s.globalView)
    (e : visitField f c₁ s = .ok ((), s')) :
    ∃ t', visitField f c₂ t = .ok ((), t') ∧ Agreed c₁ c₂ (.field f) s s' t t' := by
  rcases visitField_steps e with ⟨hn, rfl⟩ | ⟨init, v, s₁, u, s₂, hi, hc, h₁, h₂, rfl⟩
  · have hg : (Decl.field f).globalInit? = none := by
      rcases hn with hn | hn
      · simp [Decl.globalInit?, hn]
      · cases hc : f.containingClass with
        | none => simp [hc] at hn
        | some c => cases f.init <;> simp [Decl.globalInit?, hc]
    exact ⟨t, visitField_skip hn, Agreed.of_registration (.refl i₁ [] []) (.refl i₂ [] [])
      (by simp) (by simp) hg fun F hF => by cases hF⟩
  -- the initializer is lowered at the two ends of the global initializer, which correspond
  have rel := Related.atGlobal hd i₁ i₂ w₁ w₂ (hv (by simp [Decl.globalInit?, hi, hc]))
  obtain ⟨v', t₁, g₁, st₁, hv'⟩ := lowerExpr_lockstep init rel v s₁ h₁
  obtain ⟨u', t₂, g₂, st₂, -⟩ := emit_sim st₁.rel (Corr.store hv' (Corr.symbol f.name) 0) u s₂ h₂
  have st := st₁.trans st₂
  have hc₁ : s₂.cursor.fn = 0 := st.ext₁.fn.trans w₁.global
  have hc₂ : t₂.cursor.fn = 0 := st.ext₂.fn.trans w₂.global
  refine ⟨_, visitField_init hi hc g₁ g₂, ⟨i₁.restore w₁ st.rel.inv₁ st.ext₁,
    i₂.restore w₂ st.rel.inv₂ st.ext₂, st.ext₁.functions, st.ext₁.klasses, st.ext₂.functions,
    st.ext₂.klasses, st.covers, fun _ => ?_, fun F hF => by cases hF⟩⟩
  -- the new ends of the two global initializers correspond
  show ((t₂.fn 0).rename t₂.fcode t₂.kcode, t₂.cursor.block) =
    ((s₂.fn 0).rename s₂.fcode s₂.kcode, s₂.cursor.block)
  have a := st.rel.agree.curFn
  rw [State.curFn, State.curFn, hc₁, hc₂] at a
  rw [a, st.rel.agree.block]

theorem visitOwn_agree {D : Decl} (p : Poised c₁ c₂ D s t) (e : visitOwn D c₁ s = .ok ((), s')) :
    ∃ t', visitOwn D c₂ t = .ok ((), t') ∧ Agreed c₁ c₂ D s s' t t' := by
  cases D with
  | klass cls members => exact klass_agree p e
  | function F =>
    have hF : c₁.functionDecl? F.defId = some F := by
      simp [Context.functionDecl?, show c₁.decl? F.defId = some (.function F) from p.decl]
    exact selectFunction_agree p.decls p.inv₁ p.inv₂ hF p.unentered₁ p.unentered₂ e
  | field f => exact visitField_agree p.decls p.inv₁ p.inv₂ p.walk₁ p.walk₂ p.view e

theorem InitChain.unique (hd : SameDecls c₁ c₂) {xs : List (FieldDecl × Expr)}
    {v w w' : Function × Nat} (h₁ : InitChain c₁ xs v w) (h₂ : InitChain c₂ xs v w') : w' = w := by
  induction h₁ generalizing w' with
  | nil => cases h₂; rfl
  | cons inv walk view field visit _ ih =>
    cases h₂ with
    | cons inv₂ walk₂ view₂ field₂ visit₂ next₂ =>
      obtain ⟨t', g, a⟩ := visitField_agree hd inv inv₂ walk walk₂ (fun _ => view₂.trans view.symm) visit
      rw [visit₂] at g
      cases g
      exact ih ((a.view (by simp [field])) ▸ next₂)

end Two

/-! ## One run

A run corresponds to itself, so what two runs agree on after a visit is what one run keeps. -/

section Run

variable {c : Context} {s s' : State}

theorem State.globalView_eq {c' : Context} (i : Inv c s) (i' : Inv c' s')
    (hf : s.functions <:+ s'.functions) (hk : s.klasses <:+ s'.klasses) (h0 : s'.fn 0 = s.fn 0)
    (hg : s'.globalCursor = s.globalCursor) : s'.globalView = s.globalView := by
  show ((s'.fn 0).rename s'.fcode s'.kcode, s'.globalCursor.block) =
    ((s.fn 0).rename s.fcode s.kcode, s.globalCursor.block)
  rw [h0, hg]
  exact congrArg (·, _) (Function.rename_congr (i.below 0)
    (fun j hj => i.functions.codeOf_suffix i'.functions hf hj)
    fun k hk' => i.klasses.codeOf_suffix i'.klasses hk hk')

/-- What visiting the declarations `A` does in a run from `s` to `s'`: the run keeps `Inv` and
is between declarations again, only adds to its tables, leaves the functions of ids it did not
visit without blocks and the functions they were at as they were, and runs the initializers of
`A` on the global initializer. -/
structure Visited (c : Context) (A : List Decl) (s s' : State) : Prop where
  inv : Inv c s'
  walk : Walk s'
  functions : s.functions <:+ s'.functions
  klasses : s.klasses <:+ s'.klasses
  unentered : ∀ d, (∀ D ∈ A, D.defId ≠ d) → s.Unentered d → s'.Unentered d
  frame : ∀ d j, (d, j) ∈ s.functions → (∀ D ∈ A, D.defId ≠ d) → s'.fn j = s.fn j
  inits : InitChain c (A.filterMap Decl.globalInit?) s.globalView s'.globalView

theorem Visited.nil (i : Inv c s) (w : Walk s) : Visited c [] s s :=
  ⟨i, w, List.suffix_refl _, List.suffix_refl _, fun _ _ h => h, fun _ _ _ _ => rfl, .nil _⟩

theorem Visited.append {A B : List Decl} {s₁ : State} (h₁ : Visited c A s s₁)
    (h₂ : Visited c B s₁ s') : Visited c (A ++ B) s s' where
  inv := h₂.inv
  walk := h₂.walk
  functions := h₁.functions.trans h₂.functions
  klasses := h₁.klasses.trans h₂.klasses
  unentered d hd hu := h₂.unentered d (fun D hD => hd D (List.mem_append_right _ hD))
    (h₁.unentered d (fun D hD => hd D (List.mem_append_left _ hD)) hu)
  frame d j hm hd := (h₂.frame d j (h₁.functions.subset hm) fun D hD => hd D (List.mem_append_right _ hD)).trans
    (h₁.frame d j hm fun D hD => hd D (List.mem_append_left _ hD))
  inits := by
    rw [List.filterMap_append]
    exact h₁.inits.append h₂.inits

theorem visitOwn_visited {D : Decl} (hi : Inv c s) (hw : Walk s) (hdecl : c.decl? D.defId = some D)
    (hu : s.Unentered D.defId) (e : visitOwn D c s = .ok ((), s')) : Visited c [D] s s' := by
  obtain ⟨t', g, a⟩ := visitOwn_agree ⟨SameDecls.refl c, hdecl, hi, hi, hw, hw, hu, hu, fun _ => rfl⟩ e
  rw [e] at g
  cases g
  have w' := visitOwn_walk hw e
  obtain ⟨p, t, hp⟩ := visitOwn_touches hw hi e
  have other : ∀ d, (∀ D' ∈ [D], D'.defId ≠ d) → d ≠ D.defId := fun d hd =>
    Ne.symm (hd D (List.mem_singleton_self D))
  refine ⟨a.inv₁, w', a.functions₁, a.klasses₁, fun d hd hu' => t.unentered w' hp (other d hd) hu',
    fun d j hm hd => t.frame j (Touches.ne_of_mem w' hp (other d hd) (a.functions₁.subset hm))
      (hi.functions.lt_of_mem hm).2, ?_⟩
  cases hD : D.globalInit? with
  | none =>
    simp only [List.filterMap_cons, hD, List.filterMap_nil]
    obtain ⟨h0, hg⟩ := visitOwn_global hw hD e
    rw [State.globalView_eq hi a.inv₁ a.functions₁ a.klasses₁ h0 hg]
    exact .nil _
  | some x =>
    simp only [List.filterMap_cons, hD, List.filterMap_nil]
    obtain ⟨rfl, -, -⟩ := Decl.globalInit?_eq_some hD
    exact .cons hi hw rfl hD e (.nil _)

theorem forM_visited : ∀ {A : List Decl} {s s' : State}, Inv c s → Walk s →
    (∀ D ∈ A, c.decl? D.defId = some D) → (A.map Decl.defId).Nodup →
    (∀ D ∈ A, s.Unentered D.defId) → A.forM visitOwn c s = .ok ((), s') → Visited c A s s'
  | [], s, s', hi, hw, _, _, _, h => by
    obtain ⟨-, rfl⟩ := pure_ok (a := PUnit.unit) h
    exact Visited.nil hi hw
  | D :: A, s, s', hi, hw, hdecl, hnd, hu, h => by
    obtain ⟨s₁, h₁, h₂⟩ := forM_visitOwn_cons_ok h
    rw [List.map_cons, List.nodup_cons] at hnd
    have v₁ := visitOwn_visited hi hw (hdecl D List.mem_cons_self) (hu D List.mem_cons_self) h₁
    -- the declarations after `D` have ids of their own, so `D` leaves their functions alone
    have v₂ := forM_visited v₁.inv v₁.walk (fun D' hD' => hdecl D' (List.mem_cons_of_mem _ hD'))
      hnd.2 (fun D' hD' => v₁.unentered _ (fun D'' hD'' he => by
        obtain rfl := List.mem_singleton.1 hD''
        exact hnd.1 (he ▸ List.mem_map_of_mem hD')) (hu D' (List.mem_cons_of_mem _ hD'))) h₂
    exact v₁.append v₂

end Run

end Isel.Lower
