import Isel.Proofs.Lockstep
import Isel.Proofs.Steps

/-! # Lowering in lockstep

Two runs in corresponding states that lower the same expression take corresponding steps and
produce corresponding operands. Lowering reads positions only through the registration tables,
compares types only up to codes, and takes every decision (a landing block, an enclosing loop,
a binding, whether a block has ended) from data the two states agree on; so whatever order the
two runs registered their functions and classes in, they emit the same code up to codes.

The helpers of the lowering come first, each a `SimAt` step built from the primitives; then
every kind of expression, each by the `do` block of its lowering; then the lowering as a whole,
by the recursion of its definition.
-/

namespace Isel.Lower

open Isel.Graph (Operand Instr Var Block Function)
open Isel.Tree (DefId LocalId)

variable {α β : Type} {c₁ c₂ : Context} {s t : State}

/-! ## Steps that fail, map or read the declarations -/

theorem SimAt.of_throw {e : Fault} {m₂ : LowerM α} {R : State → State → α → α → Prop} :
    SimAt c₁ c₂ s t (throw e) m₂ R :=
  fun _ _ h => (throw_ok h).elim

theorem SimAt.of_throw_bind {e : Fault} {f : α → LowerM β} {m₂ : LowerM β}
    {R : State → State → β → β → Prop} : SimAt c₁ c₂ s t (throw e >>= f) m₂ R := by
  intro b s' h
  obtain ⟨_, _, h₀, -⟩ := bind_ok h
  exact (throw_ok h₀).elim

theorem SimAt.map {m₁ m₂ : LowerM α} {R : State → State → α → α → Prop}
    {R' : State → State → β → β → Prop} {f : α → β} (h : SimAt c₁ c₂ s t m₁ m₂ R)
    (hf : ∀ s' t' a b, R s' t' a b → R' s' t' (f a) (f b)) :
    SimAt c₁ c₂ s t (f <$> m₁) (f <$> m₂) R' := by
  intro a s' e
  rw [map_run] at e
  rcases hm : m₁ c₁ s with _ | ⟨a₀, s₀⟩ <;>
    simp only [hm, reduceCtorEq, Except.ok.injEq, Prod.mk.injEq] at e
  obtain ⟨rfl, rfl⟩ := e
  obtain ⟨b, t', e₂, st, r⟩ := h a₀ s₀ hm
  exact ⟨f b, t', by rw [map_run, e₂], st, hf _ _ _ _ r⟩

theorem classInfo?_sim (rel : Related c₁ c₂ s t) (cls : DefId) :
    SimAt c₁ c₂ s t (classInfo? cls) (classInfo? cls) fun _ _ a b => b = a :=
  SimAt.of_run (classInfo?_run c₁ s cls) (classInfo?_run c₂ t cls) (Step.refl rel)
    (rel.decls.classInfo cls)

theorem className_sim (rel : Related c₁ c₂ s t) (cls : DefId) :
    SimAt c₁ c₂ s t (className cls) (className cls) fun _ _ a b => b = a :=
  SimAt.of_run (className_run c₁ s cls) (className_run c₂ t cls) (Step.refl rel)
    (rel.decls.className cls)

/-! ## What corresponding types share -/

theorem Corr.invariant {ty ty' : Graph.Ty} (h : Corr s t ty ty') (f : Graph.Ty → β)
    (hf : ∀ k ty, f (ty.rename k) = f ty) : f ty' = f ty := by
  rw [← hf t.kcode ty', h.rename_ty, hf]

theorem Corr.eq_void {ty ty' : Graph.Ty} (h : Corr s t ty ty') : ty' = .void ↔ ty = .void := by
  rw [← Graph.Ty.rename_eq_void (k := t.kcode), h.rename_ty, Graph.Ty.rename_eq_void]

theorem KCorr.klass (rel : Related c₁ c₂ s t) {k k' : Nat} (h : KCorr s t k k') :
    t.program.klasses[k']? = s.program.klasses[k]? := by
  obtain ⟨d, hm⟩ := rel.inv₁.klasses.exists_mem (Nat.zero_le k) h.2.1
  have hm' := rel.inv₂.mem_klasses_of_code (h.1.trans (rel.inv₁.kcode_of_mem hm))
  rw [rel.inv₂.klassOf d k' hm', rel.inv₁.klassOf d k hm, rel.decls.klassOf]

/-! ## The helpers of the lowering -/

theorem finishArm_sim (rel : Related c₁ c₂ s t) {v v' : Operand} {r r' : Option Var}
    (hv : Corr s t v v') (hr : Corr s t r r') (exit : Nat) :
    SimAt c₁ c₂ s t (finishArm v r exit) (finishArm v' r' exit) fun _ _ _ _ => True := by
  unfold finishArm
  refine SimAt.bind_eq (isTerminated_sim rel) fun b s₁ t₁ st₁ => ?_
  cases b
  case true => exact SimAt.pure st₁.rel trivial
  case false =>
    -- the branch to the exit, after the move into the result if there is one
    have br : ∀ {s₂ t₂}, Related c₁ c₂ s₂ t₂ → SimAt c₁ c₂ s₂ t₂
        (do let _ ← emit (Instr.br exit); pure ()) (do let _ ← emit (Instr.br exit); pure ())
        fun _ _ _ _ => True := fun r₂ =>
      SimAt.bind (emit_sim r₂ (Corr.br exit)) fun _ _ _ _ st₃ _ => SimAt.pure st₃.rel trivial
    rcases hr.option_cases with ⟨rfl, rfl⟩ | ⟨a, a', rfl, rfl, ha⟩
    · exact br st₁.rel
    · exact SimAt.bind (emit_sim st₁.rel (Corr.mov (ha.mono st₁) (hv.mono st₁)))
        fun _ _ _ _ st₂ _ => br st₂.rel

theorem generateCall_sim (rel : Related c₁ c₂ s t) {fn fn' : Nat} (hf : FCorr s t fn fn')
    {ret ret' : Graph.Ty} (hr : Corr s t ret ret') {args args' : List Operand}
    (ha : Corr s t args args') :
    SimAt c₁ c₂ s t (generateCall fn ret args) (generateCall fn' ret' args') Corr := by
  unfold generateCall
  have hv : (ret' == .void) = (ret == .void) := by
    rw [Bool.eq_iff_iff, beq_iff_eq, beq_iff_eq]
    exact hr.eq_void
  rw [hv]
  -- the destination: none for `void`, else a fresh variable
  cases hc : ret == .void <;> simp only [Bool.false_eq_true, ↓reduceIte] <;>
    refine SimAt.bind (R := Corr) ?_ fun dst dst' s₁ t₁ st₁ hd => ?_
  · exact SimAt.map (freshVar_sim rel hr) fun _ _ _ _ h => h.present
  rotate_left
  · exact SimAt.pure rel Corr.absent
  -- whichever the destination, the call goes into it, as an invoke inside a protected region
  all_goals
    refine SimAt.get ?_
    rw [st₁.rel.agree.landing]
    cases s₁.landing with
    | none =>
      exact SimAt.bind (emit_sim st₁.rel (Corr.call (hf.mono st₁) hd (ha.mono st₁)))
        fun _ _ s₂ t₂ st₂ _ => SimAt.pure st₂.rel (hd.mono st₂).varOrUnit
    | some l =>
      refine SimAt.bind_eq (newBlock_sim st₁.rel _) fun normal s₂ t₂ st₂ => ?_
      have st := st₁.trans st₂
      refine SimAt.bind (emit_sim st₂.rel (Corr.invoke (hf.mono st) (hd.mono st₂) (ha.mono st) _ _))
        fun _ _ s₃ t₃ st₃ _ => ?_
      exact SimAt.bind (switchTo_sim st₃.rel _) fun _ _ s₄ t₄ st₄ _ =>
        SimAt.pure st₄.rel (hd.mono (st₂.trans (st₃.trans st₄))).varOrUnit

theorem resultVar_sim (rel : Related c₁ c₂ s t) (ty : Tree.Ty) :
    SimAt c₁ c₂ s t (resultVar ty) (resultVar ty) Corr := by
  unfold resultVar
  by_cases hc : (ty == .unit || ty == .nothing) = true
  · simp only [hc, ↓reduceIte]
    exact SimAt.pure rel Corr.absent
  · simp only [hc, Bool.false_eq_true, ↓reduceIte]
    exact SimAt.bind (lowerType_sim rel ty) fun _ _ _ _ st₁ h =>
      SimAt.map (freshVar_sim st₁.rel h) fun _ _ _ _ h => h.present

theorem coerceInteger_sim (rel : Related c₁ c₂ s t) {v v' : Operand} (hv : Corr s t v v')
    (target : Tree.Ty) :
    SimAt c₁ c₂ s t (coerceInteger v target) (coerceInteger v' target) Corr := by
  unfold coerceInteger
  rw [hv.ty.invariant _ fun _ _ => Graph.Ty.isInteger_rename _]
  cases v.ty.isInteger <;> simp only [Bool.not_false, Bool.not_true, Bool.false_eq_true, ↓reduceIte]
  · exact SimAt.pure rel hv
  refine SimAt.bind (lowerType_sim rel target) fun ty ty' s₁ t₁ st₁ hty => SimAt.read ?_
  -- the widths are those of the types, which renaming keeps, under the same pointer size
  simp only [rel.decls.pointerSize, (hv.mono st₁).ty.invariant _ fun _ _ => Graph.Ty.byteSize_rename _ _,
    hty.invariant _ fun _ _ => Graph.Ty.byteSize_rename _ _]
  split
  · exact SimAt.pure st₁.rel (hv.mono st₁)
  · refine SimAt.bind (freshVar_sim st₁.rel hty) fun d d' s₂ t₂ st₂ hd => ?_
    have hv₂ := hv.mono (st₁.trans st₂)
    split
    · exact emit_sim st₂.rel (Corr.trunc hd hv₂)
    · exact emit_sim st₂.rel (Corr.sext hd hv₂)

theorem unsupportedNode_sim (rel : Related c₁ c₂ s t) (what : String) (span : Span) :
    SimAt c₁ c₂ s t (unsupportedNode what span) (unsupportedNode what span) Corr :=
  SimAt.bind (softFailure_sim rel _ _ _) fun _ _ _ _ st _ => SimAt.pure st.rel Corr.null

theorem fieldOffset_sim (rel : Related c₁ c₂ s t) (field : Tree.FieldRef) (rty : Tree.Ty)
    (span : Span) :
    SimAt c₁ c₂ s t (fieldOffset field rty span) (fieldOffset field rty span)
      fun _ _ a b => b = a := by
  unfold fieldOffset
  split
  · refine SimAt.bind (klassId_sim rel _) fun k k' s₁ t₁ st₁ hk => SimAt.get ?_
    -- the two positions hold the same class, hence the same layout
    rw [KCorr.klass st₁.rel hk]
    split
    · exact SimAt.pure st₁.rel rfl
    · exact SimAt.bind_eq (className_sim st₁.rel _) fun _ _ _ _ => SimAt.of_throw
  · exact SimAt.of_throw

theorem objectValue_sim (rel : Related c₁ c₂ s t) (cls : DefId) (span : Span) :
    SimAt c₁ c₂ s t (objectValue cls span) (objectValue cls span) Corr := by
  unfold objectValue
  refine SimAt.bind_eq (classInfo?_sim rel cls) fun info s₁ t₁ st₁ => ?_
  split
  · exact SimAt.pure st₁.rel Corr.unit
  refine SimAt.bind (klassId_sim st₁.rel cls) fun k k' s₂ t₂ st₂ hk => ?_
  refine SimAt.bind_eq (className_sim st₂.rel cls) fun name s₃ t₃ st₃ => ?_
  refine SimAt.bind (freshVar_sim st₃.rel (Corr.klassPtr (hk.mono st₃))) fun i i' s₄ t₄ st₄ hi => ?_
  refine SimAt.bind (emit_sim st₄.rel (Corr.load hi (Corr.symbol _) 0)) fun _ _ s₅ t₅ st₅ _ => ?_
  refine SimAt.bind (freshVar_sim st₅.rel (Corr.plain .boolean (by simp)))
    fun ok ok' s₆ t₆ st₆ hok => ?_
  have hi₆ := (hi.mono st₅).mono st₆
  refine SimAt.bind (emit_sim st₆.rel (Corr.compare _ hok hi₆.var Corr.null))
    fun _ _ s₇ t₇ st₇ _ => ?_
  refine SimAt.bind_eq (newBlock_sim st₇.rel _) fun cont s₈ t₈ st₈ => ?_
  refine SimAt.bind_eq (newBlock_sim st₈.rel _) fun init s₉ t₉ st₉ => ?_
  have hok₉ := hok.mono (st₇.trans (st₈.trans st₉))
  refine SimAt.bind (emit_sim st₉.rel (Corr.condBr hok₉.var _ _)) fun _ _ s₁₀ t₁₀ st₁₀ _ => ?_
  -- the branch that would initialize the instance is a soft failure
  refine SimAt.bind (switchTo_sim st₁₀.rel _) fun _ _ s₁₁ t₁₁ st₁₁ _ => ?_
  refine SimAt.bind (softFailure_sim st₁₁.rel _ _ _) fun _ _ s₁₂ t₁₂ st₁₂ _ => ?_
  refine SimAt.bind (emit_sim st₁₂.rel (Corr.br _)) fun _ _ s₁₃ t₁₃ st₁₃ _ => ?_
  refine SimAt.bind (switchTo_sim st₁₃.rel _) fun _ _ s₁₄ t₁₄ st₁₄ _ => ?_
  have st := st₇.trans (st₈.trans (st₉.trans (st₁₀.trans (st₁₁.trans (st₁₂.trans (st₁₃.trans st₁₄))))))
  exact SimAt.pure st₁₄.rel (hi₆.var.mono st)

theorem applyIntrinsic_sim (rel : Related c₁ c₂ s t) (intr : Intrinsic) (name : String)
    {args args' : List Operand} (ha : Corr s t args args') (ty : Tree.Ty) (span : Span) :
    SimAt c₁ c₂ s t (applyIntrinsic intr name args ty span) (applyIntrinsic intr name args' ty span)
      Corr := by
  have hl : args'.length = args.length := by simpa using congrArg List.length ha.1
  have arg : ∀ i, Corr s t (args.getD i .unit) (args'.getD i .unit) := fun i => ha.listGetD Corr.unit i
  -- the arity check fails in both runs or in neither
  have guard : ∀ {n : Nat} {k k' : LowerM Operand}, SimAt c₁ c₂ s t k k' Corr →
      SimAt c₁ c₂ s t (if (args.length != n) = true then
          throw (.lowering (.intrinsicArity name n args.length span)) >>= fun (_ : PUnit) => k else k)
        (if (args.length != n) = true then
          throw (.lowering (.intrinsicArity name n args.length span)) >>= fun (_ : PUnit) => k' else k') Corr := by
    intro n k k' h
    split
    · exact SimAt.of_throw_bind
    · exact h
  unfold applyIntrinsic
  rw [hl]
  cases intr <;> simp only [Intrinsic.arity]
  case areEqualByValue =>
    refine guard ?_
    rw [(arg 0).ty.invariant _ fun _ _ => Graph.Ty.isFloating_rename _]
    exact SimAt.bind (freshVar_sim rel (Corr.plain .boolean (by simp)))
      fun _ _ _ _ st h => emit_sim st.rel (Corr.compare _ h ((arg 0).mono st) ((arg 1).mono st))
  case getContinuation => exact SimAt.pure rel Corr.unit
  case interpretPointer | rawValue => exact guard (SimAt.pure rel (arg 0))
  case readPrimitive =>
    refine guard (SimAt.bind (lowerType_sim rel ty) fun ty ty' s₁ t₁ st₁ hty => ?_)
    refine SimAt.bind (freshVar_sim st₁.rel (Corr.plain .ptr (by simp)))
      fun p p' s₂ t₂ st₂ hp => ?_
    refine SimAt.bind (emit_sim st₂.rel (Corr.bitcast hp ((arg 1).mono (st₁.trans st₂))))
      fun q q' s₃ t₃ st₃ hq => ?_
    exact SimAt.bind (freshVar_sim st₃.rel (hty.mono (st₂.trans st₃))) fun _ _ _ _ st₄ hd =>
      emit_sim st₄.rel (Corr.load hd (hq.mono st₄) 0)
  case writePrimitive =>
    refine guard (SimAt.bind (freshVar_sim rel (Corr.plain .ptr (by simp)))
      fun p p' s₁ t₁ st₁ hp => ?_)
    refine SimAt.bind (emit_sim st₁.rel (Corr.bitcast hp ((arg 1).mono st₁)))
      fun q q' s₂ t₂ st₂ hq => ?_
    exact SimAt.bind (emit_sim st₂.rel (Corr.store ((arg 2).mono (st₁.trans st₂)) hq 0))
      fun _ _ _ _ st₃ _ => SimAt.pure st₃.rel Corr.unit
  case ptrPlusLong =>
    exact guard (SimAt.bind (freshVar_sim rel (Corr.plain .ptr (by simp)))
      fun _ _ _ _ st h => emit_sim st.rel (Corr.gep h ((arg 0).mono st) ((arg 1).mono st)))
  case nullPtr => exact guard (SimAt.pure rel (Corr.closed (fun _ => rfl) fun _ => ⟨trivial, trivial⟩))
  case pointerSize =>
    refine guard (SimAt.read ?_)
    rw [rel.decls.pointerSize]
    exact SimAt.pure rel (Corr.closed (fun _ => rfl) fun _ => ⟨trivial, trivial⟩)
  case ptrToLong =>
    refine guard (SimAt.bind (lowerType_sim rel ty) fun ty ty' s₁ t₁ st₁ hty => ?_)
    have h₀ := (arg 0).mono st₁
    -- the argument already has the type in both runs or in neither
    have he : ((args'.getD 0 .unit).ty == ty') = ((args.getD 0 .unit).ty == ty) := by
      rw [Bool.eq_iff_iff, beq_iff_eq, beq_iff_eq]
      exact h₀.ty.ty_eq_iff st₁.rel.inv₁ st₁.rel.inv₂ hty
    rw [he]
    split
    · exact SimAt.pure st₁.rel h₀
    · exact SimAt.bind (freshVar_sim st₁.rel hty) fun _ _ _ _ st h =>
        emit_sim st.rel (Corr.sext h (h₀.mono st))

/-! ## Bindings and the function being lowered -/

theorem lookup_map_snd {γ δ : Type} [BEq γ] (g : δ → δ) (l : List (γ × δ)) (a : γ) :
    (l.map fun e => (e.1, g e.2)).lookup a = (l.lookup a).map g := by
  induction l with
  | nil => rfl
  | cons e l ih =>
    obtain ⟨k, v⟩ := e
    cases h : a == k <;> simp [List.lookup_cons, h, ih]

theorem Related.lookup (rel : Related c₁ c₂ s t) (l : LocalId) :
    Corr s t (s.env.lookup l) (t.env.lookup l) := by
  have below : ∀ {c : Context} {s : State}, Inv c s → ∀ o ∈ s.env.lookup l,
      o.Below s.program.klasses.length := by
    intro c s h o ho
    obtain ⟨l₁, l₂, he, -⟩ := List.lookup_eq_some_iff.1 (Option.mem_def.1 ho)
    exact h.env (l, o) (he ▸ List.mem_append_right _ List.mem_cons_self)
  refine ⟨?_, below rel.inv₁, below rel.inv₂⟩
  show (t.env.lookup l).map (Operand.rename t.kcode) = (s.env.lookup l).map (Operand.rename s.kcode)
  rw [← lookup_map_snd, ← lookup_map_snd, rel.agree.env]

theorem Related.params (rel : Related c₁ c₂ s t) : Corr s t s.curFn.params t.curFn.params := by
  refine ⟨?_, (rel.inv₁.below _).params, (rel.inv₂.below _).params⟩
  show t.curFn.params.map (Var.rename t.kcode) = s.curFn.params.map (Var.rename s.kcode)
  simpa using congrArg Function.params rel.agree.curFn

theorem currentFunction_sim (rel : Related c₁ c₂ s t) :
    SimAt c₁ c₂ s t currentFunction currentFunction fun s t f f' => f = s.curFn ∧ f' = t.curFn :=
  SimAt.of_run (currentFunction_run c₁ s rel.inv₁.cursor) (currentFunction_run c₂ t rel.inv₂.cursor)
    (Step.refl rel) ⟨rfl, rfl⟩

theorem forM_bindLocal_sim {γ : Type} (key : γ → LocalId) {o o' : Operand}
    {f f' : γ → LowerM PUnit} (hf : ∀ x, f x = bindLocal (key x) o)
    (hf' : ∀ x, f' x = bindLocal (key x) o') :
    ∀ (xs : List γ) {s t : State}, Related c₁ c₂ s t → Corr s t o o' →
      SimAt c₁ c₂ s t (xs.forM f) (xs.forM f') fun _ _ _ _ => True
  | [], _, _, rel, _ => SimAt.pure rel trivial
  | x :: xs, _, _, rel, h => by
    show SimAt c₁ c₂ _ _ (f x >>= fun _ => xs.forM f) (f' x >>= fun _ => xs.forM f') _
    rw [hf, hf']
    exact SimAt.bind (bindLocal_sim rel h (key x)) fun _ _ _ _ st _ =>
      forM_bindLocal_sim key hf hf' xs st.rel (h.mono st)

/-! ## Every kind of expression -/

/-- In any two corresponding states, `m` takes corresponding steps, with results related by
`R`. -/
def Lockstep (c₁ c₂ : Context) (m : LowerM α) (R : State → State → α → α → Prop) : Prop :=
  ∀ ⦃s t : State⦄, Related c₁ c₂ s t → SimAt c₁ c₂ s t m m R

section Kinds

open Isel.Tree (Expr ExprKind Arm Catch VarargElem)

variable {ty : Tree.Ty} {span : Span}

theorem Corr.operands {d d' e e' : Option Operand} {a a' : List Operand} (hd : Corr s t d d')
    (he : Corr s t e e') (ha : Corr s t a a') :
    Corr s t (d.toList ++ e.toList ++ a) (d'.toList ++ e'.toList ++ a') :=
  (hd.toList.append he.toList).append ha

theorem callOperands_sim {dispatch extension : Option Expr} {args : List Expr}
    (hd : Lockstep c₁ c₂ (lowerOpt dispatch) Corr) (he : Lockstep c₁ c₂ (lowerOpt extension) Corr)
    (ha : Lockstep c₁ c₂ (lowerList args) Corr) (rel : Related c₁ c₂ s t)
    {f₁ f₂ : Option Operand → Option Operand → List Operand → LowerM β}
    {R : State → State → β → β → Prop}
    (hk : ∀ d d' e e' a a' s₁ t₁, Step c₁ c₂ s s₁ t t₁ →
      Corr s₁ t₁ (d.toList ++ e.toList ++ a) (d'.toList ++ e'.toList ++ a') →
      SimAt c₁ c₂ s₁ t₁ (f₁ d e a) (f₂ d' e' a') R) :
    SimAt c₁ c₂ s t
      (lowerOpt dispatch >>= fun d => lowerOpt extension >>= fun e => lowerList args >>= fun a => f₁ d e a)
      (lowerOpt dispatch >>= fun d => lowerOpt extension >>= fun e => lowerList args >>= fun a => f₂ d e a)
      R :=
  SimAt.bind (hd rel) fun _ _ _ _ st₁ h₁ => SimAt.bind (he st₁.rel) fun _ _ _ _ st₂ h₂ =>
    SimAt.bind (ha st₂.rel) fun _ _ _ _ st₃ h₃ =>
      hk _ _ _ _ _ _ _ _ (st₁.trans (st₂.trans st₃)) (((h₁.mono st₂).mono st₃).operands (h₂.mono st₃) h₃)

theorem literal_lockstep (l : Tree.Literal) :
    Lockstep c₁ c₂ (lowerKind (.literal l) ty span) Corr := by
  intro s t rel
  simp only [lowerKind]
  exact SimAt.pure rel (Corr.literal l)

theorem typeOp_lockstep {op : Tree.TypeOp} {arg : Expr} {operand : Tree.Ty}
    (ha : Lockstep c₁ c₂ (lowerExpr arg) Corr) :
    Lockstep c₁ c₂ (lowerKind (.typeOp op arg operand) ty span) Corr := by
  intro s t rel
  cases op <;> simp only [lowerKind]
  case cast | safeCast =>
    refine SimAt.bind (ha rel) fun v v' s₁ t₁ st₁ hv => ?_
    refine SimAt.bind (lowerType_sim st₁.rel operand) fun ty ty' s₂ t₂ st₂ hty => ?_
    exact SimAt.bind (freshVar_sim st₂.rel hty) fun _ _ _ _ st₃ hd =>
      emit_sim st₃.rel (Corr.cast hd ((hv.mono st₂).mono st₃))
  case implicitCast => exact ha rel
  case implicitNotNull =>
    refine SimAt.bind (ha rel) fun _ _ s₁ t₁ st₁ _ => ?_
    exact SimAt.bind (softFailure_sim st₁.rel _ _ _) fun _ _ _ _ st₂ _ =>
      SimAt.pure st₂.rel Corr.null
  case coercionToUnit => exact SimAt.bind (ha rel) fun _ _ _ _ st₁ _ => SimAt.pure st₁.rel Corr.unit
  case integerCoercion =>
    split
    · exact SimAt.of_throw_bind
    · exact SimAt.bind (ha rel) fun _ _ _ _ st₁ hv => coerceInteger_sim st₁.rel hv operand
  case instanceOf | notInstanceOf =>
    refine SimAt.bind (ha rel) fun v v' s₁ t₁ st₁ hv => ?_
    refine SimAt.bind (lowerType_sim st₁.rel operand) fun ty ty' s₂ t₂ st₂ hty => ?_
    exact SimAt.bind (freshVar_sim st₂.rel (Corr.plain .boolean (by simp)))
      fun _ _ _ _ st₃ hd => emit_sim st₃.rel (Corr.typeTest _ hd ((hv.mono st₂).mono st₃) (hty.mono st₃))

theorem call_lockstep {callee : Tree.Callee} {dispatch extension : Option Expr} {args : List Expr}
    (hd : Lockstep c₁ c₂ (lowerOpt dispatch) Corr) (he : Lockstep c₁ c₂ (lowerOpt extension) Corr)
    (ha : Lockstep c₁ c₂ (lowerList args) Corr) :
    Lockstep c₁ c₂ (lowerKind (.call callee dispatch extension args) ty span) Corr := by
  intro s t rel
  simp only [lowerKind]
  -- the shape of a call depends on the call alone, so both runs take the same one
  split
  case h_1 =>
    split
    · exact callOperands_sim hd he ha rel fun _ _ _ _ _ _ _ _ st ho =>
        applyIntrinsic_sim st.rel _ _ ho _ _
    · exact SimAt.of_throw
  case h_2 =>
    refine callOperands_sim hd he ha rel fun _ _ _ _ _ _ s₁ t₁ st₁ ho => ?_
    refine SimAt.bind (lowerType_sim st₁.rel ty) fun ty ty' s₂ t₂ st₂ hty => ?_
    exact SimAt.bind (freshVar_sim st₂.rel hty) fun _ _ _ _ st₃ hd =>
      have ho₃ := (ho.mono st₂).mono st₃
      emit_sim st₃.rel (Corr.binary _ hd (ho₃.listGetD Corr.unit 0) (ho₃.listGetD Corr.unit 1))
  case h_3 =>
    refine SimAt.bind (klassId_sim rel _) fun k k' s₁ t₁ st₁ hk => ?_
    refine SimAt.bind (freshVar_sim st₁.rel (Corr.klassPtr hk)) fun o o' s₂ t₂ st₂ ho => ?_
    refine SimAt.bind (emit_sim st₂.rel (Corr.alloc ho (hk.mono st₂))) fun _ _ s₃ t₃ st₃ _ => ?_
    refine callOperands_sim hd he ha st₃.rel fun _ _ _ _ _ _ s₄ t₄ st₄ hops => ?_
    have hargs := ((ho.mono st₃).mono st₄).var.cons hops
    refine SimAt.bind (calleeFor_sim st₄.rel callee hargs (Corr.plain .void (by simp)))
      fun f f' s₅ t₅ st₅ hf => ?_
    refine SimAt.bind (generateCall_sim st₅.rel hf (Corr.plain .void (by simp))
      (hargs.mono st₅)) fun _ _ s₆ t₆ st₆ _ => ?_
    exact SimAt.pure st₆.rel ((ho.mono (st₃.trans (st₄.trans (st₅.trans st₆)))).var)
  case h_4 =>
    refine callOperands_sim hd he ha rel fun _ _ _ _ _ _ s₁ t₁ st₁ ho => ?_
    refine SimAt.bind (lowerType_sim st₁.rel ty) fun r r' s₂ t₂ st₂ hr => ?_
    refine SimAt.bind (calleeFor_sim st₂.rel callee (ho.mono st₂) hr) fun f f' s₃ t₃ st₃ hf => ?_
    exact generateCall_sim st₃.rel hf (hr.mono st₃) ((ho.mono st₂).mono st₃)

theorem delegatingCall_lockstep {callee : Tree.Callee} {args : List Expr}
    (ha : Lockstep c₁ c₂ (lowerList args) Corr) :
    Lockstep c₁ c₂ (lowerKind (.delegatingCall callee args) ty span) Corr := by
  intro s t rel
  simp only [lowerKind]
  refine SimAt.bind (currentFunction_sim rel) fun f f' s₁ t₁ st₁ hf => ?_
  obtain ⟨rfl, rfl⟩ := hf
  -- the receiver is the first parameter of the function being lowered, in both runs
  have hr : Corr s₁ t₁ s₁.curFn.params.head? t₁.curFn.params.head? := by
    simpa only [List.head?_eq_getElem?] using st₁.rel.params.getElem? 0
  rcases hr.option_cases with ⟨h₁, h₂⟩ | ⟨r, r', h₁, h₂, hr⟩ <;> simp only [h₁, h₂]
  · exact SimAt.of_throw
  refine SimAt.bind (ha st₁.rel) fun a a' s₂ t₂ st₂ hargs => ?_
  have hops := (hr.mono st₂).var.cons hargs
  refine SimAt.bind (calleeFor_sim st₂.rel callee hops (Corr.plain .void (by simp)))
    fun f f' s₃ t₃ st₃ hf => ?_
  exact generateCall_sim st₃.rel hf (Corr.plain .void (by simp)) (hops.mono st₃)

theorem whileLoop_lockstep {loop : Tree.LoopId} {cond : Expr} {body : Option Expr}
    (hc : Lockstep c₁ c₂ (lowerExpr cond) Corr) (hb : Lockstep c₁ c₂ (lowerOpt body) Corr) :
    Lockstep c₁ c₂ (lowerKind (.whileLoop loop cond body) ty span) Corr := by
  intro s t rel
  simp only [lowerKind]
  refine SimAt.bind_eq (newBlock_sim rel _) fun check s₁ t₁ st₁ => ?_
  refine SimAt.bind_eq (newBlock_sim st₁.rel _) fun bodyB s₂ t₂ st₂ => ?_
  refine SimAt.bind_eq (newBlock_sim st₂.rel _) fun exit s₃ t₃ st₃ => ?_
  refine SimAt.bind (emit_sim st₃.rel (Corr.br check)) fun _ _ s₄ t₄ st₄ _ => ?_
  refine SimAt.bind (switchTo_sim st₄.rel check) fun _ _ s₅ t₅ st₅ _ => ?_
  refine SimAt.bind (hc st₅.rel) fun c c' s₆ t₆ st₆ hc' => ?_
  refine SimAt.bind (emit_sim st₆.rel (Corr.condBr hc' bodyB exit)) fun _ _ s₇ t₇ st₇ _ => ?_
  refine SimAt.bind (pushLoop_sim st₇.rel _) fun _ _ s₈ t₈ st₈ _ => ?_
  refine SimAt.bind (switchTo_sim st₈.rel bodyB) fun _ _ s₉ t₉ st₉ _ => ?_
  refine SimAt.bind (hb st₉.rel) fun _ _ s₁₀ t₁₀ st₁₀ _ => ?_
  refine SimAt.bind (jumpIfOpen_sim st₁₀.rel check) fun _ _ s₁₁ t₁₁ st₁₁ _ => ?_
  refine SimAt.bind (popLoop_sim st₁₁.rel) fun _ _ s₁₂ t₁₂ st₁₂ _ => ?_
  exact SimAt.bind (switchTo_sim st₁₂.rel exit) fun _ _ _ _ st _ => SimAt.pure st.rel Corr.unit

theorem doWhile_lockstep {loop : Tree.LoopId} {cond : Expr} {body : Option Expr}
    (hc : Lockstep c₁ c₂ (lowerExpr cond) Corr) (hb : Lockstep c₁ c₂ (lowerOpt body) Corr) :
    Lockstep c₁ c₂ (lowerKind (.doWhile loop cond body) ty span) Corr := by
  intro s t rel
  simp only [lowerKind]
  refine SimAt.bind_eq (newBlock_sim rel _) fun check s₁ t₁ st₁ => ?_
  refine SimAt.bind_eq (newBlock_sim st₁.rel _) fun bodyB s₂ t₂ st₂ => ?_
  refine SimAt.bind_eq (newBlock_sim st₂.rel _) fun exit s₃ t₃ st₃ => ?_
  refine SimAt.bind (emit_sim st₃.rel (Corr.br bodyB)) fun _ _ s₄ t₄ st₄ _ => ?_
  refine SimAt.bind (pushLoop_sim st₄.rel _) fun _ _ s₅ t₅ st₅ _ => ?_
  refine SimAt.bind (switchTo_sim st₅.rel bodyB) fun _ _ s₆ t₆ st₆ _ => ?_
  refine SimAt.bind (hb st₆.rel) fun _ _ s₇ t₇ st₇ _ => ?_
  refine SimAt.bind (jumpIfOpen_sim st₇.rel check) fun _ _ s₈ t₈ st₈ _ => ?_
  refine SimAt.bind (switchTo_sim st₈.rel check) fun _ _ s₉ t₉ st₉ _ => ?_
  refine SimAt.bind (hc st₉.rel) fun c c' s₁₀ t₁₀ st₁₀ hc' => ?_
  refine SimAt.bind (emit_sim st₁₀.rel (Corr.condBr hc' bodyB exit)) fun _ _ s₁₁ t₁₁ st₁₁ _ => ?_
  refine SimAt.bind (popLoop_sim st₁₁.rel) fun _ _ s₁₂ t₁₂ st₁₂ _ => ?_
  exact SimAt.bind (switchTo_sim st₁₂.rel exit) fun _ _ _ _ st _ => SimAt.pure st.rel Corr.unit

theorem loopExit_lockstep {k : ExprKind} {loop : Tree.LoopId}
    (hk : k = .breakLoop loop ∨ k = .continueLoop loop) :
    Lockstep c₁ c₂ (lowerKind k ty span) Corr := by
  intro s t rel
  rcases hk with rfl | rfl <;> simp only [lowerKind] <;>
    refine SimAt.bind_eq (findLoop_sim rel loop _ span) fun fr s₁ t₁ st₁ => ?_ <;>
    exact SimAt.bind (emit_sim st₁.rel (Corr.br _)) fun _ _ _ _ st _ => SimAt.pure st.rel Corr.unit

theorem ret_lockstep {target : DefId} {value : Expr} (hv : Lockstep c₁ c₂ (lowerExpr value) Corr) :
    Lockstep c₁ c₂ (lowerKind (.ret target value) ty span) Corr := by
  intro s t rel
  simp only [lowerKind]
  refine SimAt.bind (hv rel) fun v v' s₁ t₁ st₁ hv' => ?_
  refine SimAt.bind (emit_sim st₁.rel (Corr.ret hv')) fun _ _ s₂ t₂ st₂ _ => ?_
  refine SimAt.bind_eq (returnsUnit_sim st₂.rel target) fun b s₃ t₃ st₃ => ?_
  cases b
  · exact SimAt.pure st₃.rel ((hv'.mono st₂).mono st₃)
  · exact SimAt.pure st₃.rel Corr.unit

theorem whenArms_lockstep {arms : List Arm}
    (ha : ∀ {result result' : Option Var} {exit : Nat} {s t : State}, Related c₁ c₂ s t →
      Corr s t result result' →
      SimAt c₁ c₂ s t (lowerArms arms result exit) (lowerArms arms result' exit) fun _ _ _ _ => True) :
    Lockstep c₁ c₂ (lowerKind (.whenArms arms) ty span) Corr := by
  intro s t rel
  simp only [lowerKind]
  refine SimAt.bind (resultVar_sim rel ty) fun r r' s₁ t₁ st₁ hr => ?_
  refine SimAt.bind_eq (newBlock_sim st₁.rel _) fun exit s₂ t₂ st₂ => ?_
  refine SimAt.bind (ha st₂.rel (hr.mono st₂)) fun _ _ s₃ t₃ st₃ _ => SimAt.get ?_
  have hr₃ := (hr.mono st₂).mono st₃
  -- the arms leave both cursors at the same block
  rw [st₃.rel.agree.block]
  split
  · refine SimAt.bind (jumpIfOpen_sim st₃.rel exit) fun _ _ s₄ t₄ st₄ _ => ?_
    exact SimAt.bind (switchTo_sim st₄.rel exit) fun _ _ _ _ st _ =>
      SimAt.pure st.rel ((hr₃.mono st₄).mono st).varOrUnit
  · exact SimAt.bind (switchTo_sim st₃.rel exit) fun _ _ _ _ st _ =>
      SimAt.pure st.rel (hr₃.mono st).varOrUnit

theorem declare_lockstep {var : LocalId} {name : String} {varTy : Tree.Ty} {init : Option Expr}
    (hi : Lockstep c₁ c₂ (lowerOpt init) Corr) :
    Lockstep c₁ c₂ (lowerKind (.declare var name varTy init) ty span) Corr := by
  intro s t rel
  simp only [lowerKind]
  refine SimAt.bind (hi rel) fun v v' s₁ t₁ st₁ hv => ?_
  exact SimAt.bind (bindLocal_sim st₁.rel (hv.getD Corr.null) var) fun _ _ _ _ st _ =>
    SimAt.pure st.rel Corr.unit

theorem assign_lockstep {var : LocalId} {name : String} {value : Expr}
    (hv : Lockstep c₁ c₂ (lowerExpr value) Corr) :
    Lockstep c₁ c₂ (lowerKind (.assign var name value) ty span) Corr := by
  intro s t rel
  simp only [lowerKind]
  refine SimAt.bind (hv rel) fun v v' s₁ t₁ st₁ hv' => ?_
  have slot := hv'.ty.mkVar name
  refine SimAt.bind (emit_sim st₁.rel (Corr.mov slot hv')) fun _ _ s₂ t₂ st₂ _ => ?_
  exact SimAt.bind (bindLocal_sim st₂.rel (slot.mono st₂).var var) fun _ _ _ _ st _ =>
    SimAt.pure st.rel Corr.unit

theorem read_lockstep {var : LocalId} {name : String} :
    Lockstep c₁ c₂ (lowerKind (.read var name) ty span) Corr := by
  intro s t rel
  simp only [lowerKind]
  refine SimAt.get ?_
  -- the local is bound in both runs or in neither
  rcases (rel.lookup var).option_cases with ⟨h₁, h₂⟩ | ⟨o, o', h₁, h₂, ho⟩ <;> simp only [h₁, h₂]
  · exact SimAt.bind (softFailure_sim rel _ _ _) fun _ _ _ _ st _ => SimAt.pure st.rel Corr.unit
  · exact SimAt.pure rel ho

theorem vararg_lockstep {elems : List VarargElem}
    (he : Lockstep c₁ c₂ (lowerVararg elems) Corr) :
    Lockstep c₁ c₂ (lowerKind (.vararg elems) ty span) Corr := by
  intro s t rel
  simp only [lowerKind]
  refine SimAt.bind (he rel) fun vs vs' s₁ t₁ st₁ hvs => ?_
  exact SimAt.bind (lowerType_sim st₁.rel ty) fun _ _ _ _ st hty =>
    SimAt.pure st.rel (Corr.elements hty (hvs.mono st))

theorem throw_lockstep {value : Expr} (hv : Lockstep c₁ c₂ (lowerExpr value) Corr) :
    Lockstep c₁ c₂ (lowerKind (.throw value) ty span) Corr := by
  intro s t rel
  simp only [lowerKind]
  refine SimAt.bind (hv rel) fun _ _ s₁ t₁ st₁ _ => ?_
  exact SimAt.bind (softFailure_sim st₁.rel _ _ _) fun _ _ _ _ st _ => SimAt.pure st.rel Corr.null

theorem objectValue_lockstep {cls : DefId} :
    Lockstep c₁ c₂ (lowerKind (.objectValue cls) ty span) Corr := by
  intro s t rel
  simp only [lowerKind]
  exact objectValue_sim rel cls span

theorem tryCatch_lockstep {body : Expr} {catches : List Catch}
    (hb : Lockstep c₁ c₂ (lowerExpr body) Corr)
    (hh : ∀ {exn exn' : Operand} {result result' : Option Var} {exit : Nat} {s t : State},
      Related c₁ c₂ s t → Corr s t exn exn' → Corr s t result result' →
      SimAt c₁ c₂ s t (lowerHandlers catches exn result exit)
        (lowerHandlers catches exn' result' exit) fun _ _ _ _ => True) :
    Lockstep c₁ c₂ (lowerKind (.tryCatch body catches) ty span) Corr := by
  intro s t rel
  simp only [lowerKind]
  refine SimAt.bind (resultVar_sim rel ty) fun r r' s₁ t₁ st₁ hr => ?_
  refine SimAt.bind_eq (newBlock_sim st₁.rel _) fun exit s₂ t₂ st₂ => SimAt.get ?_
  have hr₂ := hr.mono st₂
  rw [st₂.rel.agree.landing]
  -- the protected body, then the landing block of the enclosing region again
  have tail : ∀ {s₃ t₃}, Step c₁ c₂ s₂ s₃ t₂ t₃ → SimAt c₁ c₂ s₃ t₃
      (do let v ← lowerExpr body; finishArm v r exit; setLanding s₂.landing; switchTo exit
          pure ((r.map Operand.var).getD .unit))
      (do let v ← lowerExpr body; finishArm v r' exit; setLanding s₂.landing; switchTo exit
          pure ((r'.map Operand.var).getD .unit)) Corr := by
    intro s₃ t₃ st₃
    refine SimAt.bind (hb st₃.rel) fun v v' s₄ t₄ st₄ hv => ?_
    have hr₄ := (hr₂.mono st₃).mono st₄
    refine SimAt.bind (finishArm_sim st₄.rel hv hr₄ exit) fun _ _ s₅ t₅ st₅ _ => ?_
    refine SimAt.bind (setLanding_sim st₅.rel _) fun _ _ s₆ t₆ st₆ _ => ?_
    exact SimAt.bind (switchTo_sim st₆.rel exit) fun _ _ _ _ st _ =>
      SimAt.pure st.rel (hr₄.mono (st₅.trans (st₆.trans st))).varOrUnit
  split
  · -- the handlers, lowered at a fresh header that the body's calls unwind to
    refine SimAt.get (SimAt.bind_eq (newBlock_sim st₂.rel _) fun header s₃ t₃ st₃ => ?_)
    refine SimAt.bind (switchTo_sim st₃.rel header) fun _ _ s₄ t₄ st₄ _ => ?_
    refine SimAt.bind (freshVar_sim st₄.rel (Corr.plain .ptr (by simp)))
      fun exn exn' s₅ t₅ st₅ hx => ?_
    refine SimAt.bind (emit_sim st₅.rel (Corr.landingPad hx)) fun _ _ s₆ t₆ st₆ _ => ?_
    have hx₆ := (hx.mono st₆).var
    refine SimAt.bind (forM_bindLocal_sim Catch.param (fun c => by cases c; rfl)
      (fun c => by cases c; rfl) catches st₆.rel hx₆) fun _ _ s₇ t₇ st₇ _ => ?_
    refine SimAt.bind (hh st₇.rel (hx₆.mono st₇) ((hr₂.mono (st₃.trans (st₄.trans (st₅.trans st₆)))).mono
      st₇)) fun _ _ s₈ t₈ st₈ _ => ?_
    have st := st₃.trans (st₄.trans (st₅.trans (st₆.trans (st₇.trans st₈))))
    -- the cursor goes back to where the handlers started
    refine SimAt.bind (SimAt.of_run (R := fun _ _ _ _ => True) rfl rfl (Step.restore st₈.rel st.ext₁.fn.symm st.ext₂.fn.symm
      st₂.rel.agree.block) trivial) fun _ _ s₉ t₉ st₉ _ => ?_
    exact SimAt.bind (setLanding_sim st₉.rel _) fun _ _ _ _ st₁₀ _ =>
      tail (st.trans (st₉.trans st₁₀))
  · exact tail (Step.refl st₂.rel)

theorem getField_lockstep {field : Tree.FieldRef} {receiver : Option Expr}
    (hr : ∀ r, receiver = some r → Lockstep c₁ c₂ (lowerExpr r) Corr) :
    Lockstep c₁ c₂ (lowerKind (.getField field receiver) ty span) Corr := by
  intro s t rel
  -- the load from the address, whichever it is
  have load : ∀ {a a' : Operand} {o : Nat} {s₁ t₁}, Related c₁ c₂ s₁ t₁ → Corr s₁ t₁ a a' →
      SimAt c₁ c₂ s₁ t₁ (do let t ← lowerType ty; let dst ← freshVar t; emit (.load dst a o))
        (do let t ← lowerType ty; let dst ← freshVar t; emit (.load dst a' o)) Corr := by
    intro a a' o s₁ t₁ r₁ ha
    refine SimAt.bind (lowerType_sim r₁ ty) fun _ _ s₂ t₂ st₂ hty => ?_
    exact SimAt.bind (freshVar_sim st₂.rel hty) fun _ _ _ _ st₃ hd =>
      emit_sim st₃.rel (Corr.load hd ((ha.mono st₂).mono st₃) o)
  -- the address and offset: a global, or the receiver at the offset of the field
  cases receiver <;> simp only [lowerKind]
  · exact load rel (Corr.symbol _)
  · refine SimAt.bind (fieldOffset_sim rel field _ span) fun o o' s₁ t₁ st₁ ho => ?_
    obtain rfl := ho
    exact SimAt.bind (hr _ rfl st₁.rel) fun _ _ _ _ st₂ ha => load st₂.rel ha

theorem setField_lockstep {field : Tree.FieldRef} {receiver : Option Expr} {value : Expr}
    (hr : ∀ r, receiver = some r → Lockstep c₁ c₂ (lowerExpr r) Corr)
    (hv : Lockstep c₁ c₂ (lowerExpr value) Corr) :
    Lockstep c₁ c₂ (lowerKind (.setField field receiver value) ty span) Corr := by
  intro s t rel
  -- the store to the address, whichever it is
  have store : ∀ {a a' : Operand} {o : Nat} {s₁ t₁}, Related c₁ c₂ s₁ t₁ → Corr s₁ t₁ a a' →
      SimAt c₁ c₂ s₁ t₁ (do let v ← lowerExpr value; let _ ← emit (.store v a o); pure Operand.unit)
        (do let v ← lowerExpr value; let _ ← emit (.store v a' o); pure Operand.unit) Corr := by
    intro a a' o s₁ t₁ r₁ ha
    refine SimAt.bind (hv r₁) fun _ _ s₂ t₂ st₂ hv' => ?_
    exact SimAt.bind (emit_sim st₂.rel (Corr.store hv' (ha.mono st₂) o)) fun _ _ _ _ st₃ _ =>
      SimAt.pure st₃.rel Corr.unit
  -- the address and offset: a global, or the receiver at the offset of the field
  cases receiver <;> simp only [lowerKind]
  · exact store rel (Corr.symbol _)
  · refine SimAt.bind (fieldOffset_sim rel field _ span) fun o o' s₁ t₁ st₁ ho => ?_
    obtain rfl := ho
    exact SimAt.bind (hr _ rfl st₁.rel) fun _ _ _ _ st₂ ha => store st₂.rel ha

theorem unsupported_lockstep {k : ExprKind} (hk : ∃ what, lowerKind k ty span = unsupportedNode what span) :
    Lockstep c₁ c₂ (lowerKind k ty span) Corr := by
  intro s t rel
  obtain ⟨what, hw⟩ := hk
  rw [hw]
  exact unsupportedNode_sim rel what span

theorem arm_sim {cond res : Expr} {rest : List Arm} (hc : Lockstep c₁ c₂ (lowerExpr cond) Corr)
    (hres : Lockstep c₁ c₂ (lowerExpr res) Corr)
    (hrest : ∀ {result result' : Option Var} {exit : Nat} {s t : State}, Related c₁ c₂ s t →
      Corr s t result result' →
      SimAt c₁ c₂ s t (lowerArms rest result exit) (lowerArms rest result' exit) fun _ _ _ _ => True)
    (rel : Related c₁ c₂ s t) {result result' : Option Var} (hr : Corr s t result result')
    (exit : Nat) :
    SimAt c₁ c₂ s t (lowerArms (.mk cond res :: rest) result exit)
      (lowerArms (.mk cond res :: rest) result' exit) fun _ _ _ _ => True := by
  simp only [lowerArms]
  split
  · exact SimAt.bind (hres rel) fun _ _ _ _ st hv => finishArm_sim st.rel hv (hr.mono st) exit
  refine SimAt.bind (hc rel) fun c c' s₁ t₁ st₁ hc' => ?_
  refine SimAt.bind_eq (newBlock_sim st₁.rel _) fun arm s₂ t₂ st₂ => ?_
  -- the next test, or the exit after the last arm
  split <;> refine SimAt.bind_eq ?_ fun next s₃ t₃ st₃ => ?_
  · exact SimAt.pure st₂.rel rfl
  rotate_left
  · exact newBlock_sim st₂.rel _
  all_goals
    refine SimAt.bind (emit_sim st₃.rel (Corr.condBr ((hc'.mono st₂).mono st₃) arm next))
      fun _ _ s₄ t₄ st₄ _ => ?_
    refine SimAt.bind (switchTo_sim st₄.rel arm) fun _ _ s₅ t₅ st₅ _ => ?_
    refine SimAt.bind (hres st₅.rel) fun v v' s₆ t₆ st₆ hv => ?_
    have st := st₁.trans (st₂.trans (st₃.trans (st₄.trans (st₅.trans st₆))))
    refine SimAt.bind (finishArm_sim st₆.rel hv (hr.mono st) exit) fun _ _ s₇ t₇ st₇ _ => ?_
    refine SimAt.bind (switchTo_sim st₇.rel next) fun _ _ s₈ t₈ st₈ _ => ?_
    exact hrest st₈.rel (hr.mono (st.trans (st₇.trans st₈)))

theorem lastHandler_sim {param : LocalId} {name : String} {cty : Tree.Ty} {res : Expr}
    (hres : Lockstep c₁ c₂ (lowerExpr res) Corr) (rel : Related c₁ c₂ s t) (exn exn' : Operand)
    {result result' : Option Var} (hr : Corr s t result result') (exit : Nat) :
    SimAt c₁ c₂ s t (lowerHandlers [.mk param name cty res] exn result exit)
      (lowerHandlers [.mk param name cty res] exn' result' exit) fun _ _ _ _ => True := by
  simp only [lowerHandlers]
  exact SimAt.bind (hres rel) fun _ _ _ _ st hv => finishArm_sim st.rel hv (hr.mono st) exit

theorem handler_sim {param : LocalId} {name : String} {cty : Tree.Ty} {res : Expr} {c : Catch}
    {rest : List Catch} (hres : Lockstep c₁ c₂ (lowerExpr res) Corr)
    (hrest : ∀ {exn exn' : Operand} {result result' : Option Var} {exit : Nat} {s t : State},
      Related c₁ c₂ s t → Corr s t exn exn' → Corr s t result result' →
      SimAt c₁ c₂ s t (lowerHandlers (c :: rest) exn result exit)
        (lowerHandlers (c :: rest) exn' result' exit) fun _ _ _ _ => True)
    (rel : Related c₁ c₂ s t) {exn exn' : Operand} (hx : Corr s t exn exn')
    {result result' : Option Var} (hr : Corr s t result result') (exit : Nat) :
    SimAt c₁ c₂ s t (lowerHandlers (.mk param name cty res :: c :: rest) exn result exit)
      (lowerHandlers (.mk param name cty res :: c :: rest) exn' result' exit) fun _ _ _ _ => True := by
  simp only [lowerHandlers]
  refine SimAt.bind (lowerType_sim rel cty) fun ty ty' s₁ t₁ st₁ hty => ?_
  refine SimAt.bind (freshVar_sim st₁.rel (Corr.plain .boolean (by simp)))
    fun k k' s₂ t₂ st₂ hk => ?_
  refine SimAt.bind (emit_sim st₂.rel (Corr.typeTest _ hk ((hx.mono st₁).mono st₂) (hty.mono st₂)))
    fun _ _ s₃ t₃ st₃ _ => ?_
  refine SimAt.bind_eq (newBlock_sim st₃.rel _) fun bodyB s₄ t₄ st₄ => ?_
  refine SimAt.bind_eq (newBlock_sim st₄.rel _) fun next s₅ t₅ st₅ => ?_
  refine SimAt.bind (emit_sim st₅.rel (Corr.condBr (hk.mono (st₃.trans (st₄.trans st₅))).var _ _))
    fun _ _ s₆ t₆ st₆ _ => ?_
  refine SimAt.bind (switchTo_sim st₆.rel bodyB) fun _ _ s₇ t₇ st₇ _ => ?_
  refine SimAt.bind (hres st₇.rel) fun v v' s₈ t₈ st₈ hv => ?_
  have st := st₁.trans (st₂.trans (st₃.trans (st₄.trans (st₅.trans (st₆.trans (st₇.trans st₈))))))
  refine SimAt.bind (finishArm_sim st₈.rel hv (hr.mono st) exit) fun _ _ s₉ t₉ st₉ _ => ?_
  refine SimAt.bind (switchTo_sim st₉.rel next) fun _ _ s₁₀ t₁₀ st₁₀ _ => ?_
  have st' := st.trans (st₉.trans st₁₀)
  exact hrest st₁₀.rel (hx.mono st') (hr.mono st')

end Kinds

/-! ## The whole lowering -/

section Lowering

open Isel.Tree (Expr ExprKind Arm Catch VarargElem)

mutual

theorem lowerExpr_lockstep : ∀ e : Expr, Lockstep c₁ c₂ (lowerExpr e) Corr
  | .node k ty span => by
    intro s t rel
    simp only [lowerExpr]
    exact lowerKind_lockstep k ty span rel

theorem lowerKind_lockstep :
    ∀ (k : ExprKind) (ty : Tree.Ty) (span : Span), Lockstep c₁ c₂ (lowerKind k ty span) Corr
  | .literal l, _, _ => literal_lockstep l
  | .typeOp _ arg _, _, _ => typeOp_lockstep (lowerExpr_lockstep arg)
  | .call _ d e args, _, _ =>
    call_lockstep (lowerOpt_lockstep d) (lowerOpt_lockstep e) (lowerList_lockstep args)
  | .delegatingCall _ args, _, _ => delegatingCall_lockstep (lowerList_lockstep args)
  | .instanceInit _, _, _ => fun _ _ rel => by
    simp only [lowerKind]
    exact SimAt.pure rel Corr.unit
  | .block stmts, _, _ => fun _ _ rel => by
    simp only [lowerKind]
    exact lowerBlock_lockstep stmts rel
  | .whileLoop _ cond body, _, _ =>
    whileLoop_lockstep (lowerExpr_lockstep cond) (lowerOpt_lockstep body)
  | .doWhile _ cond body, _, _ => doWhile_lockstep (lowerExpr_lockstep cond) (lowerOpt_lockstep body)
  | .breakLoop _, _, _ => loopExit_lockstep (.inl rfl)
  | .continueLoop _, _, _ => loopExit_lockstep (.inr rfl)
  | .ret _ value, _, _ => ret_lockstep (lowerExpr_lockstep value)
  | .whenArms arms, _, _ => whenArms_lockstep (lowerArms_lockstep arms)
  | .declare _ _ _ init, _, _ => declare_lockstep (lowerOpt_lockstep init)
  | .assign _ _ value, _, _ => assign_lockstep (lowerExpr_lockstep value)
  | .read _ _, _, _ => read_lockstep
  | .vararg elems, _, _ => vararg_lockstep (lowerVararg_lockstep elems)
  | .throw value, _, _ => throw_lockstep (lowerExpr_lockstep value)
  | .tryCatch body catches, _, _ =>
    tryCatch_lockstep (lowerExpr_lockstep body) (lowerHandlers_lockstep catches)
  | .getField _ none, _, _ => getField_lockstep fun _ h => nomatch h
  | .getField _ (some r), _, _ => getField_lockstep fun _ h => by
    cases h
    exact lowerExpr_lockstep r
  | .setField _ none value, _, _ => setField_lockstep (fun _ h => nomatch h) (lowerExpr_lockstep value)
  | .setField _ (some r) value, _, _ => setField_lockstep (fun _ h => by
      cases h
      exact lowerExpr_lockstep r) (lowerExpr_lockstep value)
  | .objectValue _, _, _ => objectValue_lockstep
  | .stringConcat _, _, _ => unsupported_lockstep ⟨"string concatenation", by simp only [lowerKind]⟩
  | .classReference _, _, _ => unsupported_lockstep ⟨"class reference", by simp only [lowerKind]⟩
  | .functionReference _, _, _ =>
    unsupported_lockstep ⟨"function reference", by simp only [lowerKind]⟩
  | .enumEntry _ _, _, _ => unsupported_lockstep ⟨"enum entry", by simp only [lowerKind]⟩

theorem lowerOpt_lockstep : ∀ e : Option Expr, Lockstep c₁ c₂ (lowerOpt e) Corr
  | none => fun _ _ rel => by
    simp only [lowerOpt]
    exact SimAt.pure rel Corr.absent
  | some e => fun _ _ rel => by
    simp only [lowerOpt]
    exact SimAt.map (lowerExpr_lockstep e rel) fun _ _ _ _ h => h.present

theorem lowerList_lockstep : ∀ es : List Expr, Lockstep c₁ c₂ (lowerList es) Corr
  | [] => fun _ _ rel => by
    simp only [lowerList]
    exact SimAt.pure rel Corr.nil
  | e :: es => fun _ _ rel => by
    simp only [lowerList]
    exact SimAt.bind (lowerExpr_lockstep e rel) fun _ _ _ _ st₁ h =>
      SimAt.bind (lowerList_lockstep es st₁.rel) fun _ _ _ _ st₂ hs =>
        SimAt.pure st₂.rel ((h.mono st₂).cons hs)

theorem lowerBlock_lockstep : ∀ es : List Expr, Lockstep c₁ c₂ (lowerBlock es) Corr
  | [] => fun _ _ rel => by
    simp only [lowerBlock]
    exact SimAt.pure rel Corr.unit
  | [e] => fun _ _ rel => by
    simp only [lowerBlock]
    exact lowerExpr_lockstep e rel
  | e :: e' :: es => fun _ _ rel => by
    simp only [lowerBlock]
    exact SimAt.bind (lowerExpr_lockstep e rel) fun _ _ _ _ st _ =>
      lowerBlock_lockstep (e' :: es) st.rel

theorem lowerArms_lockstep : ∀ (arms : List Arm) {result result' : Option Var} {exit : Nat}
    {s t : State}, Related c₁ c₂ s t → Corr s t result result' →
    SimAt c₁ c₂ s t (lowerArms arms result exit) (lowerArms arms result' exit) fun _ _ _ _ => True
  | [], _, _, _, _, _, rel, _ => by
    simp only [lowerArms]
    exact SimAt.pure rel trivial
  | .mk cond res :: rest, _, _, _, _, _, rel, hr =>
    arm_sim (lowerExpr_lockstep cond) (lowerExpr_lockstep res) (lowerArms_lockstep rest) rel hr _

theorem lowerHandlers_lockstep : ∀ (cs : List Catch) {exn exn' : Operand}
    {result result' : Option Var} {exit : Nat} {s t : State}, Related c₁ c₂ s t →
    Corr s t exn exn' → Corr s t result result' →
    SimAt c₁ c₂ s t (lowerHandlers cs exn result exit) (lowerHandlers cs exn' result' exit)
      fun _ _ _ _ => True
  | [], _, _, _, _, _, _, _, rel, _, _ => by
    simp only [lowerHandlers]
    exact SimAt.pure rel trivial
  | [.mk _ _ _ res], _, _, _, _, _, _, _, rel, _, hr =>
    lastHandler_sim (lowerExpr_lockstep res) rel _ _ hr _
  | .mk _ _ _ res :: c :: rest, _, _, _, _, _, _, _, rel, hx, hr =>
    handler_sim (lowerExpr_lockstep res) (lowerHandlers_lockstep (c :: rest)) rel hx hr _

theorem lowerVararg_lockstep : ∀ elems : List VarargElem, Lockstep c₁ c₂ (lowerVararg elems) Corr
  | [] => fun _ _ rel => by
    simp only [lowerVararg]
    exact SimAt.pure rel Corr.nil
  | .value e :: rest => fun _ _ rel => by
    simp only [lowerVararg]
    exact SimAt.bind (lowerExpr_lockstep e rel) fun _ _ _ _ st₁ h =>
      SimAt.bind (lowerVararg_lockstep rest st₁.rel) fun _ _ _ _ st₂ hs =>
        SimAt.pure st₂.rel ((h.mono st₂).cons hs)
  | .spread _ :: _ => fun _ _ _ => by
    simp only [lowerVararg]
    exact SimAt.of_throw

end

end Lowering

end Isel.Lower
