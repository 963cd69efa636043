import Isel.Proofs.Escapes
import Isel.Proofs.Frame
import Isel.Proofs.Registering

/-! # Jumps that no loop resolves

A `break` or a `continue` fails with `LoopNotFound` when no loop being lowered has its id.
`JumpFailures J m` says that every such failure of `m` carries the keyword and the span of one
of the jumps `J` that the loops of the state `m` starts in do not resolve. The rules follow the
builder: a step that never looks a loop up fails on no jump, a step that keeps the loops passes
the failures of what follows it on, and entering a loop binds the jumps to it. So a lowering
fails on a jump only at one of its free jump sites (`Expr.jumpSites`) that the loops around it
do not resolve.
-/

namespace Isel.Lower

open Isel.Graph (Operand Instr Var)
open Isel.Tree (DefId Expr ExprKind Arm Catch VarargElem LoopId)

variable {α β : Type}

/-- Every `LoopNotFound` failure of `m` carries the keyword and the span of one of the jumps `J`
that the loops of the state it starts in do not resolve. -/
def JumpFailures (J : List (LoopExit × LoopId × Span)) (m : LowerM α) : Prop :=
  ∀ ctx s k sp, m ctx s = .error (.lowering (.loopNotFound k sp)) →
    ∃ l, (k, l, sp) ∈ J ∧ resolve s.loops (k, l) = none

def KeepsLoops (m : LowerM α) : Prop := ∀ ctx s a t, m ctx s = .ok (a, t) → t.loops = s.loops

theorem KeepsLoops.of_keeps {m : LowerM α}
    (h : ∀ ctx s a t, m ctx s = .ok (a, t) → Keeps s t) : KeepsLoops m :=
  fun ctx s a t e => (h ctx s a t e).loops

namespace JumpFailures

variable {J J' : List (LoopExit × LoopId × Span)} {m : LowerM α} {f : α → LowerM β}

theorem pure (a : α) : JumpFailures J (Pure.pure a : LowerM α) := fun _ _ _ _ h => by cases h

theorem throw_other {e : LowerError} (he : ∀ k sp, e ≠ .loopNotFound k sp) :
    JumpFailures J (throw (.lowering e) : LowerM α) := fun _ _ k sp h => by
  cases h
  exact absurd rfl (he k sp)

theorem throw_panic (n i : Nat) : JumpFailures J (throw (.outOfRange n i) : LowerM α) :=
  fun _ _ _ _ h => by cases h

theorem mono (h : JumpFailures J m) (hJ : ∀ j ∈ J, j ∈ J') : JumpFailures J' m :=
  fun ctx s k sp he =>
    let ⟨l, hl, hr⟩ := h ctx s k sp he
    ⟨l, hJ _ hl, hr⟩

theorem of_ok (h : ∀ ctx s, ∃ a t, m ctx s = .ok (a, t)) : JumpFailures J m :=
  fun ctx s _ _ he => by
    obtain ⟨a, t, e⟩ := h ctx s
    rw [e] at he
    cases he

theorem bind (hm : JumpFailures J m) (hl : KeepsLoops m) (hf : ∀ a, JumpFailures J (f a)) :
    JumpFailures J (m >>= f) := by
  intro ctx s k sp h
  cases e : m ctx s with
  | error err =>
    simp only [bind_run, e] at h
    cases h
    exact hm ctx s k sp e
  | ok r =>
    obtain ⟨a, t⟩ := r
    rw [bind_of_ok e] at h
    obtain ⟨l, hj, hr⟩ := hf a ctx t k sp h
    exact ⟨l, hj, hl ctx s a t e ▸ hr⟩

theorem bind_quiet (hm : JumpFailures J m) (hf : ∀ a, JumpFailures [] (f a)) :
    JumpFailures J (m >>= f) := by
  intro ctx s k sp h
  cases e : m ctx s with
  | error err =>
    simp only [bind_run, e] at h
    cases h
    exact hm ctx s k sp e
  | ok r =>
    obtain ⟨a, t⟩ := r
    rw [bind_of_ok e] at h
    obtain ⟨l, hj, -⟩ := hf a ctx t k sp h
    cases hj

theorem append (hm : JumpFailures J m) (hl : KeepsLoops m) (hf : ∀ a, JumpFailures J' (f a)) :
    JumpFailures (J ++ J') (m >>= f) :=
  (hm.mono fun _ h => List.mem_append_left _ h).bind hl fun a =>
    (hf a).mono fun _ h => List.mem_append_right _ h

theorem throw_bind {e : LowerError} (he : ∀ k sp, e ≠ .loopNotFound k sp) :
    JumpFailures J (throw (.lowering e) >>= f) := fun _ _ k sp h => by
  cases h
  exact absurd rfl (he k sp)

theorem map {g : α → β} (h : JumpFailures J m) : JumpFailures J (g <$> m) := by
  intro ctx s k sp he
  cases e : m ctx s with
  | error err =>
    simp only [map_run, e] at he
    cases he
    exact h ctx s k sp e
  | ok r =>
    simp only [map_run, e] at he
    cases he

theorem ite {p : Prop} [Decidable p] {m₁ m₂ : LowerM α} (h₁ : JumpFailures J m₁)
    (h₂ : JumpFailures J m₂) : JumpFailures J (if p then m₁ else m₂) := by
  split
  · exact h₁
  · exact h₂

theorem get_bind {f : State → LowerM β} (hf : ∀ x, JumpFailures J (f x)) :
    JumpFailures J (get >>= f) := fun ctx s k sp h => by
  rw [bind_of_ok (get_run ctx s)] at h
  exact hf s ctx s k sp h

theorem read_bind {f : Context → LowerM β} (hf : ∀ x, JumpFailures J (f x)) :
    JumpFailures J (read >>= f) := fun ctx s k sp h => by
  rw [bind_of_ok (read_run ctx s)] at h
  exact hf ctx ctx s k sp h

theorem pushLoop_bind {fr : LoopFrame} {f : Unit → LowerM β} (hf : JumpFailures J (f ())) :
    JumpFailures (J.filter (·.2.1 != fr.loop)) (pushLoop fr >>= f) := by
  intro ctx s k sp h
  rw [bind_of_ok (pushLoop_run ctx s fr)] at h
  obtain ⟨l, hj, hr⟩ := hf ctx _ k sp h
  have hne : fr.loop ≠ l := fun he => by
    rw [resolve_cons_of_eq he] at hr
    cases hr
  refine ⟨l, List.mem_filter.2 ⟨hj, bne_iff_ne.2 (Ne.symm hne)⟩, ?_⟩
  rwa [resolve_cons_of_ne hne] at hr

theorem findLoop {l : LoopId} {k : LoopExit} {sp : Span} (h : (k, l, sp) ∈ J) :
    JumpFailures J (Lower.findLoop l k sp) := by
  intro ctx s k' sp' he
  rw [findLoop_run] at he
  cases hf : s.loops.find? (·.loop == l) with
  | some fr =>
    rw [hf] at he
    cases he
  | none =>
    rw [hf] at he
    cases he
    exact ⟨l, h, by simp [resolve, hf]⟩

end JumpFailures

/-- A step that looks no loop up and leaves the loops as they were: it fails on no jump, and
the failures of what follows it are those of the state it started in. -/
structure LoopBlind (m : LowerM α) : Prop where
  keeps : KeepsLoops m
  quiet : JumpFailures [] m

namespace LoopBlind

variable {m : LowerM α} {f : α → LowerM β}

theorem jumpFailures (h : LoopBlind m) {J : List (LoopExit × LoopId × Span)} : JumpFailures J m :=
  h.quiet.mono fun _ h => by cases h

theorem bind_jumps {J : List (LoopExit × LoopId × Span)} (hm : LoopBlind m)
    (hf : ∀ a, JumpFailures J (f a)) : JumpFailures J (m >>= f) :=
  hm.jumpFailures.bind hm.keeps hf

theorem pure (a : α) : LoopBlind (Pure.pure a : LowerM α) :=
  ⟨fun _ _ _ _ h => (by cases h; rfl), JumpFailures.pure a⟩

theorem bind (hm : LoopBlind m) (hf : ∀ a, LoopBlind (f a)) : LoopBlind (m >>= f) := by
  refine ⟨fun ctx s b u h => ?_, hm.bind_jumps fun a => (hf a).quiet⟩
  obtain ⟨a, t, e, e'⟩ := bind_ok h
  rw [(hf a).keeps ctx t b u e', hm.keeps ctx s a t e]

theorem map {g : α → β} (h : LoopBlind m) : LoopBlind (g <$> m) :=
  ⟨fun ctx s _ _ hu => by
    obtain ⟨a, e, -⟩ := map_ok hu
    exact h.keeps ctx s a _ e, h.quiet.map⟩

theorem ite {p : Prop} [Decidable p] {m₁ m₂ : LowerM α} (h₁ : LoopBlind m₁) (h₂ : LoopBlind m₂) :
    LoopBlind (if p then m₁ else m₂) := by
  split
  · exact h₁
  · exact h₂

theorem get_bind {f : State → LowerM β} (hf : ∀ x, LoopBlind (f x)) : LoopBlind (get >>= f) :=
  ⟨fun ctx s b u h => by
    rw [bind_of_ok (get_run ctx s)] at h
    exact (hf s).keeps ctx s b u h, JumpFailures.get_bind fun x => (hf x).quiet⟩

theorem read_bind {f : Context → LowerM β} (hf : ∀ x, LoopBlind (f x)) : LoopBlind (read >>= f) :=
  ⟨fun ctx s b u h => by
    rw [bind_of_ok (read_run ctx s)] at h
    exact (hf ctx).keeps ctx s b u h, JumpFailures.read_bind fun x => (hf x).quiet⟩

theorem throw_other {e : LowerError} (he : ∀ k sp, e ≠ .loopNotFound k sp) :
    LoopBlind (throw (.lowering e) : LowerM α) :=
  ⟨fun _ _ _ _ h => (by cases h), JumpFailures.throw_other he⟩

theorem throw_panic (n i : Nat) : LoopBlind (throw (.outOfRange n i) : LowerM α) :=
  ⟨fun _ _ _ _ h => (by cases h), JumpFailures.throw_panic n i⟩

theorem of_run {g : State → State} {v : State → α} (hrun : ∀ ctx s, m ctx s = .ok (v s, g s))
    (hl : ∀ s, (g s).loops = s.loops) : LoopBlind m :=
  ⟨fun ctx s a t h => by
    rw [hrun] at h
    cases h
    exact hl s, JumpFailures.of_ok fun ctx s => ⟨_, _, hrun ctx s⟩⟩

theorem of_registers (hok : ∀ ctx s, ∃ a t, m ctx s = .ok (a, t))
    (hr : ∀ ctx s a t, m ctx s = .ok (a, t) → Registers s t) : LoopBlind m :=
  ⟨KeepsLoops.of_keeps fun ctx s a t h => Keeps.of_registers (hr ctx s a t h), JumpFailures.of_ok hok⟩

theorem forM {γ : Type} {f : γ → LowerM PUnit} (hf : ∀ x, LoopBlind (f x)) :
    ∀ xs : List γ, LoopBlind (xs.forM f)
  | [] => LoopBlind.pure _
  | x :: xs => (hf x).bind fun _ => LoopBlind.forM hf xs

end LoopBlind

/-! ## Steps that look no loop up -/

section Steps

theorem functionAt_blind (fn : Nat) : LoopBlind (functionAt fn) := by
  unfold functionAt
  refine LoopBlind.get_bind fun _ => ?_
  dsimp only
  split
  · exact LoopBlind.pure _
  · exact LoopBlind.throw_panic _ _

theorem currentFunction_blind : LoopBlind currentFunction :=
  LoopBlind.get_bind fun _ => functionAt_blind _

theorem currentBlock_blind : LoopBlind currentBlock := by
  unfold currentBlock
  refine currentFunction_blind.bind fun _ => LoopBlind.get_bind fun _ => ?_
  dsimp only
  split
  · exact LoopBlind.pure _
  · exact LoopBlind.throw_panic _ _

theorem isTerminated_blind : LoopBlind isTerminated :=
  currentBlock_blind.bind fun _ => LoopBlind.pure _

theorem modifyFunction_blind (fn : Nat) (g : Graph.Function → Graph.Function) :
    LoopBlind (modifyFunction fn g) :=
  LoopBlind.of_run (v := fun _ => ()) (modifyFunction_run · · fn g) fun _ => rfl

theorem newBlock_blind (l : String) : LoopBlind (newBlock l) :=
  currentFunction_blind.bind fun _ => LoopBlind.get_bind fun _ =>
    (modifyFunction_blind _ _).bind fun _ => LoopBlind.get_bind fun _ => LoopBlind.pure _

theorem freshVar_blind (ty : Graph.Ty) : LoopBlind (freshVar ty) :=
  currentFunction_blind.bind fun _ => LoopBlind.get_bind fun _ =>
    (modifyFunction_blind _ _).bind fun _ => LoopBlind.pure _

theorem switchTo_blind (b : Nat) : LoopBlind (switchTo b) :=
  LoopBlind.of_run (v := fun _ => ()) (switchTo_run · · b) fun _ => rfl

theorem emit_blind (i : Instr) : LoopBlind (emit i) := by
  unfold emit
  refine isTerminated_blind.bind fun _ => ?_
  extract_lets write
  have hwrite : ∀ u, LoopBlind (write u) := fun _ =>
    currentBlock_blind.bind fun _ => LoopBlind.get_bind fun _ =>
      (modifyFunction_blind _ _).bind fun _ => LoopBlind.pure _
  -- a closed block is left for a fresh one first
  exact LoopBlind.ite ((newBlock_blind _).bind fun _ => (switchTo_blind _).bind hwrite) (hwrite ())

theorem jumpIfOpen_blind (b : Nat) : LoopBlind (jumpIfOpen b) :=
  isTerminated_blind.bind fun _ =>
    LoopBlind.ite (LoopBlind.pure _) ((emit_blind _).bind fun _ => LoopBlind.pure _)

theorem setCursor_blind (c : Cursor) :
    LoopBlind (modify fun s => { s with cursor := c } : LowerM Unit) :=
  LoopBlind.of_run (v := fun _ => ()) (fun _ _ => rfl) fun _ => rfl

theorem setLanding_blind (o : Option Nat) : LoopBlind (setLanding o) :=
  LoopBlind.of_run (v := fun _ => ()) (setLanding_run · · o) fun _ => rfl

theorem bindLocal_blind (l : Tree.LocalId) (o : Operand) : LoopBlind (bindLocal l o) :=
  LoopBlind.of_run (v := fun _ => ()) (bindLocal_run · · l o) fun _ => rfl

theorem softFailure_blind (code : Code) (message : String) (span : Span) :
    LoopBlind (softFailure code message span) :=
  LoopBlind.of_run (v := fun _ => ()) (softFailure_run · · code message span) fun _ => rfl

end Steps

/-! ## Declarations and the steps of a lowering -/

section Helpers

theorem classInfo?_blind (id : DefId) : LoopBlind (classInfo? id) :=
  ⟨fun ctx s _ _ h => by
    rw [classInfo?_run] at h
    cases h
    rfl, JumpFailures.of_ok fun ctx s => ⟨_, _, classInfo?_run ctx s id⟩⟩

theorem className_blind (id : DefId) : LoopBlind (className id) :=
  ⟨fun ctx s _ _ h => by
    rw [className_run] at h
    cases h
    rfl, JumpFailures.of_ok fun ctx s => ⟨_, _, className_run ctx s id⟩⟩

theorem returnsUnit_blind (target : DefId) : LoopBlind (returnsUnit target) :=
  ⟨fun ctx s _ _ h => by
    rw [returnsUnit_run] at h
    cases h
    rfl, JumpFailures.of_ok fun ctx s => ⟨_, _, returnsUnit_run ctx s target⟩⟩

theorem klassId_blind (cls : DefId) : LoopBlind (klassId cls) :=
  LoopBlind.of_registers (klassId_ok cls) fun _ _ _ _ h => (klassId_registers h).1

theorem lowerType_blind (ty : Tree.Ty) : LoopBlind (lowerType ty) :=
  LoopBlind.of_registers (lowerType_ok ty) fun _ _ _ _ h => lowerType_registers h

theorem calleeFor_blind (callee : Tree.Callee) (args : List Operand) (ret : Graph.Ty) :
    LoopBlind (calleeFor callee args ret) :=
  LoopBlind.of_registers (declaredFunction_ok _ _ _ _) fun _ _ _ _ h => (calleeFor_registers h).1

theorem finishArm_blind (v : Operand) (result : Option Var) (exit : Nat) :
    LoopBlind (finishArm v result exit) := by
  unfold finishArm
  refine isTerminated_blind.bind fun _ => LoopBlind.ite (LoopBlind.pure _) ?_
  cases result with
  | none => exact (emit_blind _).bind fun _ => LoopBlind.pure _
  | some r => exact (emit_blind _).bind fun _ => (emit_blind _).bind fun _ => LoopBlind.pure _

theorem generateCall_blind (callee : Nat) (ret : Graph.Ty) (args : List Operand) :
    LoopBlind (generateCall callee ret args) := by
  unfold generateCall
  dsimp only
  refine LoopBlind.ite ((LoopBlind.pure none).bind ?call) ((freshVar_blind ret).map.bind ?call)
  intro dst
  refine LoopBlind.get_bind fun x => ?_
  split
  · exact (newBlock_blind _).bind fun _ => (emit_blind _).bind fun _ =>
      (switchTo_blind _).bind fun _ => LoopBlind.pure _
  · exact (emit_blind _).bind fun _ => LoopBlind.pure _

theorem coerceInteger_blind (v : Operand) (target : Tree.Ty) : LoopBlind (coerceInteger v target) := by
  unfold coerceInteger
  exact LoopBlind.ite (LoopBlind.pure _) ((lowerType_blind target).bind fun _ =>
    LoopBlind.read_bind fun _ => LoopBlind.ite (LoopBlind.pure _)
      ((freshVar_blind _).bind fun _ => emit_blind _))

theorem applyIntrinsic_blind (intr : Intrinsic) (name : String) (args : List Operand)
    (ty : Tree.Ty) (span : Span) : LoopBlind (applyIntrinsic intr name args ty span) := by
  unfold applyIntrinsic
  extract_lets arg op rule
  have hrule : ∀ u, LoopBlind (rule u) := by
    intro u
    cases intr
    case areEqualByValue | ptrPlusLong => exact (freshVar_blind _).bind fun _ => emit_blind _
    case getContinuation | interpretPointer | rawValue | nullPtr => exact LoopBlind.pure _
    case readPrimitive =>
      exact (lowerType_blind _).bind fun _ => (freshVar_blind _).bind fun _ =>
        (emit_blind _).bind fun _ => (freshVar_blind _).bind fun _ => emit_blind _
    case writePrimitive =>
      exact (freshVar_blind _).bind fun _ => (emit_blind _).bind fun _ =>
        (emit_blind _).bind fun _ => LoopBlind.pure _
    case pointerSize => exact LoopBlind.read_bind fun _ => LoopBlind.pure _
    case ptrToLong =>
      exact (lowerType_blind _).bind fun _ => LoopBlind.ite (LoopBlind.pure _)
        ((freshVar_blind _).bind fun _ => emit_blind _)
  split
  · exact LoopBlind.ite ((LoopBlind.throw_other fun _ _ h => by cases h).bind fun _ => hrule ())
      (hrule ())
  · exact hrule ()

theorem fieldOffset_blind (field : Tree.FieldRef) (receiverTy : Tree.Ty) (span : Span) :
    LoopBlind (fieldOffset field receiverTy span) := by
  unfold fieldOffset
  split
  · refine (klassId_blind _).bind fun _ => LoopBlind.get_bind fun _ => ?_
    split
    · exact LoopBlind.pure _
    · exact (className_blind _).bind fun _ => LoopBlind.throw_other fun _ _ h => by cases h
  · exact LoopBlind.throw_other fun _ _ h => by cases h

theorem objectValue_blind (cls : DefId) (span : Span) : LoopBlind (objectValue cls span) := by
  unfold objectValue
  refine (classInfo?_blind cls).bind fun _ => LoopBlind.ite (LoopBlind.pure _) ?_
  exact (klassId_blind cls).bind fun _ => (className_blind cls).bind fun _ =>
    (freshVar_blind _).bind fun _ => (emit_blind _).bind fun _ => (freshVar_blind _).bind fun _ =>
    (emit_blind _).bind fun _ => (newBlock_blind _).bind fun _ => (newBlock_blind _).bind fun _ =>
    (emit_blind _).bind fun _ => (switchTo_blind _).bind fun _ =>
    (softFailure_blind _ _ _).bind fun _ => (emit_blind _).bind fun _ =>
    (switchTo_blind _).bind fun _ => LoopBlind.pure _

theorem unsupportedNode_blind (what : String) (span : Span) :
    LoopBlind (unsupportedNode what span) :=
  (softFailure_blind _ _ _).bind fun _ => LoopBlind.pure _

theorem resultVar_blind (ty : Tree.Ty) : LoopBlind (resultVar ty) := by
  unfold resultVar
  exact LoopBlind.ite (LoopBlind.pure _) ((lowerType_blind ty).bind fun _ => (freshVar_blind _).map)

end Helpers

/-! ## Lowerings

A lowering leaves the loops as it found them, so its jump failures are those of its parts in
the order it lowers them; a loop binds its own id around its body and its test. -/

section Lowering

theorem findLoop_keepsLoops (loop : LoopId) (k : LoopExit) (span : Span) :
    KeepsLoops (findLoop loop k span) := fun ctx s a t h => by
  rw [findLoop_run] at h
  split at h <;> cases h
  rfl

theorem popLoop_jumpFailures {J : List (LoopExit × LoopId × Span)} : JumpFailures J popLoop :=
  JumpFailures.of_ok fun ctx s => ⟨_, _, popLoop_run ctx s⟩

theorem lowerExpr_keepsLoops (e : Expr) : KeepsLoops (lowerExpr e) :=
  KeepsLoops.of_keeps fun _ _ _ _ h => lowerExpr_keeps e h

theorem lowerOpt_keepsLoops (e : Option Expr) : KeepsLoops (lowerOpt e) :=
  KeepsLoops.of_keeps fun _ _ _ _ h => lowerOpt_keeps e h

theorem lowerList_keepsLoops (es : List Expr) : KeepsLoops (lowerList es) :=
  KeepsLoops.of_keeps fun _ _ _ _ h => lowerList_keeps es h

theorem lowerArms_keepsLoops (arms : List Arm) (result : Option Var) (exit : Nat) :
    KeepsLoops (lowerArms arms result exit) :=
  KeepsLoops.of_keeps fun _ _ _ _ h => lowerArms_keeps arms h

theorem lowerHandlers_keepsLoops (cs : List Catch) (exn : Operand) (result : Option Var)
    (exit : Nat) : KeepsLoops (lowerHandlers cs exn result exit) :=
  KeepsLoops.of_keeps fun _ _ _ _ h => lowerHandlers_keeps cs h

theorem lowerVararg_keepsLoops (elems : List VarargElem) : KeepsLoops (lowerVararg elems) :=
  KeepsLoops.of_keeps fun _ _ _ _ h => lowerVararg_keeps elems h

theorem JumpFailures.operands_bind {dispatch extension : Option Expr} {args : List Expr}
    {f : Option Operand → Option Operand → List Operand → LowerM β}
    (hd : JumpFailures (Expr.optJumpSites dispatch) (lowerOpt dispatch))
    (he : JumpFailures (Expr.optJumpSites extension) (lowerOpt extension))
    (ha : JumpFailures (Expr.listJumpSites args) (lowerList args)) (hf : ∀ d e a, LoopBlind (f d e a)) :
    JumpFailures (Expr.optJumpSites dispatch ++ Expr.optJumpSites extension ++ Expr.listJumpSites args)
      (lowerOpt dispatch >>= fun d => lowerOpt extension >>= fun e => lowerList args >>= fun a =>
        f d e a) := by
  rw [List.append_assoc]
  exact hd.append (lowerOpt_keepsLoops _) fun _ => he.append (lowerOpt_keepsLoops _) fun _ =>
    ha.bind (lowerList_keepsLoops _) fun _ => (hf _ _ _).jumpFailures

theorem whileLoop_jumpFailures {loop : LoopId} {cond : Expr} {body : Option Expr} {ty span}
    (hcond : JumpFailures cond.jumpSites (lowerExpr cond))
    (hbody : JumpFailures (Expr.optJumpSites body) (lowerOpt body)) :
    JumpFailures ((ExprKind.whileLoop loop cond body).jumpSites span)
      (lowerKind (.whileLoop loop cond body) ty span) := by
  rw [lowerKind, ExprKind.jumpSites]
  refine (newBlock_blind _).bind_jumps fun check => (newBlock_blind _).bind_jumps fun _ =>
    (newBlock_blind _).bind_jumps fun exit => (emit_blind _).bind_jumps fun _ =>
    (switchTo_blind _).bind_jumps fun _ => hcond.append (lowerExpr_keepsLoops cond) fun _ =>
    (emit_blind _).bind_jumps fun _ => JumpFailures.pushLoop_bind ?_
  -- the body runs inside the loop; what follows `popLoop` fails on no jump
  exact (switchTo_blind _).bind_jumps fun _ => hbody.bind (lowerOpt_keepsLoops body) fun _ =>
    (jumpIfOpen_blind _).bind_jumps fun _ => popLoop_jumpFailures.bind_quiet fun _ =>
    ((switchTo_blind _).bind fun _ => LoopBlind.pure _).quiet

theorem doWhile_jumpFailures {loop : LoopId} {cond : Expr} {body : Option Expr} {ty span}
    (hcond : JumpFailures cond.jumpSites (lowerExpr cond))
    (hbody : JumpFailures (Expr.optJumpSites body) (lowerOpt body)) :
    JumpFailures ((ExprKind.doWhile loop cond body).jumpSites span)
      (lowerKind (.doWhile loop cond body) ty span) := by
  rw [lowerKind, ExprKind.jumpSites]
  refine (newBlock_blind _).bind_jumps fun check => (newBlock_blind _).bind_jumps fun _ =>
    (newBlock_blind _).bind_jumps fun exit => (emit_blind _).bind_jumps fun _ =>
    JumpFailures.pushLoop_bind ?_
  -- both the body and the test run inside the loop
  exact (switchTo_blind _).bind_jumps fun _ => hbody.append (lowerOpt_keepsLoops body) fun _ =>
    (jumpIfOpen_blind _).bind_jumps fun _ => (switchTo_blind _).bind_jumps fun _ =>
    hcond.bind (lowerExpr_keepsLoops cond) fun _ => (emit_blind _).bind_jumps fun _ =>
    popLoop_jumpFailures.bind_quiet fun _ => ((switchTo_blind _).bind fun _ => LoopBlind.pure _).quiet

theorem lowerArms_cons_jumpFailures {cond res : Expr} {rest : List Arm} {result : Option Var}
    {exit : Nat} (hcond : JumpFailures cond.jumpSites (lowerExpr cond))
    (hres : JumpFailures res.jumpSites (lowerExpr res))
    (hrest : JumpFailures (Arm.listJumpSites rest) (lowerArms rest result exit)) :
    JumpFailures (Arm.listJumpSites (.mk cond res :: rest))
      (lowerArms (.mk cond res :: rest) result exit) := by
  rw [lowerArms, Arm.listJumpSites]
  by_cases ht : cond.isTrueLiteral = true
  · -- an arm entered without a test ends the chain
    rw [if_pos ht, if_pos ht]
    exact hres.bind (lowerExpr_keepsLoops res) fun _ => (finishArm_blind _ _ _).jumpFailures
  · rw [if_neg ht, if_neg ht, List.append_assoc]
    refine hcond.append (lowerExpr_keepsLoops cond) fun _ => (newBlock_blind _).bind_jumps fun _ => ?_
    extract_lets test
    have htest : ∀ next, JumpFailures (res.jumpSites ++ Arm.listJumpSites rest) (test next) :=
      fun _ => (emit_blind _).bind_jumps fun _ => (switchTo_blind _).bind_jumps fun _ =>
        hres.append (lowerExpr_keepsLoops res) fun _ => (finishArm_blind _ _ _).bind_jumps fun _ =>
        (switchTo_blind _).bind_jumps fun _ => hrest
    split
    · rw [pure_bind]
      exact htest exit
    · exact (newBlock_blind _).bind_jumps htest

theorem whenArms_jumpFailures {arms : List Arm} {ty span}
    (harms : ∀ result exit, JumpFailures (Arm.listJumpSites arms) (lowerArms arms result exit)) :
    JumpFailures ((ExprKind.whenArms arms).jumpSites span) (lowerKind (.whenArms arms) ty span) := by
  rw [lowerKind, ExprKind.jumpSites]
  refine (resultVar_blind ty).bind_jumps fun result => (newBlock_blind _).bind_jumps fun exit =>
    (harms result exit).bind (lowerArms_keepsLoops _ _ _) fun _ => (LoopBlind.get_bind fun _ => ?_).jumpFailures
  extract_lets rest
  have hrest : ∀ u, LoopBlind (rest u) := fun _ => (switchTo_blind _).bind fun _ => LoopBlind.pure _
  exact LoopBlind.ite ((jumpIfOpen_blind _).bind hrest) (hrest ())

theorem tryCatch_jumpFailures {body : Expr} {catches : List Catch} {ty span}
    (hbody : JumpFailures body.jumpSites (lowerExpr body))
    (hcs : ∀ exn result exit,
      JumpFailures (Catch.listJumpSites catches) (lowerHandlers catches exn result exit)) :
    JumpFailures ((ExprKind.tryCatch body catches).jumpSites span)
      (lowerKind (.tryCatch body catches) ty span) := by
  -- the handlers' jumps come first when there are handlers
  have h : JumpFailures (Catch.listJumpSites catches ++ body.jumpSites)
      (lowerKind (.tryCatch body catches) ty span) := by
    rw [lowerKind]
    refine (resultVar_blind ty).bind_jumps fun result => (newBlock_blind _).bind_jumps fun exit =>
      JumpFailures.get_bind fun _ => ?_
    extract_lets outer rest
    have hrest : ∀ u, JumpFailures body.jumpSites (rest u) := fun _ =>
      hbody.bind (lowerExpr_keepsLoops body) fun _ => (finishArm_blind _ _ _).bind_jumps fun _ =>
      (setLanding_blind _).bind_jumps fun _ => ((switchTo_blind _).bind fun _ => LoopBlind.pure _).jumpFailures
    refine JumpFailures.ite (JumpFailures.get_bind fun _ => ?_)
      ((hrest ()).mono fun _ h => List.mem_append_right _ h)
    exact (newBlock_blind _).bind_jumps fun header => (switchTo_blind _).bind_jumps fun _ =>
      (freshVar_blind _).bind_jumps fun exn => (emit_blind _).bind_jumps fun _ =>
      (LoopBlind.forM (fun c => by cases c; exact bindLocal_blind _ _) catches).bind_jumps fun _ =>
      (hcs _ result exit).append (lowerHandlers_keepsLoops _ _ _ _) fun _ =>
      (setCursor_blind _).bind_jumps fun _ => (setLanding_blind _).bind_jumps hrest
  rw [ExprKind.jumpSites]
  by_cases hc : catches = []
  · subst hc
    exact h
  · rw [if_neg hc]
    exact h

theorem lowerHandlers_last_jumpFailures {c : Catch} {exn : Operand} {result : Option Var}
    {exit : Nat} (hres : JumpFailures c.result.jumpSites (lowerExpr c.result)) :
    JumpFailures (Catch.listJumpSites [c]) (lowerHandlers [c] exn result exit) := by
  cases c
  rw [lowerHandlers, Catch.listJumpSites]
  exact hres.append (lowerExpr_keepsLoops _) fun _ => (finishArm_blind _ _ _).jumpFailures

theorem lowerHandlers_test_jumpFailures {c c' : Catch} {rest : List Catch} {exn : Operand}
    {result : Option Var} {exit : Nat} (hres : JumpFailures c.result.jumpSites (lowerExpr c.result))
    (hrest : JumpFailures (Catch.listJumpSites (c' :: rest)) (lowerHandlers (c' :: rest) exn result exit)) :
    JumpFailures (Catch.listJumpSites (c :: c' :: rest)) (lowerHandlers (c :: c' :: rest) exn result exit) := by
  cases c
  rw [lowerHandlers, Catch.listJumpSites]
  swap
  · exact List.cons_ne_nil _ _
  exact (lowerType_blind _).bind_jumps fun _ => (freshVar_blind _).bind_jumps fun _ =>
    (emit_blind _).bind_jumps fun _ => (newBlock_blind _).bind_jumps fun _ =>
    (newBlock_blind _).bind_jumps fun _ => (emit_blind _).bind_jumps fun _ =>
    (switchTo_blind _).bind_jumps fun _ => hres.append (lowerExpr_keepsLoops _) fun _ =>
    (finishArm_blind _ _ _).bind_jumps fun _ => (switchTo_blind _).bind_jumps fun _ => hrest

mutual

theorem lowerExpr_jumpFailures : ∀ e : Expr, JumpFailures e.jumpSites (lowerExpr e)
  | .node k ty span => by
    rw [lowerExpr, Expr.jumpSites]
    exact lowerKind_jumpFailures k ty span

theorem lowerKind_jumpFailures : ∀ (k : ExprKind) (ty : Tree.Ty) (span : Span),
    JumpFailures (k.jumpSites span) (lowerKind k ty span)
  | .literal v, ty, span => by
    rw [lowerKind]
    exact JumpFailures.pure _
  | .typeOp op arg operand, ty, span => by
    have harg := lowerExpr_jumpFailures arg
    have hk := lowerExpr_keepsLoops arg
    rw [ExprKind.jumpSites]
    cases op <;> rw [lowerKind]
    case cast | safeCast | instanceOf | notInstanceOf =>
      exact harg.bind hk fun _ =>
        ((lowerType_blind _).bind fun _ => (freshVar_blind _).bind fun _ => emit_blind _).jumpFailures
    case implicitCast => exact harg
    case implicitNotNull =>
      exact harg.bind hk fun _ => ((softFailure_blind _ _ _).bind fun _ => LoopBlind.pure _).jumpFailures
    case coercionToUnit => exact harg.bind hk fun _ => JumpFailures.pure _
    case integerCoercion =>
      exact JumpFailures.ite (JumpFailures.throw_bind nofun)
        (harg.bind hk fun _ => (coerceInteger_blind _ _).jumpFailures)
  | .call callee dispatch extension args, ty, span => by
    rw [lowerKind, ExprKind.jumpSites]
    have hd := lowerOpt_jumpFailures dispatch
    have he := lowerOpt_jumpFailures extension
    have ha := lowerList_jumpFailures args
    split
    · split
      · exact hd.operands_bind he ha fun _ _ _ => applyIntrinsic_blind _ _ _ _ _
      · exact JumpFailures.throw_other nofun
    · exact hd.operands_bind he ha fun _ _ _ => (lowerType_blind _).bind fun _ =>
        (freshVar_blind _).bind fun _ => emit_blind _
    · exact (klassId_blind _).bind_jumps fun _ => (freshVar_blind _).bind_jumps fun _ =>
        (emit_blind _).bind_jumps fun _ => hd.operands_bind he ha fun _ _ _ =>
        (calleeFor_blind _ _ _).bind fun _ => (generateCall_blind _ _ _).bind fun _ => LoopBlind.pure _
    · exact hd.operands_bind he ha fun _ _ _ => (lowerType_blind _).bind fun _ =>
        (calleeFor_blind _ _ _).bind fun _ => generateCall_blind _ _ _
  | .delegatingCall callee args, ty, span => by
    rw [lowerKind, ExprKind.jumpSites]
    refine currentFunction_blind.bind_jumps fun _ => ?_
    split
    · exact (lowerList_jumpFailures args).bind (lowerList_keepsLoops args) fun _ =>
        ((calleeFor_blind _ _ _).bind fun _ => generateCall_blind _ _ _).jumpFailures
    · exact JumpFailures.throw_other nofun
  | .instanceInit cls, ty, span => by
    rw [lowerKind]
    exact JumpFailures.pure _
  | .block stmts, ty, span => by
    rw [lowerKind, ExprKind.jumpSites]
    exact lowerBlock_jumpFailures stmts
  | .whileLoop loop cond body, ty, span =>
    whileLoop_jumpFailures (lowerExpr_jumpFailures cond) (lowerOpt_jumpFailures body)
  | .doWhile loop cond body, ty, span =>
    doWhile_jumpFailures (lowerExpr_jumpFailures cond) (lowerOpt_jumpFailures body)
  | .breakLoop loop, ty, span => by
    rw [lowerKind, ExprKind.jumpSites]
    exact (JumpFailures.findLoop List.mem_cons_self).bind (findLoop_keepsLoops _ _ _) fun _ =>
      ((emit_blind _).bind fun _ => LoopBlind.pure _).jumpFailures
  | .continueLoop loop, ty, span => by
    rw [lowerKind, ExprKind.jumpSites]
    exact (JumpFailures.findLoop List.mem_cons_self).bind (findLoop_keepsLoops _ _ _) fun _ =>
      ((emit_blind _).bind fun _ => LoopBlind.pure _).jumpFailures
  | .ret target value, ty, span => by
    rw [lowerKind, ExprKind.jumpSites]
    exact (lowerExpr_jumpFailures value).bind (lowerExpr_keepsLoops value) fun _ =>
      ((emit_blind _).bind fun _ => (returnsUnit_blind _).bind fun _ =>
        LoopBlind.ite (LoopBlind.pure _) (LoopBlind.pure _)).jumpFailures
  | .whenArms arms, ty, span => whenArms_jumpFailures (lowerArms_jumpFailures arms)
  | .declare var name varTy init, ty, span => by
    rw [lowerKind, ExprKind.jumpSites]
    exact (lowerOpt_jumpFailures init).bind (lowerOpt_keepsLoops init) fun _ =>
      ((bindLocal_blind _ _).bind fun _ => LoopBlind.pure _).jumpFailures
  | .assign var name value, ty, span => by
    rw [lowerKind, ExprKind.jumpSites]
    exact (lowerExpr_jumpFailures value).bind (lowerExpr_keepsLoops value) fun _ =>
      ((emit_blind _).bind fun _ => (bindLocal_blind _ _).bind fun _ => LoopBlind.pure _).jumpFailures
  | .read var name, ty, span => by
    rw [lowerKind]
    refine (LoopBlind.get_bind fun _ => ?_).jumpFailures
    split
    · exact LoopBlind.pure _
    · exact (softFailure_blind _ _ _).bind fun _ => LoopBlind.pure _
  | .vararg elems, ty, span => by
    rw [lowerKind, ExprKind.jumpSites]
    exact (lowerVararg_jumpFailures elems).bind (lowerVararg_keepsLoops elems) fun _ =>
      ((lowerType_blind _).bind fun _ => LoopBlind.pure _).jumpFailures
  | .throw value, ty, span => by
    rw [lowerKind, ExprKind.jumpSites]
    exact (lowerExpr_jumpFailures value).bind (lowerExpr_keepsLoops value) fun _ =>
      ((softFailure_blind _ _ _).bind fun _ => LoopBlind.pure _).jumpFailures
  | .tryCatch body catches, ty, span =>
    tryCatch_jumpFailures (lowerExpr_jumpFailures body) (lowerHandlers_jumpFailures catches)
  | .getField field none, ty, span => by
    rw [lowerKind]
    refine ((LoopBlind.pure _).bind fun p => ?_).jumpFailures
    obtain ⟨address, offset⟩ := p
    exact (lowerType_blind _).bind fun _ => (freshVar_blind _).bind fun _ => emit_blind _
  | .getField field (some r), ty, span => by
    rw [lowerKind, ExprKind.jumpSites, Expr.optJumpSites]
    refine (fieldOffset_blind _ _ _).bind_jumps fun _ =>
      (lowerExpr_jumpFailures r).bind (lowerExpr_keepsLoops r) fun _ =>
      (LoopBlind.pure _).bind_jumps fun p => ?_
    obtain ⟨address, offset⟩ := p
    exact ((lowerType_blind _).bind fun _ => (freshVar_blind _).bind fun _ => emit_blind _).jumpFailures
  | .setField field none value, ty, span => by
    rw [lowerKind, ExprKind.jumpSites, Expr.optJumpSites, List.nil_append]
    refine (LoopBlind.pure _).bind_jumps fun p => ?_
    obtain ⟨address, offset⟩ := p
    exact (lowerExpr_jumpFailures value).bind (lowerExpr_keepsLoops value) fun _ =>
      ((emit_blind _).bind fun _ => LoopBlind.pure _).jumpFailures
  | .setField field (some r) value, ty, span => by
    rw [lowerKind, ExprKind.jumpSites, Expr.optJumpSites]
    refine (fieldOffset_blind _ _ _).bind_jumps fun _ =>
      (lowerExpr_jumpFailures r).append (lowerExpr_keepsLoops r) fun _ =>
      (LoopBlind.pure _).bind_jumps fun p => ?_
    obtain ⟨address, offset⟩ := p
    exact (lowerExpr_jumpFailures value).bind (lowerExpr_keepsLoops value) fun _ =>
      ((emit_blind _).bind fun _ => LoopBlind.pure _).jumpFailures
  | .objectValue cls, ty, span => by
    rw [lowerKind]
    exact (objectValue_blind _ _).jumpFailures
  | .stringConcat args, ty, span => by
    rw [lowerKind]
    exact (unsupportedNode_blind _ _).jumpFailures
  | .classReference cls, ty, span => by
    rw [lowerKind]
    exact (unsupportedNode_blind _ _).jumpFailures
  | .functionReference fn, ty, span => by
    rw [lowerKind]
    exact (unsupportedNode_blind _ _).jumpFailures
  | .enumEntry cls name, ty, span => by
    rw [lowerKind]
    exact (unsupportedNode_blind _ _).jumpFailures

theorem lowerOpt_jumpFailures : ∀ e : Option Expr, JumpFailures (Expr.optJumpSites e) (lowerOpt e)
  | none => by
    rw [lowerOpt]
    exact JumpFailures.pure _
  | some e => by
    rw [lowerOpt, Expr.optJumpSites]
    exact (lowerExpr_jumpFailures e).map

theorem lowerList_jumpFailures : ∀ es : List Expr,
    JumpFailures (Expr.listJumpSites es) (lowerList es)
  | [] => by
    rw [lowerList]
    exact JumpFailures.pure _
  | e :: es => by
    rw [lowerList, Expr.listJumpSites]
    exact (lowerExpr_jumpFailures e).append (lowerExpr_keepsLoops e) fun _ =>
      (lowerList_jumpFailures es).bind (lowerList_keepsLoops es) fun _ => JumpFailures.pure _

theorem lowerBlock_jumpFailures : ∀ es : List Expr,
    JumpFailures (Expr.listJumpSites es) (lowerBlock es)
  | [] => by
    rw [lowerBlock]
    exact JumpFailures.pure _
  | [e] => by
    rw [lowerBlock, Expr.listJumpSites, Expr.listJumpSites, List.append_nil]
    exact lowerExpr_jumpFailures e
  | e :: e' :: es => by
    rw [lowerBlock, Expr.listJumpSites]
    · exact (lowerExpr_jumpFailures e).append (lowerExpr_keepsLoops e) fun _ =>
        lowerBlock_jumpFailures (e' :: es)
    · exact List.cons_ne_nil _ _

theorem lowerArms_jumpFailures : ∀ (arms : List Arm) (result : Option Var) (exit : Nat),
    JumpFailures (Arm.listJumpSites arms) (lowerArms arms result exit)
  | [], result, exit => by
    rw [lowerArms]
    exact JumpFailures.pure _
  | .mk cond res :: rest, result, exit =>
    lowerArms_cons_jumpFailures (lowerExpr_jumpFailures cond) (lowerExpr_jumpFailures res)
      (lowerArms_jumpFailures rest result exit)

theorem lowerHandlers_jumpFailures : ∀ (catches : List Catch) (exn : Operand)
    (result : Option Var) (exit : Nat),
    JumpFailures (Catch.listJumpSites catches) (lowerHandlers catches exn result exit)
  | [], exn, result, exit => by
    rw [lowerHandlers]
    exact JumpFailures.pure _
  | [.mk param name ty res], exn, result, exit =>
    lowerHandlers_last_jumpFailures (lowerExpr_jumpFailures res)
  | .mk param name ty res :: c' :: rest, exn, result, exit =>
    lowerHandlers_test_jumpFailures (lowerExpr_jumpFailures res)
      (lowerHandlers_jumpFailures (c' :: rest) exn result exit)

theorem lowerVararg_jumpFailures : ∀ elems : List VarargElem,
    JumpFailures (VarargElem.listJumpSites elems) (lowerVararg elems)
  | [] => by
    rw [lowerVararg]
    exact JumpFailures.pure _
  | .value e :: rest => by
    rw [lowerVararg, VarargElem.listJumpSites]
    exact (lowerExpr_jumpFailures e).append (lowerExpr_keepsLoops e) fun _ =>
      (lowerVararg_jumpFailures rest).bind (lowerVararg_keepsLoops rest) fun _ => JumpFailures.pure _
  | .spread e :: rest => by
    rw [lowerVararg]
    exact JumpFailures.throw_other nofun

end

end Lowering

end Isel.Lower
