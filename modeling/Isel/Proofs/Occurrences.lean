import Isel.Proofs.Shut
import Isel.Proofs.Closed

/-! # Where selection lowers a sub-expression

A lowering calls the lowering of its parts: an expression those of its operands, a `when` the
lowering of its arms, a list that of its head and then its tail. `Child ctx p t c u` says that
the call `p`, run from `t`, runs the call `c` from `u`, with one constructor for each such place
in the code and the steps that lead from `t` to `u`. `Within` is its closure along runs that
succeed: the calls made while a call runs, each with the states it starts and ends in.

The steps before a child keep selection's invariant, in the function where the parent started
and with every block it had (`Child.entered`). The steps after a child are the subject of the
next module.
-/

namespace Isel.Lower

open Isel.Graph (Operand Var Instr)
open Isel.Tree (Expr ExprKind Arm Catch VarargElem Callee FieldRef)

/-- A call of the lowering: of an expression, an optional expression, a list of operands, the
statements of a block, the arms of a `when`, the handlers of a `try`, or vararg elements. -/
inductive Call where
  | expr (e : Expr)
  | opt (o : Option Expr)
  | list (es : List Expr)
  | block (es : List Expr)
  | arms (arms : List Arm) (result : Option Var) (exit : Nat)
  | handlers (cs : List Catch) (exn : Operand) (result : Option Var) (exit : Nat)
  | vararg (elems : List VarargElem)

/-- The call succeeds from `s` and ends in `s'`. -/
def Call.Runs (ctx : Context) : Call → State → State → Prop
  | .expr e, s, s' => ∃ v, lowerExpr e ctx s = .ok (v, s')
  | .opt o, s, s' => ∃ v, lowerOpt o ctx s = .ok (v, s')
  | .list es, s, s' => ∃ vs, lowerList es ctx s = .ok (vs, s')
  | .block es, s, s' => ∃ v, lowerBlock es ctx s = .ok (v, s')
  | .arms xs result exit, s, s' => lowerArms xs result exit ctx s = .ok ((), s')
  | .handlers cs exn result exit, s, s' => lowerHandlers cs exn result exit ctx s = .ok ((), s')
  | .vararg elems, s, s' => ∃ vs, lowerVararg elems ctx s = .ok (vs, s')

/-- The exit block that arms and handlers branch to exists. -/
def Call.Fits (s : State) : Call → Prop
  | .arms _ _ exit | .handlers _ _ _ exit => exit < s.curFn.blocks.length
  | _ => True

/-- The steps of a call before its operands: a constructor call allocates its object first. -/
def CallStart (callee : Callee) (dispatch extension : Option Expr) (args : List Expr)
    (ctx : Context) (t u : State) : Prop :=
  (∀ cls, CallShape.of callee dispatch extension args ≠ .construct cls) ∧ u = t ∨
    ∃ cls k t₁ obj t₂ w, CallShape.of callee dispatch extension args = .construct cls ∧
      klassId cls ctx t = .ok (k, t₁) ∧ freshVar (.klassPtr k) ctx t₁ = .ok (obj, t₂) ∧
      emit (.alloc obj k) ctx t₂ = .ok (w, u)

/-- The steps of a `try` before its body, from the exit block on: with handlers, a header block
with the landing pad, the handlers, and the return to the block of the `try` with the header as
landing block. -/
def TryStart (catches : List Catch) (result : Option Var) (exit : Nat) (ctx : Context)
    (t₂ t₃ : State) : Prop :=
  catches = [] ∧ t₃ = t₂ ∨
    catches ≠ [] ∧ ∃ header t₆ exn t₇ w t₈ t₉,
      newBlock "catch.header" ctx t₂ = .ok (header, t₆) ∧
      freshVar .ptr ctx (t₆.moveTo header) = .ok (exn, t₇) ∧
      emit (.landingPad exn) ctx t₇ = .ok (w, t₈) ∧
      lowerHandlers catches (.var exn) result exit ctx
        { t₈ with env := (catches.map fun c => (c.param, .var exn)).reverse ++ t₈.env } =
        .ok ((), t₉) ∧
      t₃ = { t₉ with cursor := t₂.cursor, landing := some header }

/-- The steps of a field access before the value it stores: the offset and the receiver, if
there is one. -/
def ReceiverStart (field : FieldRef) (receiver : Option Expr) (span : Span) (ctx : Context)
    (t t₁ : State) : Prop :=
  receiver = none ∧ t₁ = t ∨
    ∃ r offset t₀ address, receiver = some r ∧
      fieldOffset field r.ty span ctx t = .ok (offset, t₀) ∧
      lowerExpr r ctx t₀ = .ok (address, t₁)

/-- `Child ctx p t c u`: the call `p`, run from `t`, runs the call `c` from `u`. -/
inductive Child (ctx : Context) : Call → State → Call → State → Prop
  | typeOp {op arg operand ty span t} :
      Child ctx (.expr (.node (.typeOp op arg operand) ty span)) t (.expr arg) t
  | dispatch {callee dispatch extension args ty span t u}
      (hs : CallStart callee dispatch extension args ctx t u) :
      Child ctx (.expr (.node (.call callee dispatch extension args) ty span)) t (.opt dispatch) u
  | extension {callee dispatch extension args ty span t u d u₁}
      (hs : CallStart callee dispatch extension args ctx t u)
      (hd : lowerOpt dispatch ctx u = .ok (d, u₁)) :
      Child ctx (.expr (.node (.call callee dispatch extension args) ty span)) t (.opt extension) u₁
  | args {callee dispatch extension args ty span t u d u₁ e u₂}
      (hs : CallStart callee dispatch extension args ctx t u)
      (hd : lowerOpt dispatch ctx u = .ok (d, u₁)) (he : lowerOpt extension ctx u₁ = .ok (e, u₂)) :
      Child ctx (.expr (.node (.call callee dispatch extension args) ty span)) t (.list args) u₂
  | delegating {callee args ty span t} :
      Child ctx (.expr (.node (.delegatingCall callee args) ty span)) t (.list args) t
  | block {stmts ty span t} : Child ctx (.expr (.node (.block stmts) ty span)) t (.block stmts) t
  | whileCond {loop cond body ty span t check t₁ bodyB t₂ exit t₃ w t₄}
      (h₁ : newBlock "while.check" ctx t = .ok (check, t₁))
      (h₂ : newBlock "while.body" ctx t₁ = .ok (bodyB, t₂))
      (h₃ : newBlock "while.exit" ctx t₂ = .ok (exit, t₃))
      (h₄ : emit (.br check) ctx t₃ = .ok (w, t₄)) :
      Child ctx (.expr (.node (.whileLoop loop cond body) ty span)) t (.expr cond) (t₄.moveTo check)
  | whileBody {loop cond body ty span t check t₁ bodyB t₂ exit t₃ w t₄ c t₅ w' t₆}
      (h₁ : newBlock "while.check" ctx t = .ok (check, t₁))
      (h₂ : newBlock "while.body" ctx t₁ = .ok (bodyB, t₂))
      (h₃ : newBlock "while.exit" ctx t₂ = .ok (exit, t₃))
      (h₄ : emit (.br check) ctx t₃ = .ok (w, t₄))
      (h₅ : lowerExpr cond ctx (t₄.moveTo check) = .ok (c, t₅))
      (h₆ : emit (.condBr c bodyB exit) ctx t₅ = .ok (w', t₆)) :
      Child ctx (.expr (.node (.whileLoop loop cond body) ty span)) t (.opt body)
        ({ t₆ with loops := ⟨loop, check, exit⟩ :: t₆.loops }.moveTo bodyB)
  | doBody {loop cond body ty span t check t₁ bodyB t₂ exit t₃ w t₄}
      (h₁ : newBlock "do.check" ctx t = .ok (check, t₁))
      (h₂ : newBlock "do.body" ctx t₁ = .ok (bodyB, t₂))
      (h₃ : newBlock "do.exit" ctx t₂ = .ok (exit, t₃))
      (h₄ : emit (.br bodyB) ctx t₃ = .ok (w, t₄)) :
      Child ctx (.expr (.node (.doWhile loop cond body) ty span)) t (.opt body)
        ({ t₄ with loops := ⟨loop, check, exit⟩ :: t₄.loops }.moveTo bodyB)
  | doCond {loop cond body ty span t check t₁ bodyB t₂ exit t₃ w t₄ b t₅ t₆}
      (h₁ : newBlock "do.check" ctx t = .ok (check, t₁))
      (h₂ : newBlock "do.body" ctx t₁ = .ok (bodyB, t₂))
      (h₃ : newBlock "do.exit" ctx t₂ = .ok (exit, t₃)) (h₄ : emit (.br bodyB) ctx t₃ = .ok (w, t₄))
      (h₅ : lowerOpt body ctx ({ t₄ with loops := ⟨loop, check, exit⟩ :: t₄.loops }.moveTo bodyB) =
        .ok (b, t₅))
      (h₆ : jumpIfOpen check ctx t₅ = .ok ((), t₆)) :
      Child ctx (.expr (.node (.doWhile loop cond body) ty span)) t (.expr cond) (t₆.moveTo check)
  | ret {target value ty span t} : Child ctx (.expr (.node (.ret target value) ty span)) t
      (.expr value) t
  | whenArms {arms ty span t result t₁ exit t₂} (h₁ : resultVar ty ctx t = .ok (result, t₁))
      (h₂ : newBlock "when.exit" ctx t₁ = .ok (exit, t₂)) :
      Child ctx (.expr (.node (.whenArms arms) ty span)) t (.arms arms result exit) t₂
  | declare {var name varTy init ty span t} :
      Child ctx (.expr (.node (.declare var name varTy init) ty span)) t (.opt init) t
  | assign {var name value ty span t} :
      Child ctx (.expr (.node (.assign var name value) ty span)) t (.expr value) t
  | vararg {elems ty span t} : Child ctx (.expr (.node (.vararg elems) ty span)) t (.vararg elems) t
  | throw {value ty span t} : Child ctx (.expr (.node (.throw value) ty span)) t (.expr value) t
  | handlers {body catches ty span t result t₁ exit t₂ header t₃ exn t₄ w t₅}
      (h₁ : resultVar ty ctx t = .ok (result, t₁))
      (h₂ : newBlock "try.exit" ctx t₁ = .ok (exit, t₂))
      (hne : catches ≠ []) (h₃ : newBlock "catch.header" ctx t₂ = .ok (header, t₃))
      (h₄ : freshVar .ptr ctx (t₃.moveTo header) = .ok (exn, t₄))
      (h₅ : emit (.landingPad exn) ctx t₄ = .ok (w, t₅)) :
      Child ctx (.expr (.node (.tryCatch body catches) ty span)) t
        (.handlers catches (.var exn) result exit)
        { t₅ with env := (catches.map fun c => (c.param, .var exn)).reverse ++ t₅.env }
  | tryBody {body catches ty span t result t₁ exit t₂ t₃}
      (h₁ : resultVar ty ctx t = .ok (result, t₁))
      (h₂ : newBlock "try.exit" ctx t₁ = .ok (exit, t₂))
      (h₃ : TryStart catches result exit ctx t₂ t₃) :
      Child ctx (.expr (.node (.tryCatch body catches) ty span)) t (.expr body) t₃
  | getReceiver {field receiver ty span t r offset t₁} (hr : receiver = some r)
      (h₁ : fieldOffset field r.ty span ctx t = .ok (offset, t₁)) :
      Child ctx (.expr (.node (.getField field receiver) ty span)) t (.expr r) t₁
  | setReceiver {field receiver value ty span t r offset t₁} (hr : receiver = some r)
      (h₁ : fieldOffset field r.ty span ctx t = .ok (offset, t₁)) :
      Child ctx (.expr (.node (.setField field receiver value) ty span)) t (.expr r) t₁
  | setValue {field receiver value ty span t t₁} (h₁ : ReceiverStart field receiver span ctx t t₁) :
      Child ctx (.expr (.node (.setField field receiver value) ty span)) t (.expr value) t₁
  | optSome {e t} : Child ctx (.opt (some e)) t (.expr e) t
  | listHead {e es t} : Child ctx (.list (e :: es)) t (.expr e) t
  | listTail {e es t a t₁} (h₁ : lowerExpr e ctx t = .ok (a, t₁)) :
      Child ctx (.list (e :: es)) t (.list es) t₁
  | blockHead {e es t} : Child ctx (.block (e :: es)) t (.expr e) t
  | blockTail {e e' es t a t₁} (h₁ : lowerExpr e ctx t = .ok (a, t₁)) :
      Child ctx (.block (e :: e' :: es)) t (.block (e' :: es)) t₁
  | varargHead {e rest t} : Child ctx (.vararg (.value e :: rest)) t (.expr e) t
  | varargTail {e rest t a t₁} (h₁ : lowerExpr e ctx t = .ok (a, t₁)) :
      Child ctx (.vararg (.value e :: rest)) t (.vararg rest) t₁
  | armTaken {cond res rest result exit t} (hc : cond.isTrueLiteral = true) :
      Child ctx (.arms (.mk cond res :: rest) result exit) t (.expr res) t
  | armGuard {cond res rest result exit t} (hc : cond.isTrueLiteral = false) :
      Child ctx (.arms (.mk cond res :: rest) result exit) t (.expr cond) t
  | armResult {cond res rest result exit t c t₁ arm t₂ next t₃ w t₄}
      (hc : cond.isTrueLiteral = false) (h₁ : lowerExpr cond ctx t = .ok (c, t₁))
      (h₂ : newBlock "when.arm" ctx t₁ = .ok (arm, t₂))
      (h₃ : rest = [] ∧ next = exit ∧ t₃ = t₂ ∨ rest ≠ [] ∧
        newBlock "when.next" ctx t₂ = .ok (next, t₃))
      (h₄ : emit (.condBr c arm next) ctx t₃ = .ok (w, t₄)) :
      Child ctx (.arms (.mk cond res :: rest) result exit) t (.expr res) (t₄.moveTo arm)
  | armsRest {cond res rest result exit t c t₁ arm t₂ next t₃ w t₄ a t₅ t₆}
      (hc : cond.isTrueLiteral = false) (h₁ : lowerExpr cond ctx t = .ok (c, t₁))
      (h₂ : newBlock "when.arm" ctx t₁ = .ok (arm, t₂))
      (h₃ : rest = [] ∧ next = exit ∧ t₃ = t₂ ∨ rest ≠ [] ∧
        newBlock "when.next" ctx t₂ = .ok (next, t₃))
      (h₄ : emit (.condBr c arm next) ctx t₃ = .ok (w, t₄))
      (h₅ : lowerExpr res ctx (t₄.moveTo arm) = .ok (a, t₅))
      (h₆ : finishArm a result exit ctx t₅ = .ok ((), t₆)) :
      Child ctx (.arms (.mk cond res :: rest) result exit) t (.arms rest result exit)
        (t₆.moveTo next)
  | handlerLast {c exn result exit t} : Child ctx (.handlers [c] exn result exit) t
      (.expr c.result) t
  | handlerResult {c c' rest exn result exit t ty t₁ caught t₂ w₁ t₃ body t₄ next t₅ w₂ t₆}
      (h₁ : lowerType c.ty ctx t = .ok (ty, t₁)) (h₂ : freshVar .boolean ctx t₁ = .ok (caught, t₂))
      (h₃ : emit (.typeTest .isInstance caught exn ty) ctx t₂ = .ok (w₁, t₃))
      (h₄ : newBlock "catch.body" ctx t₃ = .ok (body, t₄))
      (h₅ : newBlock "catch.next" ctx t₄ = .ok (next, t₅))
      (h₆ : emit (.condBr (.var caught) body next) ctx t₅ = .ok (w₂, t₆)) :
      Child ctx (.handlers (c :: c' :: rest) exn result exit) t (.expr c.result) (t₆.moveTo body)
  | handlersRest {c c' rest exn result exit t ty t₁ caught t₂ w₁ t₃ body t₄ next t₅ w₂ t₆ a t₇ t₈}
      (h₁ : lowerType c.ty ctx t = .ok (ty, t₁)) (h₂ : freshVar .boolean ctx t₁ = .ok (caught, t₂))
      (h₃ : emit (.typeTest .isInstance caught exn ty) ctx t₂ = .ok (w₁, t₃))
      (h₄ : newBlock "catch.body" ctx t₃ = .ok (body, t₄))
      (h₅ : newBlock "catch.next" ctx t₄ = .ok (next, t₅))
      (h₆ : emit (.condBr (.var caught) body next) ctx t₅ = .ok (w₂, t₆))
      (h₇ : lowerExpr c.result ctx (t₆.moveTo body) = .ok (a, t₇))
      (h₈ : finishArm a result exit ctx t₇ = .ok ((), t₈)) :
      Child ctx (.handlers (c :: c' :: rest) exn result exit) t
        (.handlers (c' :: rest) exn result exit) (t₈.moveTo next)

/-- `Within ctx d s s' p t t'`: while the call `p` runs from `t` to `t'`, the call `d` runs from
`s` to `s'`. -/
inductive Within (ctx : Context) (d : Call) (s s' : State) : Call → State → State → Prop
  | refl (h : d.Runs ctx s s') : Within ctx d s s' d s s'
  | child {p c : Call} {t t' u u' : State} (hp : p.Runs ctx t t') (hc : Child ctx p t c u)
      (hw : Within ctx d s s' c u u') : Within ctx d s s' p t t'

variable {ctx : Context} {d p c : Call} {s s' t t' u : State}

theorem Within.runs (h : Within ctx d s s' p t t') : p.Runs ctx t t' := by
  cases h with
  | refl h => exact h
  | child hp _ _ => exact hp

theorem Within.inner_runs (h : Within ctx d s s' p t t') : d.Runs ctx s s' := by
  induction h with
  | refl h => exact h
  | child _ _ _ ih => exact ih

/-! ## The steps before a child -/

/-- `u` is a state of selection inside the function where `t` is: built as selection builds,
with the cursor in the same function and every block `t` had. -/
structure Entered (t u : State) : Prop where
  built : Built (fun _ => True) u
  fn : u.cursor.fn = t.cursor.fn
  grows : t.curFn.blocks.length ≤ u.curFn.blocks.length

namespace Entered

theorem refl (hb : Built (fun _ => True) t) : Entered t t := ⟨hb, rfl, Nat.le_refl _⟩

theorem trans (h₁ : Entered t u) (h₂ : Entered u s) : Entered t s :=
  ⟨h₂.built, h₂.fn.trans h₁.fn, Nat.le_trans h₁.grows h₂.grows⟩

theorem of_keeps (hb : Built (fun _ => True) u) (hk : Keeps t u) : Entered t u :=
  ⟨hb, hk.fn, hk.blocks.1⟩

end Entered

section Formed

variable {P : Cursor → Prop}

theorem Built.forget (hb : Built P s) : Built (fun _ => True) s :=
  hb.pending fun _ _ => trivial

theorem Built.moveAny (hb : Built (fun _ => True) s) {b : Nat} (hlt : b < s.curFn.blocks.length) :
    Built (fun _ => True) (s.moveTo b) :=
  hb.moveTo hlt (.inr (.inr trivial)) fun _ _ => .inl trivial

theorem newBlock_formed {l : String} {b : Nat} (hb : Built (fun _ => True) s)
    (h : newBlock l ctx s = .ok (b, s')) :
    Built (fun _ => True) s' ∧ Keeps s s' ∧ b < s'.curFn.blocks.length :=
  ⟨(newBlock_built hb rfl h).1.forget, newBlock_keeps h, (newBlock_built hb rfl h).2⟩

theorem CallStart.entered {callee : Callee} {dispatch extension : Option Expr} {args : List Expr}
    (h : CallStart callee dispatch extension args ctx t u) (hb : Built (fun _ => True) t) :
    Built (fun _ => True) u ∧ Keeps t u := by
  rcases h with ⟨-, rfl⟩ | ⟨cls, k, t₁, obj, t₂, w, -, h₁, h₂, h₃⟩
  · exact ⟨hb, Keeps.refl _⟩
  · exact ⟨emit_plain_built (freshVar_built (klassId_built hb h₁) h₂) rfl rfl h₃,
      (klassId_keeps h₁).trans ((freshVar_keeps h₂).trans (emit_keeps h₃))⟩

theorem ReceiverStart.entered {field : FieldRef} {receiver : Option Expr} {span : Span}
    (h : ReceiverStart field receiver span ctx t u) (hb : Built (fun _ => True) t) :
    Built (fun _ => True) u ∧ Keeps t u := by
  rcases h with ⟨-, rfl⟩ | ⟨r, offset, t₀, address, -, h₀, h₁⟩
  · exact ⟨hb, Keeps.refl _⟩
  · exact ⟨lowerExpr_built r (fieldOffset_built hb h₀) h₁,
      (fieldOffset_keeps h₀).trans (lowerExpr_keeps r h₁)⟩

/-- The loop blocks made before a loop's parts: three new blocks and the branch into the loop. -/
theorem loopHead_formed {l₁ l₂ l₃ : String} {b₀ check bodyB exit : Nat} {w : Operand}
    {t₁ t₂ t₃ t₄ : State} (hb : Built (fun _ => True) t)
    (h₁ : newBlock l₁ ctx t = .ok (check, t₁)) (h₂ : newBlock l₂ ctx t₁ = .ok (bodyB, t₂))
    (h₃ : newBlock l₃ ctx t₂ = .ok (exit, t₃)) (h₀ : b₀ = check ∨ b₀ = bodyB)
    (h₄ : emit (.br b₀) ctx t₃ = .ok (w, t₄)) :
    Built (fun _ => True) t₄ ∧ Keeps t t₄ ∧ check < t₄.curFn.blocks.length ∧
      bodyB < t₄.curFn.blocks.length ∧ exit < t₄.curFn.blocks.length := by
  obtain ⟨b₁, k₁, l₁⟩ := newBlock_formed hb h₁
  obtain ⟨b₂, k₂, l₂⟩ := newBlock_formed b₁ h₂
  obtain ⟨b₃, k₃, l₃⟩ := newBlock_formed b₂ h₃
  have lc := (k₂.trans k₃).lt l₁
  have lb := k₃.lt l₂
  have l₀ : b₀ < t₃.curFn.blocks.length := by rcases h₀ with rfl | rfl <;> assumption
  have k₄ := emit_keeps h₄
  exact ⟨(emit_built b₃ (Instr.Sound.br l₀) h₄).1, k₁.trans (k₂.trans (k₃.trans k₄)), k₄.lt lc,
    k₄.lt lb, k₄.lt l₃⟩

/-- The steps of a `when` arm before its result: the guard, the arm's block, the block of the
next test unless the arm is the last, and the branch on the guard. -/
theorem armTest_formed {cond : Expr} {rest : List Arm} {exit arm next : Nat} {c w : Operand}
    {t₁ t₂ t₃ t₄ : State} (hb : Built (fun _ => True) t) (he : exit < t.curFn.blocks.length)
    (h₁ : lowerExpr cond ctx t = .ok (c, t₁)) (h₂ : newBlock "when.arm" ctx t₁ = .ok (arm, t₂))
    (h₃ : rest = [] ∧ next = exit ∧ t₃ = t₂ ∨ rest ≠ [] ∧
      newBlock "when.next" ctx t₂ = .ok (next, t₃))
    (h₄ : emit (.condBr c arm next) ctx t₃ = .ok (w, t₄)) :
    Built (fun _ => True) t₄ ∧ Keeps t t₄ ∧ arm < t₄.curFn.blocks.length ∧
      next < t₄.curFn.blocks.length := by
  have k₁ := lowerExpr_keeps _ h₁
  obtain ⟨b₂, k₂, l₂⟩ := newBlock_formed (lowerExpr_built _ hb h₁) h₂
  have n₃ : Built (fun _ => True) t₃ ∧ Keeps t₂ t₃ ∧ next < t₃.curFn.blocks.length := by
    rcases h₃ with ⟨-, rfl, rfl⟩ | ⟨-, h₃⟩
    · exact ⟨b₂, Keeps.refl _, (k₁.trans k₂).lt he⟩
    · exact newBlock_formed b₂ h₃
  obtain ⟨b₃, k₃, l₃⟩ := n₃
  have k₄ := emit_keeps h₄
  exact ⟨(emit_built b₃ (Instr.Sound.condBr (k₃.lt l₂) l₃) h₄).1,
    k₁.trans (k₂.trans (k₃.trans k₄)), (k₃.trans k₄).lt l₂, k₄.lt l₃⟩

/-- The steps of a handler before its result, when another handler follows: the type test,
the blocks of the handler and of the next one, and the branch on the test. -/
theorem handlerTest_formed {c : Catch} {exn : Operand} {ty : Graph.Ty} {caught : Var}
    {w₁ w₂ : Operand} {body next : Nat} {t₁ t₂ t₃ t₄ t₅ t₆ : State} (hb : Built (fun _ => True) t)
    (h₁ : lowerType c.ty ctx t = .ok (ty, t₁)) (h₂ : freshVar .boolean ctx t₁ = .ok (caught, t₂))
    (h₃ : emit (.typeTest .isInstance caught exn ty) ctx t₂ = .ok (w₁, t₃))
    (h₄ : newBlock "catch.body" ctx t₃ = .ok (body, t₄))
    (h₅ : newBlock "catch.next" ctx t₄ = .ok (next, t₅))
    (h₆ : emit (.condBr (.var caught) body next) ctx t₅ = .ok (w₂, t₆)) :
    Built (fun _ => True) t₆ ∧ Keeps t t₆ ∧ body < t₆.curFn.blocks.length ∧
      next < t₆.curFn.blocks.length := by
  have k₃ : Keeps t t₃ := (lowerType_keeps h₁).trans ((freshVar_keeps h₂).trans (emit_keeps h₃))
  have b₃ := emit_plain_built (freshVar_built (lowerType_built hb h₁) h₂) rfl rfl h₃
  obtain ⟨b₄, k₄, l₄⟩ := newBlock_formed b₃ h₄
  obtain ⟨b₅, k₅, l₅⟩ := newBlock_formed b₄ h₅
  have k₆ := emit_keeps h₆
  exact ⟨(emit_built b₅ (Instr.Sound.condBr (k₅.lt l₄) l₅) h₆).1,
    k₃.trans (k₄.trans (k₅.trans k₆)), (k₅.trans k₆).lt l₄, k₆.lt l₅⟩

/-- The steps before a child keep selection's invariant, in the function where the parent
started and with every block it had; the exit of arms and handlers exists. -/
theorem Child.entered (hc : Child ctx p t c u) (hb : Built (fun _ => True) t) (hf : p.Fits t) :
    Entered t u ∧ c.Fits u := by
  cases hc with
  | typeOp | delegating | block | ret | declare | assign | vararg | throw | optSome | listHead
  | blockHead | varargHead | armTaken | armGuard | handlerLast =>
    exact ⟨Entered.refl hb, trivial⟩
  | dispatch hs =>
    obtain ⟨b, k⟩ := hs.entered hb
    exact ⟨Entered.of_keeps b k, trivial⟩
  | extension hs hd =>
    obtain ⟨b, k⟩ := hs.entered hb
    exact ⟨Entered.of_keeps (lowerOpt_built _ b hd) (k.trans (lowerOpt_keeps _ hd)), trivial⟩
  | args hs hd he =>
    obtain ⟨b, k⟩ := hs.entered hb
    exact ⟨Entered.of_keeps (lowerOpt_built _ (lowerOpt_built _ b hd) he)
      (k.trans ((lowerOpt_keeps _ hd).trans (lowerOpt_keeps _ he))), trivial⟩
  | whileCond h₁ h₂ h₃ h₄ =>
    obtain ⟨b₄, k₄, lc, -, -⟩ := loopHead_formed hb h₁ h₂ h₃ (.inl rfl) h₄
    exact ⟨Entered.of_keeps (b₄.moveAny lc) (k₄.moveTo _), trivial⟩
  | whileBody h₁ h₂ h₃ h₄ h₅ h₆ =>
    obtain ⟨b₄, k₄, lc, lb, lx⟩ := loopHead_formed hb h₁ h₂ h₃ (.inl rfl) h₄
    have k₆ := (lowerExpr_keeps _ h₅).trans (emit_keeps h₆)
    have b₆ := (emit_built (lowerExpr_built _ (b₄.moveAny lc) h₅)
      (Instr.Sound.condBr ((lowerExpr_keeps _ h₅).lt lb) ((lowerExpr_keeps _ h₅).lt lx)) h₆).1
    have k := (k₄.moveTo _).trans k₆
    exact ⟨⟨(b₆.pushLoop (k₆.lt lc) (k₆.lt lx)).moveAny (k₆.lt lb), k.fn, k.blocks.1⟩, trivial⟩
  | doBody h₁ h₂ h₃ h₄ =>
    obtain ⟨b₄, k₄, lc, lb, lx⟩ := loopHead_formed hb h₁ h₂ h₃ (.inr rfl) h₄
    exact ⟨⟨(b₄.pushLoop lc lx).moveAny lb, k₄.fn, k₄.blocks.1⟩, trivial⟩
  | doCond h₁ h₂ h₃ h₄ h₅ h₆ =>
    obtain ⟨b₄, k₄, lc, lb, lx⟩ := loopHead_formed hb h₁ h₂ h₃ (.inr rfl) h₄
    have k := (lowerOpt_keeps _ h₅).trans (jumpIfOpen_keeps h₆)
    have b₆ := (jumpIfOpen_built (lowerOpt_built _ ((b₄.pushLoop lc lx).moveAny lb) h₅)
      ((lowerOpt_keeps _ h₅).lt lc) h₆).1
    exact ⟨⟨b₆.moveAny (k.lt lc), k.fn.trans k₄.fn, Nat.le_trans k₄.blocks.1 k.blocks.1⟩, trivial⟩
  | whenArms h₁ h₂ =>
    obtain ⟨b₂, k₂, l₂⟩ := newBlock_formed (resultVar_built hb h₁) h₂
    exact ⟨Entered.of_keeps b₂ ((resultVar_keeps h₁).trans k₂), l₂⟩
  | handlers h₁ h₂ hne h₃ h₄ h₅ =>
    obtain ⟨b₂, k₂, l₂⟩ := newBlock_formed (resultVar_built hb h₁) h₂
    obtain ⟨b₃, k₃, l₃⟩ := newBlock_formed b₂ h₃
    have k₅ := (k₃.moveTo _).trans ((freshVar_keeps h₄).trans (emit_keeps h₅))
    have b₅ := emit_plain_built (freshVar_built (b₃.moveAny l₃) h₄) rfl rfl h₅
    exact ⟨Entered.of_keeps (b₅.bind _) (((resultVar_keeps h₁).trans (k₂.trans k₅)).bind _),
      k₅.lt l₂⟩
  | tryBody h₁ h₂ h₃ =>
    obtain ⟨b₂, k₂, l₂⟩ := newBlock_formed (resultVar_built hb h₁) h₂
    obtain ⟨b₃, g₃, f₃⟩ := tryStart_built (fun exn => lowerHandlers_built _ exn _ _) b₂ l₂ h₃
    have k := (resultVar_keeps h₁).trans k₂
    exact ⟨⟨b₃, f₃.trans k.fn, Nat.le_trans k.blocks.1 g₃.1⟩, trivial⟩
  | getReceiver hr h₁ | setReceiver hr h₁ =>
    exact ⟨Entered.of_keeps (fieldOffset_built hb h₁) (fieldOffset_keeps h₁), trivial⟩
  | setValue h₁ =>
    obtain ⟨b, k⟩ := h₁.entered hb
    exact ⟨Entered.of_keeps b k, trivial⟩
  | listTail h₁ | blockTail h₁ | varargTail h₁ =>
    exact ⟨Entered.of_keeps (lowerExpr_built _ hb h₁) (lowerExpr_keeps _ h₁), trivial⟩
  | armResult hc h₁ h₂ h₃ h₄ =>
    obtain ⟨b₄, k₄, la, -⟩ := armTest_formed hb hf h₁ h₂ h₃ h₄
    exact ⟨Entered.of_keeps (b₄.moveAny la) (k₄.moveTo _), trivial⟩
  | armsRest hc h₁ h₂ h₃ h₄ h₅ h₆ =>
    obtain ⟨b₄, k₄, la, ln⟩ := armTest_formed hb hf h₁ h₂ h₃ h₄
    have k₆ := (lowerExpr_keeps _ h₅).trans (finishArm_keeps h₆)
    have b₆ := (finishArm_built (lowerExpr_built _ (b₄.moveAny la) h₅)
      ((lowerExpr_keeps _ h₅).lt (k₄.lt hf)) h₆).1
    have k := (k₄.moveTo _).trans k₆
    exact ⟨Entered.of_keeps (b₆.moveAny (k₆.lt ln)) (k.moveTo _), k.lt hf⟩
  | handlerResult h₁ h₂ h₃ h₄ h₅ h₆ =>
    obtain ⟨b₆, k₆, lb, -⟩ := handlerTest_formed hb h₁ h₂ h₃ h₄ h₅ h₆
    exact ⟨Entered.of_keeps (b₆.moveAny lb) (k₆.moveTo _), trivial⟩
  | handlersRest h₁ h₂ h₃ h₄ h₅ h₆ h₇ h₈ =>
    obtain ⟨b₆, k₆, lb, ln⟩ := handlerTest_formed hb h₁ h₂ h₃ h₄ h₅ h₆
    have k₈ := (lowerExpr_keeps _ h₇).trans (finishArm_keeps h₈)
    have b₈ := (finishArm_built (lowerExpr_built _ (b₆.moveAny lb) h₇)
      ((lowerExpr_keeps _ h₇).lt (k₆.lt hf)) h₈).1
    have k := (k₆.moveTo _).trans k₈
    exact ⟨Entered.of_keeps (b₈.moveAny (k₈.lt ln)) (k.moveTo _), k.lt hf⟩

/-- Every call made while `p` runs from a state of selection starts in a state of selection, in
the function where `p` started and with every block it had. -/
theorem Within.entered (hw : Within ctx d s s' p t t') :
    Built (fun _ => True) t → p.Fits t → Entered t s ∧ d.Fits s := by
  induction hw with
  | refl _ => exact fun hb hf => ⟨Entered.refl hb, hf⟩
  | child _ hc _ ih =>
    intro hb hf
    obtain ⟨e, hf'⟩ := hc.entered hb hf
    obtain ⟨e', hf''⟩ := ih e.built hf'
    exact ⟨e.trans e', hf''⟩

end Formed

theorem Call.Runs.keeps (h : c.Runs ctx s s') : Keeps s s' := by
  cases c with
  | expr e => obtain ⟨v, h⟩ := h; exact lowerExpr_keeps e h
  | opt o => obtain ⟨v, h⟩ := h; exact lowerOpt_keeps o h
  | list es => obtain ⟨v, h⟩ := h; exact lowerList_keeps es h
  | block es => obtain ⟨v, h⟩ := h; exact lowerBlock_keeps es h
  | arms xs result exit => exact lowerArms_keeps xs h
  | handlers cs exn result exit => exact lowerHandlers_keeps cs h
  | vararg elems => obtain ⟨v, h⟩ := h; exact lowerVararg_keeps elems h

end Isel.Lower
