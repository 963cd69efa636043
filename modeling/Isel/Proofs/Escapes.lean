import Isel.Proofs.Run

/-! # What the code of a tree sends out of it

Lowering a tree makes blocks of its own and branches between them, but three kinds of node
send control elsewhere: a `break` or `continue` goes to a loop around the tree, and a call
inside a `try` with handlers goes on, if the callee throws, at the landing block of the
innermost such `try`. `Expr.escapes` counts these over the nodes that selection lowers, which
are all of them except the arms of a `when` after the first one guarded by the literal `true`
and the arguments of nodes that have no lowering.

A jump is free in a tree unless a loop of the tree with its id encloses it: the body of a loop
binds its id, and so does the condition of a `do`-`while`, while the condition of a `while` is
tested before its loop is entered. A call is protected in a tree when it lies in the body of a
`try` with handlers of the tree; a call in a handler is protected only by a `try` around that
`try`. `resolve` gives the block a free jump goes to among the loops being lowered.
-/

namespace Isel.Lower

open Isel.Tree (Expr ExprKind Arm Catch VarargElem LoopId)

/-- What the code of a tree sends out of it: its free jumps, each with its kind and loop id;
the calls that unwind to the landing block around it; the calls that a `try` of the tree
protects. -/
structure Escapes where
  jumps : List (LoopExit × LoopId)
  calls : Nat
  protectedCalls : Nat

namespace Escapes

instance : Zero Escapes := ⟨⟨[], 0, 0⟩⟩

instance : Add Escapes :=
  ⟨fun a b => ⟨a.jumps ++ b.jumps, a.calls + b.calls, a.protectedCalls + b.protectedCalls⟩⟩

def jump (k : LoopExit) (l : LoopId) : Escapes := ⟨[(k, l)], 0, 0⟩

def call : Escapes := ⟨[], 1, 0⟩

def bind (x : Escapes) (l : LoopId) : Escapes := { x with jumps := x.jumps.filter (·.2 != l) }

def protect (x : Escapes) : Escapes := ⟨x.jumps, 0, x.calls + x.protectedCalls⟩

theorem ext {a b : Escapes} (hj : a.jumps = b.jumps) (hc : a.calls = b.calls)
    (hp : a.protectedCalls = b.protectedCalls) : a = b := by
  cases a
  cases b
  simp_all

@[simp] theorem zero_jumps : (0 : Escapes).jumps = [] := rfl
@[simp] theorem zero_calls : (0 : Escapes).calls = 0 := rfl
@[simp] theorem zero_protectedCalls : (0 : Escapes).protectedCalls = 0 := rfl
@[simp] theorem add_jumps (a b : Escapes) : (a + b).jumps = a.jumps ++ b.jumps := rfl
@[simp] theorem add_calls (a b : Escapes) : (a + b).calls = a.calls + b.calls := rfl
@[simp] theorem add_protectedCalls (a b : Escapes) :
    (a + b).protectedCalls = a.protectedCalls + b.protectedCalls := rfl
@[simp] theorem add_zero (a : Escapes) : a + 0 = a := ext (by simp) (by simp) (by simp)
@[simp] theorem zero_add (a : Escapes) : 0 + a = a := ext (by simp) (by simp) (by simp)
@[simp] theorem jump_jumps (k : LoopExit) (l : LoopId) : (jump k l).jumps = [(k, l)] := rfl
@[simp] theorem jump_calls (k : LoopExit) (l : LoopId) : (jump k l).calls = 0 := rfl
@[simp] theorem jump_protectedCalls (k : LoopExit) (l : LoopId) : (jump k l).protectedCalls = 0 :=
  rfl
@[simp] theorem call_jumps : call.jumps = [] := rfl
@[simp] theorem call_calls : call.calls = 1 := rfl
@[simp] theorem call_protectedCalls : call.protectedCalls = 0 := rfl
@[simp] theorem bind_jumps (x : Escapes) (l : LoopId) :
    (x.bind l).jumps = x.jumps.filter (·.2 != l) := rfl
@[simp] theorem bind_calls (x : Escapes) (l : LoopId) : (x.bind l).calls = x.calls := rfl
@[simp] theorem bind_protectedCalls (x : Escapes) (l : LoopId) :
    (x.bind l).protectedCalls = x.protectedCalls := rfl
@[simp] theorem protect_jumps (x : Escapes) : x.protect.jumps = x.jumps := rfl
@[simp] theorem protect_calls (x : Escapes) : x.protect.calls = 0 := rfl
@[simp] theorem protect_protectedCalls (x : Escapes) :
    x.protect.protectedCalls = x.calls + x.protectedCalls := rfl

end Escapes

def CallShape.escapes : CallShape → Escapes
  | .construct _ | .plain => Escapes.call
  | .intrinsic | .arithmetic _ => 0

/-! ## Jumps among the loops being lowered -/

/-- Where a jump goes in the frame of its loop: to the exit for `break`, to the test for
`continue`. -/
def LoopExit.target : LoopExit → LoopFrame → Nat
  | .breakLoop, fr => fr.exit
  | .continueLoop, fr => fr.check

def resolve (loops : List LoopFrame) (j : LoopExit × LoopId) : Option Nat :=
  (loops.find? (·.loop == j.2)).map j.1.target

theorem resolve_cons_of_eq {fr : LoopFrame} {loops : List LoopFrame} {j : LoopExit × LoopId}
    (h : fr.loop = j.2) : resolve (fr :: loops) j = some (j.1.target fr) := by
  simp [resolve, h]

theorem resolve_cons_of_ne {fr : LoopFrame} {loops : List LoopFrame} {j : LoopExit × LoopId}
    (h : fr.loop ≠ j.2) : resolve (fr :: loops) j = resolve loops j := by
  simp [resolve, h]

theorem countP_resolve_cons {fr : LoopFrame} {loops : List LoopFrame} {t : Nat}
    (hc : fr.check ≠ t) (he : fr.exit ≠ t) (js : List (LoopExit × LoopId)) :
    js.countP (fun j => resolve (fr :: loops) j == some t) =
      (js.filter (·.2 != fr.loop)).countP (fun j => resolve loops j == some t) := by
  induction js with
  | nil => rfl
  | cons j js ih =>
    obtain ⟨k, l⟩ := j
    by_cases hj : fr.loop = l
    · -- a jump the new loop binds goes to one of its blocks
      have hne : k.target fr ≠ t := by
        cases k with
        | breakLoop => exact he
        | continueLoop => exact hc
      rw [List.countP_cons, resolve_cons_of_eq hj, ih]
      simp [hne, hj]
    · rw [List.countP_cons, resolve_cons_of_ne hj, ih]
      simp [Ne.symm hj, List.countP_cons]

theorem resolved_of_cons {fr : LoopFrame} {loops : List LoopFrame} {js : List (LoopExit × LoopId)}
    (h : ∀ j ∈ js, (resolve (fr :: loops) j).isSome) :
    ∀ j ∈ js.filter (·.2 != fr.loop), (resolve loops j).isSome := by
  intro j hj
  rw [List.mem_filter, bne_iff_ne, ne_eq] at hj
  rw [← resolve_cons_of_ne (Ne.symm hj.2)]
  exact h j hj.1

end Isel.Lower

namespace Isel.Tree

open Isel.Lower (Escapes CallShape LoopExit)

mutual

def Expr.escapes : Expr → Escapes
  | .node k _ _ => k.escapes

def ExprKind.escapes : ExprKind → Escapes
  | .literal _ | .instanceInit _ | .read _ _ | .objectValue _ | .stringConcat _
  | .classReference _ | .functionReference _ | .enumEntry _ _ => 0
  | .typeOp _ a _ | .ret _ a | .assign _ _ a | .throw a => a.escapes
  | .call callee d x args =>
    Expr.optEscapes d + Expr.optEscapes x + Expr.listEscapes args +
      (CallShape.of callee d x args).escapes
  | .delegatingCall _ args => Expr.listEscapes args + Escapes.call
  | .block stmts => Expr.listEscapes stmts
  | .whileLoop l c b => c.escapes + (Expr.optEscapes b).bind l
  | .doWhile l c b => (Expr.optEscapes b + c.escapes).bind l
  | .breakLoop l => Escapes.jump .breakLoop l
  | .continueLoop l => Escapes.jump .continueLoop l
  | .whenArms arms => Arm.listEscapes arms
  | .declare _ _ _ init => Expr.optEscapes init
  | .vararg elems => VarargElem.listEscapes elems
  | .tryCatch b cs => if cs = [] then b.escapes else Catch.listEscapes cs + b.escapes.protect
  | .getField _ r => Expr.optEscapes r
  | .setField _ r v => Expr.optEscapes r + v.escapes

def Expr.optEscapes : Option Expr → Escapes
  | none => 0
  | some e => e.escapes

def Expr.listEscapes : List Expr → Escapes
  | [] => 0
  | e :: es => e.escapes + Expr.listEscapes es

def Arm.listEscapes : List Arm → Escapes
  | [] => 0
  | .mk c r :: rest => if c.isTrueLiteral then r.escapes else c.escapes + r.escapes + Arm.listEscapes rest

def Catch.listEscapes : List Catch → Escapes
  | [] => 0
  | .mk _ _ _ r :: cs => r.escapes + Catch.listEscapes cs

def VarargElem.listEscapes : List VarargElem → Escapes
  | [] => 0
  | .value e :: rest => e.escapes + VarargElem.listEscapes rest
  | .spread _ :: _ => 0

end

/-! ## Where the free jumps are -/

mutual

/-- The `break` and `continue` nodes of an expression that no loop of it binds, each with its
keyword, its loop id and its span: the free jumps of `Expr.escapes`, with where they are. -/
def Expr.jumpSites : Expr → List (LoopExit × LoopId × Span)
  | .node k _ span => k.jumpSites span

def ExprKind.jumpSites : ExprKind → Span → List (LoopExit × LoopId × Span)
  | .literal _, _ | .instanceInit _, _ | .read _ _, _ | .objectValue _, _ | .stringConcat _, _
  | .classReference _, _ | .functionReference _, _ | .enumEntry _ _, _ => []
  | .typeOp _ a _, _ | .ret _ a, _ | .assign _ _ a, _ | .throw a, _ => a.jumpSites
  | .call _ d x args, _ => Expr.optJumpSites d ++ Expr.optJumpSites x ++ Expr.listJumpSites args
  | .delegatingCall _ args, _ => Expr.listJumpSites args
  | .block stmts, _ => Expr.listJumpSites stmts
  | .whileLoop l c b, _ => c.jumpSites ++ (Expr.optJumpSites b).filter (·.2.1 != l)
  | .doWhile l c b, _ => (Expr.optJumpSites b ++ c.jumpSites).filter (·.2.1 != l)
  | .breakLoop l, span => [(.breakLoop, l, span)]
  | .continueLoop l, span => [(.continueLoop, l, span)]
  | .whenArms arms, _ => Arm.listJumpSites arms
  | .declare _ _ _ init, _ => Expr.optJumpSites init
  | .vararg elems, _ => VarargElem.listJumpSites elems
  | .tryCatch b cs, _ => if cs = [] then b.jumpSites else Catch.listJumpSites cs ++ b.jumpSites
  | .getField _ r, _ => Expr.optJumpSites r
  | .setField _ r v, _ => Expr.optJumpSites r ++ v.jumpSites

def Expr.optJumpSites : Option Expr → List (LoopExit × LoopId × Span)
  | none => []
  | some e => e.jumpSites

def Expr.listJumpSites : List Expr → List (LoopExit × LoopId × Span)
  | [] => []
  | e :: es => e.jumpSites ++ Expr.listJumpSites es

def Arm.listJumpSites : List Arm → List (LoopExit × LoopId × Span)
  | [] => []
  | .mk c r :: rest =>
    if c.isTrueLiteral then r.jumpSites else c.jumpSites ++ r.jumpSites ++ Arm.listJumpSites rest

def Catch.listJumpSites : List Catch → List (LoopExit × LoopId × Span)
  | [] => []
  | .mk _ _ _ r :: cs => r.jumpSites ++ Catch.listJumpSites cs

def VarargElem.listJumpSites : List VarargElem → List (LoopExit × LoopId × Span)
  | [] => []
  | .value e :: rest => e.jumpSites ++ VarargElem.listJumpSites rest
  | .spread _ :: _ => []

end

theorem CallShape.escapes_jumps (c : CallShape) : c.escapes.jumps = [] := by
  cases c <;> rfl

theorem filter_jumpSites (xs : List (LoopExit × LoopId × Span)) (l : LoopId) :
    (xs.filter (·.2.1 != l)).map (fun j => (j.1, j.2.1)) =
      (xs.map fun j => (j.1, j.2.1)).filter (·.2 != l) := by
  rw [List.filter_map]
  rfl

mutual

theorem Expr.jumpSites_jumps : ∀ e : Expr, e.jumpSites.map (fun j => (j.1, j.2.1)) = e.escapes.jumps
  | .node k _ span => ExprKind.jumpSites_jumps k span

theorem ExprKind.jumpSites_jumps : ∀ (k : ExprKind) (span : Span),
    (k.jumpSites span).map (fun j => (j.1, j.2.1)) = k.escapes.jumps
  | .literal _, _ | .instanceInit _, _ | .read _ _, _ | .objectValue _, _ | .stringConcat _, _
  | .classReference _, _ | .functionReference _, _ | .enumEntry _ _, _ => rfl
  | .typeOp _ a _, _ | .ret _ a, _ | .assign _ _ a, _ | .throw a, _ => Expr.jumpSites_jumps a
  | .call callee d x args, _ => by
    simp only [ExprKind.jumpSites, ExprKind.escapes, List.map_append, Escapes.add_jumps,
      CallShape.escapes_jumps, List.append_nil, Expr.optJumpSites_jumps d,
      Expr.optJumpSites_jumps x, Expr.listJumpSites_jumps args]
  | .delegatingCall _ args, _ => by
    simp only [ExprKind.jumpSites, ExprKind.escapes, Escapes.add_jumps, Escapes.call_jumps,
      List.append_nil, Expr.listJumpSites_jumps args]
  | .block stmts, _ => Expr.listJumpSites_jumps stmts
  | .whileLoop l c b, _ => by
    simp only [ExprKind.jumpSites, ExprKind.escapes, List.map_append, Escapes.add_jumps,
      Escapes.bind_jumps, filter_jumpSites, Expr.jumpSites_jumps c, Expr.optJumpSites_jumps b]
  | .doWhile l c b, _ => by
    simp only [ExprKind.jumpSites, ExprKind.escapes, Escapes.bind_jumps, filter_jumpSites,
      List.map_append, Escapes.add_jumps, Expr.jumpSites_jumps c, Expr.optJumpSites_jumps b]
  | .breakLoop _, _ | .continueLoop _, _ => rfl
  | .whenArms arms, _ => Arm.listJumpSites_jumps arms
  | .declare _ _ _ init, _ => Expr.optJumpSites_jumps init
  | .vararg elems, _ => VarargElem.listJumpSites_jumps elems
  | .tryCatch b cs, _ => by
    simp only [ExprKind.jumpSites, ExprKind.escapes]
    split
    · exact Expr.jumpSites_jumps b
    · simp only [List.map_append, Escapes.add_jumps, Escapes.protect_jumps,
        Catch.listJumpSites_jumps cs, Expr.jumpSites_jumps b]
  | .getField _ r, _ => Expr.optJumpSites_jumps r
  | .setField _ r v, _ => by
    simp only [ExprKind.jumpSites, ExprKind.escapes, List.map_append, Escapes.add_jumps,
      Expr.optJumpSites_jumps r, Expr.jumpSites_jumps v]

theorem Expr.optJumpSites_jumps : ∀ e : Option Expr,
    (Expr.optJumpSites e).map (fun j => (j.1, j.2.1)) = (Expr.optEscapes e).jumps
  | none => rfl
  | some e => Expr.jumpSites_jumps e

theorem Expr.listJumpSites_jumps : ∀ es : List Expr,
    (Expr.listJumpSites es).map (fun j => (j.1, j.2.1)) = (Expr.listEscapes es).jumps
  | [] => rfl
  | e :: es => by
    simp only [Expr.listJumpSites, Expr.listEscapes, List.map_append, Escapes.add_jumps,
      Expr.jumpSites_jumps e, Expr.listJumpSites_jumps es]

theorem Arm.listJumpSites_jumps : ∀ arms : List Arm,
    (Arm.listJumpSites arms).map (fun j => (j.1, j.2.1)) = (Arm.listEscapes arms).jumps
  | [] => rfl
  | .mk c r :: rest => by
    simp only [Arm.listJumpSites, Arm.listEscapes]
    split
    · exact Expr.jumpSites_jumps r
    · simp only [List.map_append, Escapes.add_jumps, Expr.jumpSites_jumps c,
        Expr.jumpSites_jumps r, Arm.listJumpSites_jumps rest]

theorem Catch.listJumpSites_jumps : ∀ cs : List Catch,
    (Catch.listJumpSites cs).map (fun j => (j.1, j.2.1)) = (Catch.listEscapes cs).jumps
  | [] => rfl
  | .mk _ _ _ r :: cs => by
    simp only [Catch.listJumpSites, Catch.listEscapes, List.map_append, Escapes.add_jumps,
      Expr.jumpSites_jumps r, Catch.listJumpSites_jumps cs]

theorem VarargElem.listJumpSites_jumps : ∀ elems : List VarargElem,
    (VarargElem.listJumpSites elems).map (fun j => (j.1, j.2.1)) =
      (VarargElem.listEscapes elems).jumps
  | [] => rfl
  | .value e :: rest => by
    simp only [VarargElem.listJumpSites, VarargElem.listEscapes, List.map_append,
      Escapes.add_jumps, Expr.jumpSites_jumps e, VarargElem.listJumpSites_jumps rest]
  | .spread _ :: _ => rfl

end

end Isel.Tree
