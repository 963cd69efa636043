import Isel.Proofs.Frame
import Isel.Proofs.Declarations
import Isel.Proofs.Scope
import Isel.Proofs.Lines

/-!
# Selected programs print line by line

Selection writes names into the program as they are: the names of classes and of their
fields, of functions and of their parameters, the callees of calls, the locals assignments
write, the fields a field access names, and the global initializer's name. Everything else it
writes is its own: block labels, fresh variables `%N`, parameters `pN`, `defN` for undeclared
classes, `Class.<init>` and `Class.instance`. So when the names a module hands to selection have
no line feed (`Decl.names`, `Expr.names`), no name of the selected program has one
(`Clean`), and its listing is its lines (`Program.Printable`).

`Clean` holds of the state before selection and every step keeps it; the lowering of a tree
whose names are one line keeps it and gives an operand whose names are one line, by induction
over the tree.
-/

namespace Isel.Tree

open Isel.Text (OneLine)

/-- The names a node hands to selection: the callee of a call, the local an assignment
writes, the field a field access names. -/
def Expr.ownNames : Expr → List String
  | .node (.call callee _ _ _) _ _ | .node (.delegatingCall callee _) _ _ => [callee.name]
  | .node (.assign _ name _) _ _ => [name]
  | .node (.getField field _) _ _ | .node (.setField field _ _) _ _ => [field.name]
  | _ => []

def Expr.Named (xs : List Expr) : Prop := ∀ x ∈ xs, ∀ n ∈ x.ownNames, OneLine n

@[simp] theorem Expr.named_cons {x : Expr} {xs : List Expr} :
    Expr.Named (x :: xs) ↔ (∀ n ∈ x.ownNames, OneLine n) ∧ Expr.Named xs :=
  List.forall_mem_cons

@[simp] theorem Expr.named_append {xs ys : List Expr} :
    Expr.Named (xs ++ ys) ↔ Expr.Named xs ∧ Expr.Named ys :=
  List.forall_mem_append

/-- The names a declaration hands to selection: a class's name and its fields', a function's
name, its parameters' and those of its body, a field's name and those of its initializer. -/
def Decl.names : Decl → List String
  | .klass c _ => c.name :: c.layout.fields.map (·.1)
  | .function f => f.name :: f.params.map (·.name) ++
      ((f.body.map Body.nodes).getD []).flatMap Expr.ownNames
  | .field f => f.name :: ((f.init.map Expr.nodes).getD []).flatMap Expr.ownNames

def Module.names (m : Module) : List String := (Decl.flatten m.decls).flatMap Decl.names

end Isel.Tree

namespace Isel.Lower

open Isel.Text (OneLine)
open Isel.Graph (Operand Instr Var Block Function Program Klass)
open Isel.Tree (Expr ExprKind Arm Catch VarargElem Decl)

def Context.Named (ctx : Context) : Prop := ∀ d ∈ ctx.decls, ∀ n ∈ d.names, OneLine n

/-- What selection has written prints line by line: the program, and the operands bound to
locals, which it may write later. -/
structure Clean (s : State) : Prop where
  program : s.program.Printable
  env : ∀ e ∈ s.env, e.2.Printable

end Isel.Lower

namespace Isel.Graph

open Isel.Text (OneLine)

/-! ## Printable pieces -/

section Pieces

variable {f : Function}

theorem Function.Printable.addBlock (hf : f.Printable) {l : String} (hl : OneLine l) :
    (f.addBlock l).Printable := by
  refine ⟨hf.name, hf.params, fun b hb => ?_, fun b hb => ?_⟩
  all_goals
    rcases List.mem_append.1 hb with hb | hb
  · exact hf.labels b hb
  · rw [List.mem_singleton.1 hb]
    exact hl
  · exact hf.instrs b hb
  · rw [List.mem_singleton.1 hb]
    simp

@[simp] theorem Operand.printable_var {v : Var} : (Operand.var v).Printable ↔ OneLine v.name :=
  List.forall_mem_singleton

theorem Operand.printable_null : Operand.null.Printable := fun _ h => absurd h List.not_mem_nil

theorem Operand.printable_unit : Operand.unit.Printable := fun _ h => absurd h List.not_mem_nil

theorem Operand.forall_mem_listNames : ∀ {os : List Operand},
    (∀ n ∈ Operand.listNames os, OneLine n) ↔ ∀ o ∈ os, o.Printable := by
  intro os
  induction os with
  | nil => simp [Operand.listNames]
  | cons o os ih =>
    rw [Operand.listNames, List.forall_mem_append, List.forall_mem_cons, ih]
    rfl

theorem Operand.printable_result {r : Option Var} (hr : ∀ d ∈ r, OneLine d.name) :
    ((r.map Operand.var).getD .unit).Printable := by
  cases r with
  | none => exact Operand.printable_unit
  | some d => exact Operand.printable_var.2 (hr d rfl)

theorem Operand.printable_getD {os : List Operand} (h : ∀ o ∈ os, o.Printable) (i : Nat) :
    (os.getD i .unit).Printable := by
  rw [List.getD_eq_getElem?_getD]
  cases ho : os[i]? with
  | none => exact Operand.printable_unit
  | some o => exact h o (List.mem_of_getElem? ho)

private theorem forall_mem_modify {α : Type} {P : α → Prop} {l : List α} {i : Nat}
    {g : α → α} (hl : ∀ x ∈ l, P x) (hg : ∀ x, P x → P (g x)) : ∀ y ∈ l.modify i g, P y := by
  intro y hy
  obtain ⟨j, hj⟩ := List.mem_iff_getElem?.1 hy
  rw [List.getElem?_modify] at hj
  obtain ⟨x, hx, rfl⟩ := Option.map_eq_some_iff.1 hj
  split
  · exact hg x (hl x (List.mem_of_getElem? hx))
  · exact hl x (List.mem_of_getElem? hx)

theorem Function.Printable.pushAt (hf : f.Printable) {k : Nat} {i : Instr} (hi : i.Printable) :
    (f.pushAt k i).Printable := by
  refine ⟨hf.name, hf.params, forall_mem_modify hf.labels fun b hb => hb, ?_⟩
  refine forall_mem_modify hf.instrs fun b hb ins hins => ?_
  rcases List.mem_append.1 hins with hins | hins
  · exact hb ins hins
  · rw [List.mem_singleton.1 hins]
    exact hi

theorem Function.printable_bodyless {nm : String} {ps : List Var} {rt : Ty} (hn : OneLine nm)
    (hps : ∀ v ∈ ps, OneLine v.name) : (Function.mk nm ps rt [] Span.dummy 0).Printable :=
  ⟨hn, hps, fun _ h => absurd h List.not_mem_nil, fun _ h => absurd h List.not_mem_nil⟩

theorem Function.Printable.default : (default : Function).Printable :=
  ⟨by decide, fun _ h => absurd h List.not_mem_nil, fun _ h => absurd h List.not_mem_nil,
    fun _ h => absurd h List.not_mem_nil⟩

end Pieces

end Isel.Graph

namespace Isel.Lower

open Isel.Text (OneLine oneLine_append)
open Isel.Graph (Operand Instr Var Block Function Program Klass)
open Isel.Tree (Expr ExprKind Arm Catch VarargElem Decl)

/-! ## States -/

namespace Clean

variable {s t : State}

theorem of_eq (h : Clean s) (hp : t.program = s.program) (he : t.env = s.env) : Clean t :=
  ⟨hp ▸ h.program, he ▸ h.env⟩

theorem fn (h : Clean s) (j : Nat) : (s.fn j).Printable := by
  simp only [State.fn, List.getD_eq_getElem?_getD]
  cases hj : s.program.functions[j]? with
  | none => exact Function.Printable.default
  | some f => exact h.program.functions f (List.mem_of_getElem? hj)

theorem curFn (h : Clean s) : s.curFn.Printable := h.fn _

theorem mapFn (h : Clean s) {g : Function → Function} (hg : ∀ f, f.Printable → (g f).Printable)
    (i : Nat) : Clean (s.mapFn i g) :=
  ⟨⟨Graph.forall_mem_modify h.program.functions hg, h.program.klasses⟩, h.env⟩

theorem extend (h : Clean s) {fs : List Function} {ks : List Klass} {tf tk : List (Tree.DefId × Nat)}
    (hfs : ∀ f ∈ fs, f.Printable) (hks : ∀ k ∈ ks, k.Printable) : Clean (s.extend fs ks tf tk) := by
  refine ⟨⟨fun f hf => ?_, fun k hk => ?_⟩, h.env⟩
  · rcases List.mem_append.1 hf with hf | hf
    · exact h.program.functions f hf
    · exact hfs f hf
  · rcases List.mem_append.1 hk with hk | hk
    · exact h.program.klasses k hk
    · exact hks k hk

theorem bindAll (h : Clean s) {es : List (Tree.LocalId × Operand)} (hes : ∀ e ∈ es, e.2.Printable) :
    Clean { s with env := es ++ s.env } := by
  refine ⟨h.program, fun e he => ?_⟩
  rcases List.mem_append.1 he with he | he
  · exact hes e he
  · exact h.env e he

theorem bind (h : Clean s) {l : Tree.LocalId} {o : Operand} (ho : o.Printable) :
    Clean { s with env := (l, o) :: s.env } := by
  refine ⟨h.program, fun e he => ?_⟩
  rcases List.mem_cons.1 he with rfl | he
  · exact ho
  · exact h.env e he

theorem moveTo (h : Clean s) (b : Nat) : Clean (s.moveTo b) := h.of_eq rfl rfl

theorem warn (h : Clean s) (code : Code) (message : String) (span : Span) :
    Clean (s.warn code message span) :=
  h.of_eq rfl rfl

theorem withLoops (h : Clean s) (loops : List LoopFrame) : Clean { s with loops } := h.of_eq rfl rfl

theorem withLanding (h : Clean s) (landing : Option Nat) : Clean { s with landing } :=
  h.of_eq rfl rfl

theorem restore (h : Clean s) (cursor : Cursor) (landing : Option Nat) :
    Clean { s with cursor, landing } :=
  h.of_eq rfl rfl

theorem lookup (h : Clean s) {l : Tree.LocalId} {o : Operand} (hl : s.env.lookup l = some o) :
    o.Printable := by
  obtain ⟨l₁, l₂, he, -⟩ := List.lookup_eq_some_iff.1 hl
  exact h.env (l, o) (he ▸ List.mem_append_right _ List.mem_cons_self)

theorem addBlock (h : Clean s) {l : String} (hl : OneLine l) : Clean (s.addBlock l) :=
  h.mapFn (fun _ hf => hf.addBlock hl) _

theorem push (h : Clean s) {i : Instr} (hi : i.Printable) : Clean (s.push i) :=
  h.mapFn (fun _ hf => hf.pushAt hi) _

theorem reopen (h : Clean s) : Clean s.reopen := by
  unfold State.reopen
  split
  · exact (h.addBlock (by decide)).of_eq rfl rfl
  · exact h

end Clean

/-! ## What the context names -/

namespace Context

variable {ctx : Context}

theorem decl?_mem {id : Tree.DefId} {d : Decl} (h : ctx.decl? id = some d) : d ∈ ctx.decls :=
  List.mem_of_find?_eq_some h

theorem classInfo?_mem {id : Tree.DefId} {c : Tree.ClassInfo} (h : ctx.classInfo? id = some c) :
    ∃ members, Decl.klass c members ∈ ctx.decls := by
  unfold classInfo? at h
  split at h
  · cases h
    exact ⟨_, decl?_mem ‹_›⟩
  · cases h

theorem functionDecl?_mem {id : Tree.DefId} {d : Tree.FunctionDecl}
    (h : ctx.functionDecl? id = some d) : Decl.function d ∈ ctx.decls := by
  unfold functionDecl? at h
  split at h
  · cases h
    exact decl?_mem ‹_›
  · cases h

theorem oneLine_display (id : Tree.DefId) : OneLine id.display := by
  simp +decide [Tree.DefId.display]

theorem Named.className (hctx : ctx.Named) (id : Tree.DefId) : OneLine (ctx.className id) := by
  unfold Context.className
  cases hc : ctx.classInfo? id with
  | none => exact oneLine_display id
  | some c =>
    obtain ⟨members, hm⟩ := classInfo?_mem hc
    exact hctx _ hm c.name (by simp [Decl.names])

theorem Named.klassOf (hctx : ctx.Named) (id : Tree.DefId) : (ctx.klassOf id).Printable := by
  unfold Context.klassOf
  cases hc : ctx.classInfo? id with
  | none => exact ⟨oneLine_display id, fun _ h => absurd h List.not_mem_nil⟩
  | some c =>
    obtain ⟨members, hm⟩ := classInfo?_mem hc
    refine ⟨hctx _ hm c.name (by simp [Decl.names]), fun fd hfd => ?_⟩
    exact hctx _ hm fd.1 (by simp only [Decl.names, List.mem_cons, List.mem_map]; exact .inr ⟨fd, hfd, rfl⟩)

theorem Named.functionName (hctx : ctx.Named) {id : Tree.DefId} {d : Tree.FunctionDecl}
    (hd : ctx.functionDecl? id = some d) : OneLine (ctx.functionName d) := by
  unfold Context.functionName
  split
  · simpa +decide using hctx.className _
  · exact hctx _ (functionDecl?_mem hd) d.name (by simp [Decl.names])

theorem Named.params (hctx : ctx.Named) {id : Tree.DefId} {d : Tree.FunctionDecl}
    (hd : ctx.functionDecl? id = some d) : ∀ p ∈ d.params, OneLine p.name := by
  intro p hp
  refine hctx _ (functionDecl?_mem hd) p.name ?_
  simp only [Decl.names, List.mem_cons, List.mem_append, List.mem_map]
  exact .inl (.inr ⟨p, hp, rfl⟩)

end Context

/-! ## The primitives -/

section Primitives

variable {ctx : Context} {s s' : State}

theorem newBlock_clean {l : String} {b : Nat} (hs : Clean s) (hl : OneLine l)
    (h : newBlock l ctx s = .ok (b, s')) : Clean s' := by
  obtain ⟨-, rfl, rfl⟩ := newBlock_ok h
  exact hs.addBlock hl

theorem freshVar_clean {ty : Graph.Ty} {x : Var} (hs : Clean s) (h : freshVar ty ctx s = .ok (x, s')) :
    Clean s' ∧ OneLine x.name := by
  obtain ⟨-, rfl, rfl⟩ := freshVar_ok h
  exact ⟨hs.mapFn (g := Function.bump) (fun _ hf => ⟨hf.name, hf.params, hf.labels, hf.instrs⟩) _,
    by simp +decide⟩

theorem Instr.printable_result {i : Instr} (hi : i.Printable) :
    ((i.dst?.map Operand.var).getD .unit).Printable :=
  Operand.printable_result fun _ hd => hi _ (Graph.Instr.name_mem_names hd)

theorem emit_clean {i : Instr} {u : Operand} (hs : Clean s) (h : emit i ctx s = .ok (u, s'))
    (hi : i.Printable) : Clean s' ∧ u.Printable := by
  obtain ⟨-, rfl, rfl⟩ := emit_ok h
  exact ⟨hs.reopen.push hi, Instr.printable_result hi⟩

theorem jumpIfOpen_clean {b : Nat} (hs : Clean s) (h : jumpIfOpen b ctx s = .ok ((), s')) :
    Clean s' := by
  obtain ⟨-, rfl⟩ := jumpIfOpen_ok h
  split
  · exact hs
  · exact hs.push fun n hn => by simp [Graph.Instr.names] at hn

theorem klassId_clean (hctx : ctx.Named) {cls : Tree.DefId} {k : Nat} (hs : Clean s)
    (h : klassId cls ctx s = .ok (k, s')) : Clean s' := by
  rw [klassId_run] at h
  split at h
  · cases h
    exact hs
  · cases h
    exact hs.extend (fun _ h => absurd h List.not_mem_nil) fun k hk => by
      rw [List.mem_singleton.1 hk]
      exact hctx.klassOf cls

theorem lowerType_clean (hctx : ctx.Named) {t : Tree.Ty} {t' : Graph.Ty} (hs : Clean s)
    (h : lowerType t ctx s = .ok (t', s')) : Clean s' := by
  cases t
  case classRef c =>
    simp only [lowerType, map_run] at h
    split at h
    · cases h
      exact klassId_clean hctx hs ‹_›
    · cases h
  all_goals exact (pure_ok h).2 ▸ hs

theorem mapM_clean {γ δ : Type} {f : γ → LowerM δ} {Q : δ → Prop} :
    ∀ {xs : List γ}, (∀ x ∈ xs, ∀ {t t' : State} {y : δ}, Clean t → f x ctx t = .ok (y, t') →
      Clean t' ∧ Q y) →
    ∀ {s s' : State} {ys : List δ}, Clean s → xs.mapM f ctx s = .ok (ys, s') →
      Clean s' ∧ ∀ y ∈ ys, Q y
  | [], _, s, s', ys, hs, h => by
    obtain ⟨rfl, rfl⟩ := pure_ok h
    exact ⟨hs, fun _ h => absurd h List.not_mem_nil⟩
  | x :: xs, hf, s, s', ys, hs, h => by
    rw [List.mapM_cons] at h
    obtain ⟨y, s₁, h₁, h⟩ := bind_ok h
    obtain ⟨ys', s₂, h₂, h⟩ := bind_ok h
    obtain ⟨rfl, rfl⟩ := pure_ok h
    obtain ⟨c₁, q₁⟩ := hf x List.mem_cons_self hs h₁
    obtain ⟨c₂, q₂⟩ := mapM_clean (fun x hx => hf x (List.mem_cons_of_mem _ hx)) c₁ h₂
    exact ⟨c₂, fun z hz => (List.mem_cons.1 hz).elim (fun e => e ▸ q₁) (q₂ z)⟩

theorem declaredFunction_clean (hctx : ctx.Named) {id : Tree.DefId} {name : String}
    {argTys : List Graph.Ty} {ret : Graph.Ty} {fn : Nat} (hn : OneLine name) (hs : Clean s)
    (h : declaredFunction id name argTys ret ctx s = .ok (fn, s')) : Clean s' := by
  unfold declaredFunction at h
  simp only [bind_run, get_run] at h
  cases hf : s.functions.lookup id with
  | some f =>
    rw [hf] at h
    exact (pure_ok h).2 ▸ hs
  | none =>
    rw [hf] at h
    obtain ⟨o, s₁, h₁, h⟩ := bind_ok h
    rw [functionDecl?_run] at h₁
    cases h₁
    have new : ∀ {t : State} {g : Function}, Clean t → g.Printable →
        Clean (t.extend [g] [] [(id, t.program.functions.length)] []) := fun ht hg =>
      ht.extend (fun f hf => List.mem_singleton.1 hf ▸ hg) fun _ h => absurd h List.not_mem_nil
    generalize hd : ctx.functionDecl? id = o at h
    cases o with
    | none =>
      obtain ⟨rfl, rfl⟩ := addFunction_enter h
      refine new hs (Function.printable_bodyless hn fun v hv => ?_)
      obtain ⟨⟨t, i⟩, -, rfl⟩ := List.mem_map.1 hv
      simp +decide
    | some d =>
      obtain ⟨nm, s₃, h₃, h⟩ := bind_ok h
      rw [functionName_run] at h₃
      cases h₃
      obtain ⟨ps, s₄, h₄, h⟩ := bind_ok h
      obtain ⟨rt, s₅, h₅, h⟩ := bind_ok h
      obtain ⟨rfl, rfl⟩ := addFunction_enter h
      -- each parameter keeps its declared name, its type registering classes
      obtain ⟨c₄, q₄⟩ := mapM_clean (Q := fun v : Var => OneLine v.name) (fun p hp t t' y ht hy => by
          obtain ⟨ty, t₁, hty, hy⟩ := bind_ok hy
          obtain ⟨rfl, rfl⟩ := pure_ok hy
          exact ⟨lowerType_clean hctx ht hty, hctx.params hd p hp⟩) hs h₄
      exact new (lowerType_clean hctx c₄ h₅) (Function.printable_bodyless (hctx.functionName hd) q₄)

theorem calleeFor_clean (hctx : ctx.Named) {callee : Tree.Callee} {args : List Operand}
    {ret : Graph.Ty} {fn : Nat} (hn : OneLine callee.name) (hs : Clean s)
    (h : calleeFor callee args ret ctx s = .ok (fn, s')) : Clean s' :=
  declaredFunction_clean hctx hn hs h

/-! An instruction prints when its destination's name and its operands' names are one line:
`List.forall_mem_cons` and `List.forall_mem_append` split `Instr.names` as it is defined. -/

theorem finishArm_clean {a : Operand} {result : Option Var} {exit : Nat} (hs : Clean s)
    (ha : a.Printable) (hr : ∀ d ∈ result, OneLine d.name)
    (h : finishArm a result exit ctx s = .ok ((), s')) : Clean s' := by
  rcases finishArm_steps h with ⟨-, rfl⟩ | ⟨-, s₁, u, h₁, h₂⟩
  · exact hs
  · have c₁ : Clean s₁ := by
      rcases h₁ with ⟨-, rfl⟩ | ⟨r, u₀, rfl, h₁⟩
      · exact hs
      · exact (emit_clean hs h₁ (List.forall_mem_cons.2 ⟨hr r rfl, ha⟩)).1
    exact (emit_clean c₁ h₂ (fun _ h => absurd h List.not_mem_nil)).1

theorem generateCall_clean {callee : Nat} {ret : Graph.Ty} {args : List Operand} {v : Operand}
    (hs : Clean s) (hargs : ∀ o ∈ args, o.Printable)
    (h : generateCall callee ret args ctx s = .ok (v, s')) : Clean s' ∧ v.Printable := by
  obtain ⟨dst, s₁, hd, rfl, hc⟩ := generateCall_steps h
  obtain ⟨c₁, q₁⟩ : Clean s₁ ∧ ∀ d ∈ dst, OneLine d.name := by
    rcases hd with ⟨-, rfl, rfl⟩ | ⟨-, d, hf, rfl⟩
    · exact ⟨hs, fun _ h => absurd h (Option.not_mem_none _)⟩
    · obtain ⟨c, q⟩ := freshVar_clean hs hf
      exact ⟨c, fun _ h => Option.mem_some_iff.1 h ▸ q⟩
  -- the call, or an invoke continuing in a fresh block: the same names either way
  have hi : ∀ d ∈ dst.toList.map (·.name) ++ Operand.listNames args, OneLine d := by
    refine List.forall_mem_append.2 ⟨fun n hn => ?_, Operand.forall_mem_listNames.2 hargs⟩
    obtain ⟨d, hd, rfl⟩ := List.mem_map.1 hn
    exact q₁ d (Option.mem_toList.1 hd)
  refine ⟨?_, Operand.printable_result q₁⟩
  rcases hc with ⟨-, u, he⟩ | ⟨l, normal, s₂, u, s₃, -, hn, he, rfl⟩
  · exact (emit_clean c₁ he hi).1
  · exact ((emit_clean (newBlock_clean c₁ (by decide) hn) he hi).1).moveTo normal

theorem resultVar_clean (hctx : ctx.Named) {ty : Tree.Ty} {r : Option Var} (hs : Clean s)
    (h : resultVar ty ctx s = .ok (r, s')) : Clean s' ∧ ∀ d ∈ r, OneLine d.name := by
  rcases resultVar_steps h with ⟨-, rfl, rfl⟩ | ⟨-, -, t, s₁, d, h₁, h₂, rfl⟩
  · exact ⟨hs, fun _ h => absurd h (Option.not_mem_none _)⟩
  · obtain ⟨c, q⟩ := freshVar_clean (lowerType_clean hctx hs h₁) h₂
    exact ⟨c, fun _ h => Option.mem_some_iff.1 h ▸ q⟩

theorem coerceInteger_clean (hctx : ctx.Named) {value : Operand} {target : Tree.Ty} {v : Operand}
    (hs : Clean s) (hv : value.Printable) (h : coerceInteger value target ctx s = .ok (v, s')) :
    Clean s' ∧ v.Printable := by
  rcases coerceInteger_steps h with ⟨-, rfl, rfl⟩ | ⟨-, t, s₁, h₁, ⟨-, rfl, rfl⟩ | ⟨-, dst, s₂, h₂, h₃⟩⟩
  · exact ⟨hs, hv⟩
  · exact ⟨lowerType_clean hctx hs h₁, hv⟩
  · obtain ⟨c₂, q₂⟩ := freshVar_clean (lowerType_clean hctx hs h₁) h₂
    refine emit_clean c₂ h₃ ?_
    split <;> exact List.forall_mem_cons.2 ⟨q₂, hv⟩

theorem applyIntrinsic_clean (hctx : ctx.Named) {intr : Intrinsic} {name : String}
    {args : List Operand} {ty span} {v : Operand} (hs : Clean s) (hargs : ∀ o ∈ args, o.Printable)
    (h : applyIntrinsic intr name args ty span ctx s = .ok (v, s')) : Clean s' ∧ v.Printable := by
  have arg := Operand.printable_getD hargs
  rcases applyIntrinsic_steps h with ⟨rfl, rfl | rfl | rfl | rfl⟩ | ⟨t, dst, s₁, h₁, h₂⟩ |
    ⟨t, s₁, p, s₂, u, s₃, dst, s₄, h₁, h₂, h₃, h₄, h₅⟩ | ⟨p, s₁, u, s₂, u', h₁, h₂, h₃, rfl⟩ |
    ⟨t, s₁, h₁, ⟨-, rfl, rfl⟩ | ⟨dst, s₂, h₂, h₃⟩⟩
  · exact ⟨hs, Operand.printable_unit⟩
  · exact ⟨hs, arg 0⟩
  · exact ⟨hs, fun _ h => absurd h List.not_mem_nil⟩
  · exact ⟨hs, fun _ h => absurd h List.not_mem_nil⟩
  · obtain ⟨c₁, q₁⟩ := freshVar_clean hs h₁
    refine emit_clean c₁ h₂ ?_
    split <;> exact List.forall_mem_cons.2 ⟨q₁, List.forall_mem_append.2 ⟨arg 0, arg 1⟩⟩
  · obtain ⟨c₂, q₂⟩ := freshVar_clean (lowerType_clean hctx hs h₁) h₂
    obtain ⟨c₃, -⟩ := emit_clean c₂ h₃ (List.forall_mem_cons.2 ⟨q₂, arg 1⟩)
    obtain ⟨c₄, q₄⟩ := freshVar_clean c₃ h₄
    exact emit_clean c₄ h₅ (List.forall_mem_cons.2 ⟨q₄, Operand.printable_var.2 q₂⟩)
  · obtain ⟨c₁, q₁⟩ := freshVar_clean hs h₁
    obtain ⟨c₂, -⟩ := emit_clean c₁ h₂ (List.forall_mem_cons.2 ⟨q₁, arg 1⟩)
    exact ⟨(emit_clean c₂ h₃ (List.forall_mem_append.2 ⟨arg 2, Operand.printable_var.2 q₁⟩)).1,
      Operand.printable_unit⟩
  · exact ⟨lowerType_clean hctx hs h₁, arg 0⟩
  · obtain ⟨c₂, q₂⟩ := freshVar_clean (lowerType_clean hctx hs h₁) h₂
    exact emit_clean c₂ h₃ (List.forall_mem_cons.2 ⟨q₂, arg 0⟩)

theorem fieldOffset_clean (hctx : ctx.Named) {field : Tree.FieldRef} {receiverTy : Tree.Ty} {span}
    {off : Nat} (hs : Clean s) (h : fieldOffset field receiverTy span ctx s = .ok (off, s')) :
    Clean s' := by
  obtain ⟨cls, k, -, hk, -⟩ := fieldOffset_steps h
  exact klassId_clean hctx hs hk

theorem objectValue_clean (hctx : ctx.Named) {cls : Tree.DefId} {span} {v : Operand}
    (hs : Clean s) (h : objectValue cls span ctx s = .ok (v, s')) : Clean s' ∧ v.Printable := by
  rcases objectValue_steps h with ⟨rfl, rfl⟩ |
    ⟨k, s₁, inst, s₂, u₁, s₃, ok, s₄, u₂, s₅, cont, s₆, init, s₇, u₃, s₈, u₄, s₉,
      h₁, h₂, h₃, h₄, h₅, h₆, h₇, h₈, h₉, rfl, rfl⟩
  · exact ⟨hs, Operand.printable_unit⟩
  · have hsym : (Operand.symbol (ctx.className cls ++ ".instance")).Printable :=
      List.forall_mem_singleton.2 (oneLine_append.2 ⟨hctx.className cls, by decide⟩)
    obtain ⟨c₂, q₂⟩ := freshVar_clean (klassId_clean hctx hs h₁) h₂
    obtain ⟨c₃, -⟩ := emit_clean c₂ h₃ (List.forall_mem_cons.2 ⟨q₂, hsym⟩)
    obtain ⟨c₄, q₄⟩ := freshVar_clean c₃ h₄
    obtain ⟨c₅, -⟩ := emit_clean c₄ h₅ (List.forall_mem_cons.2
      ⟨q₄, List.forall_mem_append.2 ⟨Operand.printable_var.2 q₂, Operand.printable_null⟩⟩)
    have c₇ := newBlock_clean (newBlock_clean c₅ (by decide) h₆) (by decide) h₇
    obtain ⟨c₈, -⟩ := emit_clean c₇ h₈ (Operand.printable_var.2 q₄)
    obtain ⟨c₉, -⟩ := emit_clean ((c₈.moveTo init).warn _ _ _) h₉
      (fun _ h => absurd h List.not_mem_nil)
    exact ⟨c₉.moveTo cont, Operand.printable_var.2 q₂⟩

end Primitives

theorem literalOperand_printable (l : Tree.Literal) : (literalOperand l).Printable := by
  cases l <;> exact fun _ h => absurd h List.not_mem_nil

/-! ## Every lowering

By induction over the tree, as `lowerExpr_keeps`: each construct lowers its children into
clean states, and what it writes around them is made of fresh variables, labels, and the names
its own node hands over. -/

section Lowering

variable {ctx : Context}

mutual

theorem lowerExpr_clean (hctx : ctx.Named) : ∀ (e : Expr) {s s' : State} {v : Operand},
    Clean s → Expr.Named e.nodes → lowerExpr e ctx s = .ok (v, s') → Clean s' ∧ v.Printable
  | .node k ty span, _, _, _, hs, hn, h => by
    obtain ⟨hown, hk⟩ := Expr.named_cons.1 hn
    exact lowerKind_clean hctx k ty span hs hown hk (by rwa [lowerExpr_node] at h)

theorem lowerKind_clean (hctx : ctx.Named) : ∀ (k : ExprKind) (ty : Tree.Ty) (span : Span)
    {s s' : State} {v : Operand}, Clean s → (∀ n ∈ (Expr.node k ty span).ownNames, OneLine n) →
    Expr.Named k.nodes → lowerKind k ty span ctx s = .ok (v, s') → Clean s' ∧ v.Printable
  | .literal l, ty, span, s, s', v, hs, _, _, h => by
    obtain ⟨rfl, rfl⟩ := literal_steps h
    exact ⟨hs, literalOperand_printable l⟩
  | .typeOp op arg operand, ty, span, s, s', v, hs, _, hk, h => by
    cases op with
    | cast | safeCast =>
      obtain ⟨a, s₁, t, s₂, dst, s₃, h₁, h₂, h₃, h₄⟩ := cast_steps (by simp) h
      obtain ⟨c₁, q₁⟩ := lowerExpr_clean hctx arg hs hk h₁
      obtain ⟨c₃, q₃⟩ := freshVar_clean (lowerType_clean hctx c₁ h₂) h₃
      exact emit_clean c₃ h₄ (List.forall_mem_cons.2 ⟨q₃, q₁⟩)
    | implicitCast => exact lowerExpr_clean hctx arg hs hk (implicitCast_steps h)
    | implicitNotNull =>
      obtain ⟨a, s₁, h₁, rfl, rfl⟩ := implicitNotNull_steps h
      exact ⟨(lowerExpr_clean hctx arg hs hk h₁).1.warn _ _ _, Operand.printable_null⟩
    | coercionToUnit =>
      obtain ⟨a, h₁, rfl⟩ := coercionToUnit_steps h
      exact ⟨(lowerExpr_clean hctx arg hs hk h₁).1, Operand.printable_unit⟩
    | integerCoercion =>
      obtain ⟨a, s₁, -, h₁, h₂⟩ := integerCoercion_steps h
      obtain ⟨c₁, q₁⟩ := lowerExpr_clean hctx arg hs hk h₁
      exact coerceInteger_clean hctx c₁ q₁ h₂
    | instanceOf | notInstanceOf =>
      obtain ⟨a, s₁, t, s₂, dst, s₃, h₁, h₂, h₃, h₄⟩ := typeTest_steps (by simp) h
      obtain ⟨c₁, q₁⟩ := lowerExpr_clean hctx arg hs hk h₁
      obtain ⟨c₃, q₃⟩ := freshVar_clean (lowerType_clean hctx c₁ h₂) h₃
      exact emit_clean c₃ h₄ (List.forall_mem_cons.2 ⟨q₃, q₁⟩)
  | .call callee dispatch extension args, ty, span, s, s', v, hs, hown, hk, h => by
    have hc : OneLine callee.name := hown _ (List.mem_singleton_self _)
    simp only [ExprKind.nodes, Expr.named_append] at hk
    obtain ⟨⟨nd, nx⟩, na⟩ := hk
    -- Every shape lowers the receivers and the arguments in the same order.
    have ops : ∀ {s₀ d s₁ e s₂ a s₃}, Clean s₀ → lowerOpt dispatch ctx s₀ = .ok (d, s₁) →
        lowerOpt extension ctx s₁ = .ok (e, s₂) → lowerList args ctx s₂ = .ok (a, s₃) →
        Clean s₃ ∧ ∀ o ∈ d.toList ++ e.toList ++ a, o.Printable := fun c₀ h₁ h₂ h₃ => by
      obtain ⟨c₁, q₁⟩ := lowerOpt_clean hctx dispatch c₀ nd h₁
      obtain ⟨c₂, q₂⟩ := lowerOpt_clean hctx extension c₁ nx h₂
      obtain ⟨c₃, q₃⟩ := lowerList_clean hctx args c₂ na h₃
      refine ⟨c₃, fun o ho => ?_⟩
      rcases List.mem_append.1 ho with ho | ho
      · rcases List.mem_append.1 ho with ho | ho
        · exact q₁ o (Option.mem_toList.1 ho)
        · exact q₂ o (Option.mem_toList.1 ho)
      · exact q₃ o ho
    cases hsh : CallShape.of callee dispatch extension args with
    | intrinsic =>
      obtain ⟨intr, d, s₁, e, s₂, a, s₃, -, h₁, h₂, h₃, h₄⟩ := intrinsicCall_steps hsh h
      obtain ⟨c₃, q₃⟩ := ops hs h₁ h₂ h₃
      exact applyIntrinsic_clean hctx c₃ q₃ h₄
    | arithmetic op =>
      obtain ⟨d, s₁, e, s₂, a, s₃, t, s₄, dst, s₅, h₁, h₂, h₃, h₄, h₅, h₆⟩ :=
        arithmeticCall_steps hsh h
      obtain ⟨c₃, q₃⟩ := ops hs h₁ h₂ h₃
      obtain ⟨c₅, q₅⟩ := freshVar_clean (lowerType_clean hctx c₃ h₄) h₅
      exact emit_clean c₅ h₆ (List.forall_mem_cons.2 ⟨q₅, List.forall_mem_append.2
        ⟨Operand.printable_getD q₃ 0, Operand.printable_getD q₃ 1⟩⟩)
    | construct cls =>
      obtain ⟨k, s₁, obj, s₂, u, s₃, d, s₄, e, s₅, a, s₆, fn, s₇, r,
        h₁, h₂, h₃, h₄, h₅, h₆, h₇, h₈, rfl⟩ := constructCall_steps hsh h
      obtain ⟨c₂, q₂⟩ := freshVar_clean (klassId_clean hctx hs h₁) h₂
      obtain ⟨c₃, -⟩ := emit_clean c₂ h₃ (Operand.printable_var.2 q₂)
      obtain ⟨c₆, q₆⟩ := ops c₃ h₄ h₅ h₆
      have q : ∀ o ∈ Operand.var obj :: (d.toList ++ e.toList ++ a), o.Printable :=
        List.forall_mem_cons.2 ⟨Operand.printable_var.2 q₂, q₆⟩
      exact ⟨(generateCall_clean (calleeFor_clean hctx hc c₆ h₇) q h₈).1,
        Operand.printable_var.2 q₂⟩
    | plain =>
      obtain ⟨d, s₁, e, s₂, a, s₃, ret, s₄, fn, s₅, h₁, h₂, h₃, h₄, h₅, h₆⟩ :=
        plainCall_steps hsh h
      obtain ⟨c₃, q₃⟩ := ops hs h₁ h₂ h₃
      exact generateCall_clean (calleeFor_clean hctx hc (lowerType_clean hctx c₃ h₄) h₅) q₃ h₆
  | .delegatingCall callee args, ty, span, s, s', v, hs, hown, hk, h => by
    obtain ⟨receiver, a, s₁, fn, s₂, hr, h₁, h₂, h₃⟩ := delegatingCall_steps h
    obtain ⟨c₁, q₁⟩ := lowerList_clean hctx args hs hk h₁
    -- the receiver is the current function's first parameter
    have q : ∀ o ∈ Operand.var receiver :: a, o.Printable := List.forall_mem_cons.2
      ⟨Operand.printable_var.2 (hs.curFn.params receiver (List.mem_of_mem_head? hr)), q₁⟩
    exact generateCall_clean (calleeFor_clean hctx (hown _ (List.mem_singleton_self _)) c₁ h₂) q h₃
  | .instanceInit cls, ty, span, s, s', v, hs, _, _, h => by
    obtain ⟨rfl, rfl⟩ := instanceInit_steps h
    exact ⟨hs, Operand.printable_unit⟩
  | .block stmts, ty, span, s, s', v, hs, _, hk, h => lowerBlock_clean hctx stmts hs hk (block_steps h)
  | .whileLoop loop cond body, ty, span, s, s', v, hs, _, hk, h => by
    simp only [ExprKind.nodes, Expr.named_append] at hk
    obtain ⟨check, s₁, bodyB, s₂, exit, s₃, u₁, s₄, c, s₅, u₂, s₆, b, s₇, s₈,
      h₁, h₂, h₃, h₄, h₅, h₆, h₇, h₈, rfl, rfl⟩ := whileLoop_steps h
    have c₃ := newBlock_clean (newBlock_clean (newBlock_clean hs (by decide) h₁) (by decide) h₂)
      (by decide) h₃
    obtain ⟨c₄, -⟩ := emit_clean c₃ h₄ (fun _ h => absurd h List.not_mem_nil)
    obtain ⟨c₅, q₅⟩ := lowerExpr_clean hctx cond (c₄.moveTo check) hk.1 h₅
    obtain ⟨c₆, -⟩ := emit_clean c₅ h₆ q₅
    obtain ⟨c₇, -⟩ := lowerOpt_clean hctx body ((c₆.withLoops _).moveTo bodyB) hk.2 h₇
    exact ⟨((jumpIfOpen_clean c₇ h₈).withLoops _).moveTo exit, Operand.printable_unit⟩
  | .doWhile loop cond body, ty, span, s, s', v, hs, _, hk, h => by
    simp only [ExprKind.nodes, Expr.named_append] at hk
    obtain ⟨check, s₁, bodyB, s₂, exit, s₃, u₁, s₄, b, s₅, s₆, c, s₇, u₂, s₈,
      h₁, h₂, h₃, h₄, h₅, h₆, h₇, h₈, rfl, rfl⟩ := doWhile_steps h
    have c₃ := newBlock_clean (newBlock_clean (newBlock_clean hs (by decide) h₁) (by decide) h₂)
      (by decide) h₃
    obtain ⟨c₄, -⟩ := emit_clean c₃ h₄ (fun _ h => absurd h List.not_mem_nil)
    obtain ⟨c₅, -⟩ := lowerOpt_clean hctx body ((c₄.withLoops _).moveTo bodyB) hk.2 h₅
    obtain ⟨c₇, q₇⟩ := lowerExpr_clean hctx cond ((jumpIfOpen_clean c₅ h₆).moveTo check) hk.1 h₇
    obtain ⟨c₈, -⟩ := emit_clean c₇ h₈ q₇
    exact ⟨(c₈.withLoops _).moveTo exit, Operand.printable_unit⟩
  | .breakLoop loop, ty, span, s, s', v, hs, _, _, h => by
    obtain ⟨fr, u, -, h₂, rfl⟩ := breakLoop_steps h
    exact ⟨(emit_clean hs h₂ fun _ h => absurd h List.not_mem_nil).1, Operand.printable_unit⟩
  | .continueLoop loop, ty, span, s, s', v, hs, _, _, h => by
    obtain ⟨fr, u, -, h₂, rfl⟩ := continueLoop_steps h
    exact ⟨(emit_clean hs h₂ fun _ h => absurd h List.not_mem_nil).1, Operand.printable_unit⟩
  | .ret target value, ty, span, s, s', v, hs, _, hk, h => by
    obtain ⟨a, s₁, u, h₁, h₂, hv⟩ := ret_steps h
    obtain ⟨c₁, q₁⟩ := lowerExpr_clean hctx value hs hk h₁
    refine ⟨(emit_clean c₁ h₂ q₁).1, ?_⟩
    rcases hv with rfl | rfl
    · exact Operand.printable_unit
    · exact q₁
  | .whenArms arms, ty, span, s, s', v, hs, _, hk, h => by
    obtain ⟨result, s₁, exit, s₂, s₃, s₄, h₁, h₂, h₃, h₄, h₅, rfl, rfl⟩ := whenArms_steps h
    obtain ⟨c₁, q₁⟩ := resultVar_clean hctx hs h₁
    have c₃ := lowerArms_clean hctx arms q₁ (newBlock_clean c₁ (by decide) h₂) hk h₃
    have c₄ : Clean s₄ := by
      by_cases hb : s₃.cursor.block = exit
      · rwa [h₅ hb]
      · exact jumpIfOpen_clean c₃ (h₄ hb)
    exact ⟨c₄.moveTo exit, Operand.printable_result q₁⟩
  | .declare var name varTy init, ty, span, s, s', v, hs, _, hk, h => by
    obtain ⟨o, s₁, h₁, rfl, rfl⟩ := declare_steps h
    obtain ⟨c₁, q₁⟩ := lowerOpt_clean hctx init hs hk h₁
    have ho : (o.getD .null).Printable := by
      cases o with
      | none => exact Operand.printable_null
      | some a => exact q₁ a rfl
    exact ⟨c₁.bind ho, Operand.printable_unit⟩
  | .assign var name value, ty, span, s, s', v, hs, hown, hk, h => by
    obtain ⟨a, s₁, u, s₂, h₁, h₂, rfl, rfl⟩ := assign_steps h
    -- the local's slot is named as the node names it
    have hname : OneLine name := hown _ (List.mem_singleton_self _)
    obtain ⟨c₁, q₁⟩ := lowerExpr_clean hctx value hs hk h₁
    obtain ⟨c₂, -⟩ := emit_clean c₁ h₂ (List.forall_mem_cons.2 ⟨hname, q₁⟩)
    exact ⟨c₂.bind (Operand.printable_var.2 hname), Operand.printable_unit⟩
  | .read var name, ty, span, s, s', v, hs, _, _, h => by
    rcases read_steps h with ⟨hl, rfl⟩ | ⟨-, rfl, rfl⟩
    · exact ⟨hs, hs.lookup hl⟩
    · exact ⟨hs.warn _ _ _, Operand.printable_unit⟩
  | .vararg elems, ty, span, s, s', v, hs, _, hk, h => by
    obtain ⟨vs, s₁, t, h₁, h₂, rfl⟩ := vararg_steps h
    obtain ⟨c₁, q₁⟩ := lowerVararg_clean hctx elems hs hk h₁
    exact ⟨lowerType_clean hctx c₁ h₂, Operand.forall_mem_listNames.2 q₁⟩
  | .throw value, ty, span, s, s', v, hs, _, hk, h => by
    obtain ⟨a, s₁, h₁, rfl, rfl⟩ := throw_steps h
    exact ⟨(lowerExpr_clean hctx value hs hk h₁).1.warn _ _ _, Operand.printable_null⟩
  | .tryCatch body catches, ty, span, s, s', v, hs, _, hk, h => by
    simp only [ExprKind.nodes, Expr.named_append] at hk
    obtain ⟨result, s₁, exit, s₂, s₃, b, s₄, s₅, h₁, h₂, h₃, h₄, h₅, rfl, rfl⟩ := tryCatch_steps h
    obtain ⟨c₁, q₁⟩ := resultVar_clean hctx hs h₁
    have c₂ := newBlock_clean c₁ (by decide) h₂
    have c₃ : Clean s₃ := by
      rcases h₃ with ⟨-, rfl⟩ | ⟨-, header, s₆, exn, s₇, u, s₈, s₉, h₆, h₇, h₈, h₉, rfl⟩
      · exact c₂
      · -- the handlers see their parameters bound to the landing pad's exception
        obtain ⟨c₇, q₇⟩ := freshVar_clean ((newBlock_clean c₂ (by decide) h₆).moveTo header) h₇
        obtain ⟨c₈, -⟩ := emit_clean c₇ h₈ (Operand.printable_var.2 q₇)
        have hes : ∀ e ∈ (catches.map fun c => (c.param, Operand.var exn)).reverse, e.2.Printable := by
          intro e he
          obtain ⟨c, -, rfl⟩ := List.mem_map.1 (List.mem_reverse.1 he)
          exact Operand.printable_var.2 q₇
        exact (lowerHandlers_clean hctx catches (Operand.printable_var.2 q₇) q₁ (c₈.bindAll hes)
          hk.2 h₉).restore _ _
    obtain ⟨c₄, q₄⟩ := lowerExpr_clean hctx body c₃ hk.1 h₄
    exact ⟨((finishArm_clean c₄ q₄ q₁ h₅).withLanding _).moveTo exit, Operand.printable_result q₁⟩
  | .getField field none, ty, span, s, s', v, hs, hown, _, h => by
    obtain ⟨address, offset, s₁, t, s₂, dst, s₃, hr, h₂, h₃, h₄⟩ := getField_steps h
    obtain ⟨-, rfl, -, rfl⟩ | ⟨r, s₀, hr, -⟩ := hr
    · -- a global field is addressed by its name
      obtain ⟨c₃, q₃⟩ := freshVar_clean (lowerType_clean hctx hs h₂) h₃
      exact emit_clean c₃ h₄
        (List.forall_mem_cons.2 ⟨q₃, List.forall_mem_singleton.2 (hown _ (List.mem_singleton_self _))⟩)
    · cases hr
  | .getField field (some r), ty, span, s, s', v, hs, _, hk, h => by
    obtain ⟨address, offset, s₁, t, s₂, dst, s₃, hr, h₂, h₃, h₄⟩ := getField_steps h
    obtain ⟨hr, -⟩ | ⟨r', s₀, hr, h₀, h₁⟩ := hr
    · cases hr
    · cases hr
      obtain ⟨c₁, q₁⟩ := lowerExpr_clean hctx r (fieldOffset_clean hctx hs h₀) hk h₁
      obtain ⟨c₃, q₃⟩ := freshVar_clean (lowerType_clean hctx c₁ h₂) h₃
      exact emit_clean c₃ h₄ (List.forall_mem_cons.2 ⟨q₃, q₁⟩)
  | .setField field none value, ty, span, s, s', v, hs, hown, hk, h => by
    obtain ⟨address, offset, s₁, a, s₂, u, hr, h₂, h₃, rfl⟩ := setField_steps h
    obtain ⟨-, rfl, -, rfl⟩ | ⟨r, s₀, hr, -⟩ := hr
    · obtain ⟨c₂, q₂⟩ := lowerExpr_clean hctx value hs hk h₂
      exact ⟨(emit_clean c₂ h₃ (List.forall_mem_append.2
        ⟨q₂, List.forall_mem_singleton.2 (hown _ (List.mem_singleton_self _))⟩)).1,
        Operand.printable_unit⟩
    · cases hr
  | .setField field (some r) value, ty, span, s, s', v, hs, _, hk, h => by
    simp only [ExprKind.nodes, Expr.named_append] at hk
    obtain ⟨address, offset, s₁, a, s₂, u, hr, h₂, h₃, rfl⟩ := setField_steps h
    obtain ⟨hr, -⟩ | ⟨r', s₀, hr, h₀, h₁⟩ := hr
    · cases hr
    · cases hr
      obtain ⟨c₁, q₁⟩ := lowerExpr_clean hctx r (fieldOffset_clean hctx hs h₀) hk.1 h₁
      obtain ⟨c₂, q₂⟩ := lowerExpr_clean hctx value c₁ hk.2 h₂
      exact ⟨(emit_clean c₂ h₃ (List.forall_mem_append.2 ⟨q₂, q₁⟩)).1, Operand.printable_unit⟩
  | .objectValue cls, ty, span, s, s', v, hs, _, _, h => objectValue_clean hctx hs (objectValue_steps' h)
  | .stringConcat args, ty, span, s, s', v, hs, _, _, h => by
    obtain ⟨what, h⟩ := unsupported_steps (.inl ⟨args, rfl⟩) h
    rw [unsupportedNode_run] at h; cases h
    exact ⟨hs.warn _ _ _, Operand.printable_null⟩
  | .classReference cls, ty, span, s, s', v, hs, _, _, h => by
    obtain ⟨what, h⟩ := unsupported_steps (.inr (.inl ⟨cls, rfl⟩)) h
    rw [unsupportedNode_run] at h; cases h
    exact ⟨hs.warn _ _ _, Operand.printable_null⟩
  | .functionReference fn, ty, span, s, s', v, hs, _, _, h => by
    obtain ⟨what, h⟩ := unsupported_steps (.inr (.inr (.inl ⟨fn, rfl⟩))) h
    rw [unsupportedNode_run] at h; cases h
    exact ⟨hs.warn _ _ _, Operand.printable_null⟩
  | .enumEntry cls name, ty, span, s, s', v, hs, _, _, h => by
    obtain ⟨what, h⟩ := unsupported_steps (.inr (.inr (.inr ⟨cls, name, rfl⟩))) h
    rw [unsupportedNode_run] at h; cases h
    exact ⟨hs.warn _ _ _, Operand.printable_null⟩

theorem lowerOpt_clean (hctx : ctx.Named) : ∀ (e : Option Expr) {s s' : State} {o : Option Operand},
    Clean s → Expr.Named (Expr.optNodes e) → lowerOpt e ctx s = .ok (o, s') →
      Clean s' ∧ ∀ a ∈ o, a.Printable
  | none, s, s', o, hs, _, h => by
    obtain ⟨rfl, rfl⟩ := lowerOpt_none_steps h
    exact ⟨hs, fun _ h => absurd h (Option.not_mem_none _)⟩
  | some e, s, s', o, hs, hn, h => by
    obtain ⟨a, h₁, rfl⟩ := lowerOpt_some_steps h
    obtain ⟨c₁, q₁⟩ := lowerExpr_clean hctx e hs hn h₁
    exact ⟨c₁, fun _ h => Option.mem_some_iff.1 h ▸ q₁⟩

theorem lowerList_clean (hctx : ctx.Named) : ∀ (es : List Expr) {s s' : State} {vs : List Operand},
    Clean s → Expr.Named (Expr.listNodes es) → lowerList es ctx s = .ok (vs, s') →
      Clean s' ∧ ∀ a ∈ vs, a.Printable
  | [], s, s', vs, hs, _, h => by
    obtain ⟨rfl, rfl⟩ := lowerList_nil_steps h
    exact ⟨hs, fun _ h => absurd h List.not_mem_nil⟩
  | e :: es, s, s', vs, hs, hn, h => by
    obtain ⟨ne, nes⟩ := Expr.named_append.1 hn
    obtain ⟨a, s₁, as, h₁, h₂, rfl⟩ := lowerList_cons_steps h
    obtain ⟨c₁, q₁⟩ := lowerExpr_clean hctx e hs ne h₁
    obtain ⟨c₂, q₂⟩ := lowerList_clean hctx es c₁ nes h₂
    exact ⟨c₂, List.forall_mem_cons.2 ⟨q₁, q₂⟩⟩

theorem lowerBlock_clean (hctx : ctx.Named) : ∀ (es : List Expr) {s s' : State} {v : Operand},
    Clean s → Expr.Named (Expr.listNodes es) → lowerBlock es ctx s = .ok (v, s') →
      Clean s' ∧ v.Printable
  | [], s, s', v, hs, _, h => by
    obtain ⟨rfl, rfl⟩ := lowerBlock_nil_steps h
    exact ⟨hs, Operand.printable_unit⟩
  | [e], s, s', v, hs, hn, h =>
    lowerExpr_clean hctx e hs (Expr.named_append.1 hn).1 (by rwa [lowerBlock_single] at h)
  | e :: e' :: es, s, s', v, hs, hn, h => by
    obtain ⟨ne, nes⟩ := Expr.named_append.1 hn
    obtain ⟨a, s₁, h₁, h₂⟩ := lowerBlock_cons_steps h
    exact lowerBlock_clean hctx (e' :: es) (lowerExpr_clean hctx e hs ne h₁).1 nes h₂

theorem lowerArms_clean (hctx : ctx.Named) : ∀ (arms : List Arm) {result : Option Var} {exit : Nat}
    {s s' : State}, (∀ d ∈ result, OneLine d.name) → Clean s → Expr.Named (Arm.listNodes arms) →
      lowerArms arms result exit ctx s = .ok ((), s') → Clean s'
  | [], result, exit, s, s', _, hs, _, h => by
    rwa [lowerArms_nil_steps h]
  | .mk cond res :: rest, result, exit, s, s', hr, hs, hn, h => by
    simp only [Arm.listNodes, Expr.named_append] at hn
    obtain ⟨⟨ncond, nres⟩, nrest⟩ := hn
    cases hc : cond.isTrueLiteral with
    | true =>
      obtain ⟨a, s₁, h₁, h₂⟩ := lowerArms_true_steps hc h
      obtain ⟨c₁, q₁⟩ := lowerExpr_clean hctx res hs nres h₁
      exact finishArm_clean c₁ q₁ hr h₂
    | false =>
      obtain ⟨c, s₁, arm, s₂, next, s₃, u, s₄, a, s₅, s₆, h₁, h₂, h₃, h₄, h₅, h₆, h₇⟩ :=
        lowerArms_test_steps hc h
      obtain ⟨c₁, q₁⟩ := lowerExpr_clean hctx cond hs ncond h₁
      have c₂ := newBlock_clean c₁ (by decide) h₂
      have c₃ : Clean s₃ := by
        rcases h₃ with ⟨-, -, rfl⟩ | ⟨-, h₃⟩
        · exact c₂
        · exact newBlock_clean c₂ (by decide) h₃
      obtain ⟨c₄, -⟩ := emit_clean c₃ h₄ q₁
      obtain ⟨c₅, q₅⟩ := lowerExpr_clean hctx res (c₄.moveTo arm) nres h₅
      exact lowerArms_clean hctx rest hr ((finishArm_clean c₅ q₅ hr h₆).moveTo next) nrest h₇

theorem lowerHandlers_clean (hctx : ctx.Named) : ∀ (cs : List Catch) {exn : Operand}
    {result : Option Var} {exit : Nat} {s s' : State}, exn.Printable →
      (∀ d ∈ result, OneLine d.name) → Clean s → Expr.Named (Catch.listNodes cs) →
      lowerHandlers cs exn result exit ctx s = .ok ((), s') → Clean s'
  | [], exn, result, exit, s, s', _, _, hs, _, h => by
    rwa [lowerHandlers_nil_steps h]
  | [.mk param name ty res], exn, result, exit, s, s', _, hr, hs, hn, h => by
    obtain ⟨a, s₁, h₁, h₂⟩ := lowerHandlers_last_steps h
    obtain ⟨c₁, q₁⟩ := lowerExpr_clean hctx res hs (Expr.named_append.1 hn).1 h₁
    exact finishArm_clean c₁ q₁ hr h₂
  | .mk param name ty res :: c' :: rest, exn, result, exit, s, s', hexn, hr, hs, hn, h => by
    obtain ⟨nres, nrest⟩ := Expr.named_append.1 hn
    obtain ⟨t, s₁, caught, s₂, u₁, s₃, body, s₄, next, s₅, u₂, s₆, a, s₇, s₈,
      h₁, h₂, h₃, h₄, h₅, h₆, h₇, h₈, h₉⟩ := lowerHandlers_test_steps h
    obtain ⟨c₂, q₂⟩ := freshVar_clean (lowerType_clean hctx hs h₁) h₂
    obtain ⟨c₃, -⟩ := emit_clean c₂ h₃ (List.forall_mem_cons.2 ⟨q₂, hexn⟩)
    have c₅ := newBlock_clean (newBlock_clean c₃ (by decide) h₄) (by decide) h₅
    obtain ⟨c₆, -⟩ := emit_clean c₅ h₆ (Operand.printable_var.2 q₂)
    obtain ⟨c₇, q₇⟩ := lowerExpr_clean hctx res (c₆.moveTo body) nres h₇
    exact lowerHandlers_clean hctx (c' :: rest) hexn hr ((finishArm_clean c₇ q₇ hr h₈).moveTo next)
      nrest h₉

theorem lowerVararg_clean (hctx : ctx.Named) : ∀ (elems : List VarargElem) {s s' : State}
    {vs : List Operand}, Clean s → Expr.Named (VarargElem.listNodes elems) →
      lowerVararg elems ctx s = .ok (vs, s') → Clean s' ∧ ∀ a ∈ vs, a.Printable
  | [], s, s', vs, hs, _, h => by
    obtain ⟨rfl, rfl⟩ := lowerVararg_nil_steps h
    exact ⟨hs, fun _ h => absurd h List.not_mem_nil⟩
  | .value e :: rest, s, s', vs, hs, hn, h => by
    obtain ⟨ne, nrest⟩ := Expr.named_append.1 hn
    obtain ⟨a, s₁, as, h₁, h₂, rfl⟩ := lowerVararg_value_steps h
    obtain ⟨c₁, q₁⟩ := lowerExpr_clean hctx e hs ne h₁
    obtain ⟨c₂, q₂⟩ := lowerVararg_clean hctx rest c₁ nrest h₂
    exact ⟨c₂, List.forall_mem_cons.2 ⟨q₁, q₂⟩⟩
  | .spread e :: rest, s, s', vs, hs, hn, h => (lowerVararg_spread h).elim

end

end Lowering

/-! ## Declarations -/

section Declarations

variable {ctx : Context} {s s' : State}

theorem Expr.Named.of_mem : ∀ {es : List Expr}, Expr.Named (Expr.listNodes es) →
    ∀ {e : Expr}, e ∈ es → Expr.Named e.nodes
  | [], _, _, he => absurd he List.not_mem_nil
  | e' :: es, hn, e, he => by
    obtain ⟨h₁, h₂⟩ := Expr.named_append.1 hn
    rcases List.mem_cons.1 he with rfl | he
    · exact h₁
    · exact Expr.Named.of_mem h₂ he

theorem Decl.named_body {d : Tree.FunctionDecl} {body : Tree.Body}
    (hd : ∀ n ∈ (Decl.function d).names, OneLine n) (hb : d.body = some body) :
    Expr.Named body.nodes := by
  intro x hx n hn
  refine hd n (List.mem_append_right _ ?_)
  simp only [hb, Option.map_some, Option.getD_some]
  exact List.mem_flatMap.2 ⟨x, hx, hn⟩

theorem Clean.enterBody (h : Clean s) (fn : Nat) (d : Tree.FunctionDecl) :
    Clean (s.enterBody fn d) := by
  have ht : Clean ((s.mapFn fn (·.addBlock "entry")).mapFn fn fun f => { f with span := d.span }) :=
    (h.mapFn (g := (·.addBlock "entry")) (fun _ hf => hf.addBlock (by decide)) fn).mapFn
      (g := fun f => { f with span := d.span }) (fun _ hf => ⟨hf.name, hf.params, hf.labels, hf.instrs⟩) fn
  refine ⟨ht.program, fun e he => ?_⟩
  obtain ⟨pv, hpv, rfl⟩ := List.mem_map.1 (List.mem_reverse.1 he)
  exact Operand.printable_var.2 ((ht.fn fn).params pv.2 (List.of_mem_zip hpv).2)

theorem BodyRun.clean (hctx : ctx.Named) {b : Tree.Body} {v : Operand}
    (hb : BodyRun ctx b s v s') (hs : Clean s) (hn : Expr.Named b.nodes) : Clean s' ∧ v.Printable := by
  cases hb with
  | expression h => exact lowerExpr_clean hctx _ hs hn h
  | block g hg h =>
    refine ⟨forM_inv (I := Clean) (fun e he t t' u ht hge => ?_) hs h, Operand.printable_unit⟩
    obtain ⟨w, hw⟩ := hg e t t' u hge
    exact (lowerExpr_clean hctx e ht (Expr.Named.of_mem hn he) hw).1

theorem selectFunction_clean (hctx : ctx.Named) {d : Tree.FunctionDecl}
    (hd : ∀ n ∈ (Decl.function d).names, OneLine n) (hs : Clean s)
    (h : selectFunction d ctx s = .ok ((), s')) : Clean s' := by
  have hname : OneLine d.name := hd _ (List.mem_append_left _ List.mem_cons_self)
  rcases selectFunction_steps h with ⟨-, rfl⟩ |
    ⟨-, fn, s₁, h₁, ⟨-, rfl⟩ | ⟨body, v, s₂, s₃, hb, hrun, h₃, rfl⟩⟩
  · exact hs
  · exact declaredFunction_clean hctx hname hs h₁
  · obtain ⟨c₂, q₂⟩ := hrun.clean hctx ((declaredFunction_clean hctx hname hs h₁).enterBody fn d)
      (Decl.named_body hd hb)
    have c₃ : Clean s₃ := by
      rcases h₃ with ⟨-, rfl⟩ | ⟨-, u, he⟩
      · exact c₂
      · refine (emit_clean c₂ he ?_).1
        split
        · exact Operand.printable_unit
        · exact q₂
    exact c₃.of_eq rfl rfl

theorem visitField_clean (hctx : ctx.Named) {f : Tree.FieldDecl}
    (hf : ∀ n ∈ (Decl.field f).names, OneLine n) (hs : Clean s)
    (h : visitField f ctx s = .ok ((), s')) : Clean s' := by
  rcases visitField_steps h with ⟨-, rfl⟩ | ⟨init, v, s₁, u, s₂, hi, -, h₁, h₂, rfl⟩
  · exact hs
  · have hn : Expr.Named init.nodes := fun x hx n hn => hf n (List.mem_cons_of_mem _ (by
      simp only [hi, Option.map_some, Option.getD_some]
      exact List.mem_flatMap.2 ⟨x, hx, hn⟩))
    have c₀ : Clean { s with env := [], landing := none, current := none, cursor := s.globalCursor } :=
      ⟨hs.program, fun _ h => absurd h List.not_mem_nil⟩
    obtain ⟨c₁, q₁⟩ := lowerExpr_clean hctx init c₀ hn h₁
    obtain ⟨c₂, -⟩ := emit_clean c₁ h₂
      (List.forall_mem_append.2 ⟨q₁, List.forall_mem_singleton.2 (hf _ List.mem_cons_self)⟩)
    exact ⟨c₂.program, hs.env⟩

mutual

theorem visitDecl_clean (hctx : ctx.Named) : ∀ (d : Decl) {s s' : State}, Clean s →
    (∀ x ∈ d.flattenOne, ∀ n ∈ x.names, OneLine n) → visitDecl d ctx s = .ok ((), s') → Clean s'
  | .klass c members, s, s', hs, hn, h => by
    obtain ⟨k, s₁, h₁, h₂⟩ := visitDecl_klass_steps h
    exact visitDecls_clean hctx members (klassId_clean hctx hs h₁)
      (fun x hx => hn x (List.mem_cons_of_mem _ hx)) h₂
  | .function f, s, s', hs, hn, h =>
    selectFunction_clean hctx (hn _ List.mem_cons_self) hs (by rwa [visitDecl_function] at h)
  | .field f, s, s', hs, hn, h =>
    visitField_clean hctx (hn _ List.mem_cons_self) hs (by rwa [visitDecl_field] at h)

theorem visitDecls_clean (hctx : ctx.Named) : ∀ (ds : List Decl) {s s' : State}, Clean s →
    (∀ x ∈ Decl.flatten ds, ∀ n ∈ x.names, OneLine n) → visitDecls ds ctx s = .ok ((), s') →
      Clean s'
  | [], s, s', hs, _, h => by
    rwa [visitDecls_nil_steps h]
  | d :: ds, s, s', hs, hn, h => by
    obtain ⟨s₁, h₁, h₂⟩ := visitDecls_cons_steps h
    exact visitDecls_clean hctx ds
      (visitDecl_clean hctx d hs (fun x hx => hn x (List.mem_append_left _ hx)) h₁)
      (fun x hx => hn x (List.mem_append_right _ hx)) h₂

end

theorem finishGlobalInit_clean (hs : Clean s) (h : finishGlobalInit ctx s = .ok ((), s')) :
    Clean s' := by
  have hg : Clean { s with cursor := s.globalCursor } := hs.of_eq rfl rfl
  rcases finishGlobalInit_steps h with ⟨-, rfl⟩ | ⟨-, u, he⟩
  · exact hg
  · exact (emit_clean hg he Operand.printable_unit).1

theorem Clean.start {name : String} (hn : OneLine name) : Clean (State.start name) := by
  refine ⟨⟨fun f hf => ?_, fun _ h => absurd h List.not_mem_nil⟩, fun _ h => absurd h List.not_mem_nil⟩
  rw [List.mem_singleton.1 hf]
  refine ⟨hn, fun _ h => absurd h List.not_mem_nil, fun b hb => ?_, fun b hb i hi => ?_⟩
  · rw [List.mem_singleton.1 hb]
    decide
  · rw [List.mem_singleton.1 hb] at hi
    exact absurd hi List.not_mem_nil

end Declarations

theorem selectModule_printable {m : Tree.Module} {cfg : Config} {sel : Selection}
    (h : selectModule m cfg = .ok sel) (hg : OneLine cfg.globalInitName)
    (hm : ∀ n ∈ m.names, OneLine n) : sel.program.Printable := by
  obtain ⟨s₁, s, h₁, h₂, rfl⟩ := selectModule_steps h
  have hds : ∀ x ∈ Decl.flatten m.decls, ∀ n ∈ x.names, OneLine n := fun x hx n hn =>
    hm n (List.mem_flatMap.2 ⟨x, hx, hn⟩)
  have hctx : (moduleContext m cfg).Named := fun x hx => hds x (List.mem_reverse.1 hx)
  exact (finishGlobalInit_clean (visitDecls_clean hctx m.decls (Clean.start hg) hds h₁) h₂).program

/-- The listing of a selected program, split at its line feeds, is the lines `Program.lines`
lists and nothing after the last: one line per class, an empty line after the classes if there
are any, and per function its `declare` line, or its head, for each block its name and one line
per instruction, and its closing brace, with an empty line between two functions. So it has one
line feed per line. -/
theorem selection_listing_lines {m : Tree.Module} {cfg : Config} {sel : Selection}
    (h : selectModule m cfg = .ok sel) (hg : OneLine cfg.globalInitName)
    (hm : ∀ n ∈ m.names, OneLine n) :
    sel.program.listing.toList.splitOn '\n' = sel.program.lines.map String.toList ++ [[]] ∧
      sel.program.listing.toList.count '\n' = sel.program.klasses.length +
        (if sel.program.klasses = [] then 0 else 1) +
        (sel.program.functions.map fun f => 1 + if f.blocks = [] then 0 else
          1 + (f.blocks.map fun b => 1 + b.instrs.length).sum).sum +
        (sel.program.functions.length - 1) := by
  have hp := selectModule_printable h hg hm
  refine ⟨hp.splitOn_listing, ?_⟩
  rw [hp.count_newlines, Program.length_lines]

/-- A class `Point` with fields `x` and `y`, a global `origins` set to zero, and `getX`, which
reads the field `x` of its parameter. -/
def pointModule : Tree.Module :=
  let sp : Span := ⟨0, 0, 1, 1⟩
  let p : Expr := .node (.read ⟨0⟩ "p") (.classRef ⟨0⟩) sp
  ⟨"points", [.klass ⟨⟨0⟩, "Point", ⟨[("x", 0), ("y", 4)], 8⟩, false, sp⟩ [],
    .field ⟨⟨1⟩, "origins", .int, none, some (.node (.literal (.int 0)) .int sp), sp⟩,
    .function ⟨⟨2⟩, "getX", [⟨⟨0⟩, "p", .classRef ⟨0⟩⟩], .int,
      some (.expression (.node (.getField ⟨⟨3⟩, "x"⟩ (some p)) .int sp)), .defined, false, none, sp⟩]⟩

theorem pointModule_listing_lines : OneLine ({} : Config).globalInitName ∧
    (∀ n ∈ pointModule.names, OneLine n) ∧ ∃ sel, selectModule pointModule {} = .ok sel ∧
      sel.program.listing.toList.splitOn '\n' = sel.program.lines.map String.toList ++ [[]] ∧
      sel.program.listing.toList.count '\n' = sel.program.klasses.length +
        (if sel.program.klasses = [] then 0 else 1) +
        (sel.program.functions.map fun f => 1 + if f.blocks = [] then 0 else
          1 + (f.blocks.map fun b => 1 + b.instrs.length).sum).sum +
        (sel.program.functions.length - 1) := by
  have hg : OneLine ({} : Config).globalInitName := by decide
  have hm : ∀ n ∈ pointModule.names, OneLine n := by decide
  have hok : (selectModule pointModule {}).isOk = true := by decide +kernel
  cases h : selectModule pointModule {} with
  | error e =>
    rw [h] at hok
    cases hok
  | ok sel => exact ⟨hg, hm, sel, rfl, selection_listing_lines h hg hm⟩

end Isel.Lower
