import Isel.Proofs.Defined
import Isel.Proofs.Closed
import Isel.Proofs.LockstepVisits

/-! # Selected functions define before use

`lowerExpr_defines` carries a certificate of the function being built through the lowering of
one scoped tree. Here it is carried through a whole module: between two declarations every
function of the program has a certificate (`Certifies`). A body starts in a fresh entry block
that lists nothing, with its parameters bound to the function's parameter variables; a field
initializer goes on at the end of the global initializer with no local bound; registering adds
functions without blocks.

So in every function of a selected program every variable an instruction reads is a parameter
or defined earlier on every path to it, except the variables named after locals that
assignments write. Those are not: an assignment writes the variable of its local, and a later
read of the local reads that variable on every path, whether the assignment ran or not
(`unsetSlot_reads_unset`).
-/

namespace Isel.Graph.Function

variable {f : Function} {exempt : Var → Prop}

theorem Certificate.of_empty (h : ∀ blk ∈ f.blocks, blk.instrs = []) :
    f.Certificate exempt fun _ => [] := by
  refine ⟨rfl, fun b blk hb k i hi => ?_, fun b blk hb t ht => ?_⟩
  · simp [h blk (List.mem_of_getElem? hb)] at hi
  · simp [Block.successors, h blk (List.mem_of_getElem? hb)] at ht

end Isel.Graph.Function

namespace Isel.Lower

open Isel.Graph (Operand Var)
open Isel.Tree (Expr FunctionDecl FieldDecl Decl Module Body LocalId)

/-- Every function of the program has a certificate in which the variables named in `names`
are exempt. -/
def Certifies (names : List String) (s : State) : Prop :=
  ∀ j, ∃ A, (s.fn j).Certificate (fun v => v.name ∈ names) A

section Certifies

variable {names : List String} {ctx : Context} {Δ : List LocalId} {A : Nat → List Var}
  {s s' t : State}

namespace Certifies

theorem start (name : String) : Certifies names (State.start name) := fun j =>
  ⟨_, .of_empty fun blk hblk => by
    cases j with
    | zero => simp_all [State.fn, State.start, Program.start]
    | succ j => exact absurd hblk List.not_mem_nil⟩

/-- Changing one function keeps the certificates of the others. -/
theorem update (hc : Certifies names s) {k : Nat}
    (hb : ∀ j, j ≠ k → (t.fn j).blocks = (s.fn j).blocks)
    (hp : ∀ j, j ≠ k → j < s.program.functions.length → (t.fn j).params = (s.fn j).params)
    (hcur : ∃ A, (t.fn k).Certificate (fun v => v.name ∈ names) A) : Certifies names t := by
  intro j
  by_cases hj : j = k
  · exact hj ▸ hcur
  · by_cases hl : j < s.program.functions.length
    · obtain ⟨A, hA⟩ := hc j
      exact ⟨A, hA.congr (hb j hj) (hp j hj hl)⟩
    · -- a function past those there were has no blocks
      refine ⟨_, .of_empty fun blk hblk => ?_⟩
      rw [hb j hj, State.blocks_fn_of_le (Nat.le_of_not_lt hl)] at hblk
      exact absurd hblk List.not_mem_nil

theorem keeps (hc : Certifies names s) (hk : Keeps s t)
    (hcur : t.curFn.Certificate (fun v => v.name ∈ names) A) : Certifies names t :=
  hc.update hk.others (fun j _ hl => hk.params j hl) ⟨A, by rw [← hk.fn]; exact hcur⟩

theorem registers (hc : Certifies names s) (h : Registers s t) : Certifies names t := by
  obtain ⟨fs, ks, tf, tk, hfs, -, rfl⟩ := h
  intro j
  by_cases hl : j < s.program.functions.length
  · rw [State.fn_extend_of_lt hl]
    exact hc j
  · refine ⟨_, .of_empty fun blk hblk => ?_⟩
    rw [State.blocks_fn_extend hfs, State.blocks_fn_of_le (Nat.le_of_not_lt hl)] at hblk
    exact absurd hblk List.not_mem_nil

end Certifies

/-- With no loop open and no landing block, a certificate of the cursor's function is all
`Avail` asks besides the bindings of the locals in scope. -/
theorem Avail.of_certificate
    (hcur : s.cursor.fn < s.program.functions.length ∧ s.cursor.block < s.curFn.blocks.length)
    (hA : s.curFn.Certificate (fun v => v.name ∈ names) A) (hl : s.loops = [])
    (hd : s.landing = none) (he : ∀ l ∈ Δ, ∀ o, s.env.lookup l = some o → Covered names s A o) :
    Avail names Δ A s :=
  ⟨⟨hcur, hA, by simp [hl], by simp [hd]⟩, by simp [hl], by simp [hd], he⟩

/-- At the end of the global initializer nothing is in scope. -/
theorem Ready.avail (hr : Ready s) (hc : Certifies names s) (t : State) (hp : t.program = s.program)
    (hcur : t.cursor = s.globalCursor) (hl : t.loops = s.loops) (hd : t.landing = none) :
    ∃ A, Avail names [] A t := by
  obtain ⟨A, hA⟩ := hc s.globalCursor.fn
  have hfn : t.curFn = s.fn s.globalCursor.fn := by
    simp only [State.curFn, State.fn, hp, hcur]
  refine ⟨A, .of_certificate ⟨?_, ?_⟩ (hfn ▸ hA) (hl.trans hr.loops) hd
    fun l hl => absurd hl List.not_mem_nil⟩
  · rw [hp, hcur]
    exact hr.global.1
  · rw [hfn, hcur]
    exact hr.global.2

/-- A body starts in a fresh entry block that lists nothing, each local it binds bound to a
parameter of the function. -/
theorem Certifies.enterBody (hc : Certifies names s) {fn : Nat}
    (hfn : fn < s.program.functions.length) (d : FunctionDecl) (Δ : List LocalId) :
    ∃ A, Avail names Δ A (s.enterBody fn d) ∧ Certifies names (s.enterBody fn d) := by
  obtain ⟨A, hA⟩ := hc fn
  have hcert : (s.enterBody fn d).curFn.Certificate (fun v => v.name ∈ names)
      (Function.update A (s.fn fn).blocks.length []) := by
    rw [State.curFn_enterBody hfn]
    exact (hA.addBlock "entry" fun _ => rfl).congr rfl rfl
  have hcur : (s.enterBody fn d).cursor = ⟨fn, (s.fn fn).blocks.length⟩ := rfl
  refine ⟨_, .of_certificate ⟨?_, ?_⟩ hcert rfl rfl fun l _ o ho => ?_,
    hc.update (k := fn) (fun j hj => ?_) (fun j hj _ => ?_)
      ⟨Function.update A (s.fn fn).blocks.length [], ?_⟩⟩
  · rw [hcur, State.length_enterBody]
    exact hfn
  · rw [State.curFn_enterBody hfn, hcur]
    simp [Graph.Function.addBlock_blocks]
  · -- a bound local is bound to a parameter variable
    rw [State.env_enterBody hfn] at ho
    obtain ⟨l₁, l₂, hl, -⟩ := List.lookup_eq_some_iff.1 ho
    have hmem : (l, o) ∈ ((d.params.zip (s.fn fn).params).map
        fun pv => (pv.1.var, Operand.var pv.2)).reverse := by
      rw [hl]
      simp
    obtain ⟨pv, hpv, he⟩ := List.mem_map.1 (List.mem_reverse.1 hmem)
    obtain ⟨-, rfl⟩ := Prod.mk.inj he
    refine Covered.param ?_
    rw [State.curFn_enterBody hfn]
    simpa [Graph.Function.addBlock_params] using (List.of_mem_zip hpv).2
  · rw [State.fn_enterBody hfn, if_neg hj]
  · rw [State.fn_enterBody hfn, if_neg hj]
  · rw [State.fn_enterBody hfn, if_pos rfl, ← State.curFn_enterBody hfn]
    exact hcert

/-! ## Bodies and initializers -/

/-- The statements of a block body: each sees the locals declared before it. -/
theorem forM_defines {g : Expr → LowerM PUnit}
    (hg : ∀ e t t' u, g e ctx t = .ok (u, t') → ∃ w, lowerExpr e ctx t = .ok (w, t')) :
    ∀ (stmts : List Expr) (Δ : List LocalId), Expr.blockScoped Δ stmts = true →
      Regular names (Expr.listNodes stmts) → Defines names (stmts.forM g) (fun _ => []) ctx Δ Δ := by
  intro stmts
  induction stmts with
  | nil =>
    intro Δ _ _ A s s' _ ha h
    cases h
    exact ⟨A, ha, Grows.refl Δ s A, fun o ho => absurd ho List.not_mem_nil⟩
  | cons e es ih =>
    intro Δ hs hr A s s' _ ha h
    rw [Expr.blockScoped, Bool.and_eq_true] at hs
    obtain ⟨u, s₁, h₁, h₂⟩ := bind_ok (x := g e) (f := fun _ => es.forM g) h
    obtain ⟨w, hw⟩ := hg e s s₁ u h₁
    obtain ⟨A₁, a₁, g₁, -⟩ := lowerExpr_defines e Δ hs.1 hr.left ha hw
    obtain ⟨A₂, a₂, g₂, -⟩ := ih (e.declared ++ Δ) hs.2 hr.right a₁ h₂
    exact ⟨A₂, a₂.mono (List.subset_append_right _ _),
      g₁.trans (g₂.mono (List.subset_append_right _ _)), fun o ho => absurd ho List.not_mem_nil⟩

theorem BodyRun.defines {body : Body} {v : Operand} (h : BodyRun ctx body s v s')
    (hs : body.scoped Δ = true) (hr : Regular names body.nodes) (ha : Avail names Δ A s) :
    ∃ A', Avail names Δ A' s' ∧ Grows names Δ s A s' A' ∧ Covered names s' A' v := by
  cases h with
  | expression h =>
    obtain ⟨A', a', g', c'⟩ := Defines.drop (lowerExpr_defines _ Δ hs hr) ha h
    exact ⟨A', a', g', c' v List.mem_cons_self⟩
  | block g hg h =>
    obtain ⟨A', a', g', -⟩ := forM_defines hg _ Δ hs hr ha h
    exact ⟨A', a', g', Covered.of_vars_nil rfl⟩

theorem BodyRun.keeps {body : Body} {v : Operand} (h : BodyRun ctx body s v s') : Keeps s s' := by
  cases h with
  | expression h => exact lowerExpr_keeps _ h
  | block g hg h =>
    refine forM_inv (I := Keeps s) (fun e _ t t' u ht he => ?_) (Keeps.refl s) h
    obtain ⟨w, hw⟩ := hg e t t' u he
    exact ht.trans (lowerExpr_keeps e hw)

/-! ## Declarations -/

theorem selectFunction_certifies {d : FunctionDecl} (hr : Ready s) (hc : Certifies names s)
    (hs : (Decl.function d).scoped = true) (hreg : Regular names (Decl.function d).nodes)
    (h : selectFunction d ctx s = .ok ((), s')) : Certifies names s' := by
  rcases selectFunction_steps h with ⟨-, rfl⟩ |
    ⟨-, fn, s₁, h₁, ⟨-, rfl⟩ | ⟨body, v, s₂, s₃, hb, hrun, hend, rfl⟩⟩
  · exact hc
  · exact hc.registers (declaredFunction_registers h₁).1
  · have hsb : body.scoped (d.params.map (·.var)) = true := by
      simpa [Tree.Decl.scoped, hb] using hs
    have hrb : Regular names body.nodes := by
      simpa [Tree.Decl.nodes, hb] using hreg
    obtain ⟨A₁, a₁, c₁⟩ := (hc.registers (declaredFunction_registers h₁).1).enterBody
      (declaredFunction_lt hr.built h₁) d (d.params.map (·.var))
    obtain ⟨A₂, a₂, -, cv⟩ := hrun.defines hsb hrb a₁
    -- an open block returns the body's value, which is covered
    have n₃ : ∃ A₃, Keeps s₂ s₃ ∧ s₃.curFn.Certificate (fun v => v.name ∈ names) A₃ := by
      rcases hend with ⟨-, rfl⟩ | ⟨-, u, he⟩
      · exact ⟨A₂, Keeps.refl _, a₂.cert⟩
      · obtain ⟨A₃, a₃, -⟩ := emit_avail (i := .ret _) a₂
          (Covered.single (by split; exacts [Covered.of_vars_nil rfl, cv])) Edges.ret he
        exact ⟨A₃, emit_keeps he, a₃.cert⟩
    obtain ⟨A₃, k₃, h₃⟩ := n₃
    have c₃ : Certifies names s₃ := c₁.keeps (hrun.keeps.trans k₃) h₃
    exact c₃

theorem visitField_certifies {f : FieldDecl} (hr : Ready s) (hc : Certifies names s)
    (hs : (Decl.field f).scoped = true) (hreg : Regular names (Decl.field f).nodes)
    (h : visitField f ctx s = .ok ((), s')) : Certifies names s' := by
  rcases visitField_steps h with ⟨-, rfl⟩ | ⟨init, v, s₁, u, s₂, hi, -, h₁, h₂, rfl⟩
  · exact hc
  · have hsi : init.scoped [] = true := by
      simpa [Tree.Decl.scoped, hi] using hs
    have hri : Regular names init.nodes := by
      simpa [Tree.Decl.nodes, hi] using hreg
    -- the initializer goes on at the end of the global initializer, with nothing bound
    have c₀ : Certifies names
        { s with env := [], landing := none, current := none, cursor := s.globalCursor } := hc
    obtain ⟨A₀, a₀⟩ := hr.avail hc
      { s with env := [], landing := none, current := none, cursor := s.globalCursor }
      rfl rfl rfl rfl
    obtain ⟨A₁, a₁, -, c₁⟩ := lowerExpr_defines init [] hsi hri a₀ h₁
    obtain ⟨A₂, a₂, -⟩ := emit_plain_avail (i := .store _ _ _) a₁ rfl
      (Covered.pair (c₁ v List.mem_cons_self) (Covered.of_vars_nil (by rfl))) h₂
    have c₂ : Certifies names s₂ :=
      c₀.keeps ((lowerExpr_keeps init h₁).trans (emit_keeps h₂)) a₂.cert
    exact c₂

/-- What selection asks of the declarations it visits: their trees are scoped and regular. -/
def Lowerable (names : List String) (ds : List Decl) : Prop :=
  ∀ d ∈ ds, d.scoped = true ∧ Regular names d.nodes

mutual

theorem visitDecl_certifies : ∀ (d : Decl) {s s' : State}, Ready s → Certifies names s →
    Lowerable names d.flattenOne → visitDecl d ctx s = .ok ((), s') → Certifies names s'
  | .klass c members, s, s', hr, hc, hd, h => by
    obtain ⟨k, s₁, h₁, h₂⟩ := visitDecl_klass_steps h
    have hreg := (klassId_registers h₁).1
    exact visitDecls_certifies members (hr.registers hreg) (hc.registers hreg)
      (fun d' hd' => hd d' (List.mem_cons_of_mem _ hd')) h₂
  | .function f, s, s', hr, hc, hd, h =>
    selectFunction_certifies hr hc (hd _ List.mem_cons_self).1 (hd _ List.mem_cons_self).2
      (by rwa [visitDecl_function] at h)
  | .field f, s, s', hr, hc, hd, h =>
    visitField_certifies hr hc (hd _ List.mem_cons_self).1 (hd _ List.mem_cons_self).2
      (by rwa [visitDecl_field] at h)

theorem visitDecls_certifies : ∀ (ds : List Decl) {s s' : State}, Ready s → Certifies names s →
    Lowerable names (Decl.flatten ds) → visitDecls ds ctx s = .ok ((), s') → Certifies names s'
  | [], s, s', hr, hc, hd, h => by
    rw [visitDecls_nil_steps h]
    exact hc
  | d :: ds, s, s', hr, hc, hd, h => by
    obtain ⟨s₁, h₁, h₂⟩ := visitDecls_cons_steps h
    exact visitDecls_certifies ds (visitDecl_ready d hr h₁)
      (visitDecl_certifies d hr hc (fun d' hd' => hd d' (List.mem_append_left _ hd')) h₁)
      (fun d' hd' => hd d' (List.mem_append_right _ hd')) h₂

end

theorem finishGlobalInit_certifies (hr : Ready s) (hc : Certifies names s)
    (h : finishGlobalInit ctx s = .ok ((), s')) : Certifies names s' := by
  rcases finishGlobalInit_steps h with ⟨-, rfl⟩ | ⟨-, u, he⟩
  · exact hc
  · have c₀ : Certifies names { s with cursor := s.globalCursor } := hc
    obtain ⟨A, a⟩ := hr.avail hc { s with cursor := s.globalCursor } rfl rfl rfl hr.landing
    obtain ⟨A', a', -⟩ := emit_avail (i := .ret _) a
      (Covered.single (Covered.of_vars_nil (by rfl))) Edges.ret he
    exact c₀.keeps (emit_keeps he) a'.cert

end Certifies

/-! ## Selected programs -/

/-- In a module whose trees are scoped and whose `when`s with a value end in an arm guarded by
`true`, every variable a selected function reads is a parameter, defined before on every path
to the read, or named after a local that an assignment writes. -/
theorem selectModule_definesBeforeUse {m : Module} {cfg : Config} {sel : Selection}
    (h : selectModule m cfg = .ok sel) (hs : m.scoped = true)
    (hw : ∀ x ∈ m.nodes, x.whenTotal = true) :
    ∀ f ∈ sel.program.functions, f.DefinesBeforeUse fun v => v.name ∈ m.assigned := by
  obtain ⟨s₁, s, h₁, h₂, rfl⟩ := selectModule_steps h
  have hd : Lowerable m.assigned (Decl.flatten m.decls) := by
    intro d hd
    refine ⟨List.all_eq_true.1 hs d hd, fun x hx => ⟨hw x (List.mem_flatMap.2 ⟨d, hd, hx⟩),
      fun n hn => List.mem_filterMap.2 ⟨x, List.mem_flatMap.2 ⟨d, hd, hx⟩, hn⟩⟩⟩
  have hc := finishGlobalInit_certifies (visitDecls_ready m.decls (Ready.start _) h₁)
    (visitDecls_certifies m.decls (Ready.start _) (Certifies.start _) hd h₁) h₂
  intro f hf
  obtain ⟨j, hj, rfl⟩ := List.getElem_of_mem hf
  obtain ⟨A, hA⟩ := hc j
  have hfj : s.fn j = s.program.functions[j] := by
    simp [State.fn, List.getD_eq_getElem?_getD, hj]
  exact (hfj ▸ hA).definesBeforeUse

/-- `fun f(c: Boolean): Int { var x = 0; when { c -> x = 1 }; return x }`. -/
def unsetSlot : Tree.Module :=
  let sp : Span := ⟨0, 0, 1, 1⟩
  let c : Expr := .node (.read ⟨0⟩ "c") .boolean sp
  let x : Expr := .node (.read ⟨1⟩ "x") .int sp
  let setX : Expr := .node (.assign ⟨1⟩ "x" (.node (.literal (.int 1)) .int sp)) .unit sp
  ⟨"m", [.function ⟨⟨0⟩, "f", [⟨⟨0⟩, "c", .boolean⟩], .int,
    some (.block [.node (.declare ⟨1⟩ "x" .int (some (.node (.literal (.int 0)) .int sp))) .unit sp,
      .node (.whenArms [.mk c setX]) .unit sp, .node (.ret ⟨0⟩ x) .nothing sp]),
    .defined, false, none, sp⟩]⟩

theorem unsetSlot_defined : ∃ sel, selectModule unsetSlot {} = .ok sel ∧
    ∀ f ∈ sel.program.functions, f.DefinesBeforeUse fun v => v.name ∈ unsetSlot.assigned := by
  have hok : (selectModule unsetSlot {}).isOk = true := by decide +kernel
  cases h : selectModule unsetSlot {} with
  | error e =>
    rw [h] at hok
    cases hok
  | ok sel =>
    exact ⟨sel, rfl, selectModule_definesBeforeUse h (by decide +kernel) (by decide +kernel)⟩

/-- Without the exemption the read of `x` fails: the entry block branches on `c` past the arm to
the exit, which returns `x`, and nothing on that path defines it. -/
theorem unsetSlot_reads_unset : ∃ sel, selectModule unsetSlot {} = .ok sel ∧
    unsetSlot.scoped = true ∧ (∀ x ∈ unsetSlot.nodes, x.whenTotal = true) ∧
    ∃ f ∈ sel.program.functions, ¬ f.DefinesBeforeUse fun _ => False := by
  have hok : (selectModule unsetSlot {}).isOk = true := by decide +kernel
  have hpath : ((selectModule unsetSlot {}).toOption.map fun sel =>
      sel.program.functions[1]?.map fun f =>
        decide (f.params = [⟨.boolean, "c"⟩]) &&
        decide (f.blocks[0]?.map (fun b => (b.successors, b.defsTowards 1)) = some ([2, 1], [])) &&
        decide (f.blocks[1]?.map (fun b => b.instrs[0]?.map Graph.Instr.uses) =
          some (some [⟨.int, "x"⟩]))) = some (some true) := by
    decide +kernel
  cases h : selectModule unsetSlot {} with
  | error e =>
    rw [h] at hok
    cases hok
  | ok sel =>
    refine ⟨sel, rfl, by decide +kernel, by decide +kernel, ?_⟩
    rw [h] at hpath
    simp only [Except.toOption, Option.map_some, Option.some.injEq, Option.map_eq_some_iff,
      Bool.and_eq_true, decide_eq_true_eq, Prod.mk.injEq] at hpath
    obtain ⟨f, hf, ⟨hpar, b₀, hb₀, hs₀, hd₀⟩, b₁, hb₁, i, hi₁, hu₁⟩ := hpath
    refine ⟨f, List.mem_of_getElem? hf, fun hdef => ?_⟩
    -- the path from the entry straight to the exit
    have hreach : f.Reaches 1 ([] ++ b₀.defsTowards 1) := .step .entry hb₀ (by simp [hs₀])
    rcases hdef 1 _ b₁ hreach hb₁ 0 i hi₁ ⟨.int, "x"⟩ (by simp [hu₁]) with hp | hx | hv | hv
    · simp [hpar] at hp
    · exact hx
    · simp [hd₀] at hv
    · simp at hv

end Isel.Lower
