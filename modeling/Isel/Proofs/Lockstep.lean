import Isel.Proofs.Registering

/-! # Two runs in lockstep: the builder

Two runs in corresponding states (`Related`) that take the same step of the builder, with
values that correspond (`Corr`), reach corresponding states: appending a block or an
instruction to the cursor's function, taking a fresh variable, moving the cursor, binding a
local, entering or leaving a loop, setting the landing block and reporting a soft failure all
act alike on the two cursor functions once positions are replaced by codes. Their results
correspond as well: block positions are equal, and variables and operands are equal up to
codes. With the registrations, which give positions of the same code, every primitive of
`LowerM` is a `SimAt` step.
-/

namespace Isel.Lower

theorem map_modify_comm {α β : Type} {f : α → β} {g : α → α} {g' : β → β}
    (h : ∀ a, f (g a) = g' (f a)) (l : List α) (i : Nat) :
    (l.modify i g).map f = (l.map f).modify i g' := by
  refine List.ext_getElem? fun n => ?_
  simp only [List.getElem?_map, List.getElem?_modify]
  split <;> cases l[n]? <;> simp [h]

theorem mem_modify {α : Type} {g : α → α} {l : List α} {i : Nat} {b : α}
    (hb : b ∈ l.modify i g) : b ∈ l ∨ ∃ a ∈ l, b = g a := by
  obtain ⟨n, hn⟩ := List.mem_iff_getElem?.1 hb
  rw [List.getElem?_modify] at hn
  split at hn
  · obtain ⟨a, ha, rfl⟩ := Option.map_eq_some_iff.1 hn
    exact .inr ⟨a, List.mem_of_getElem? ha, rfl⟩
  · exact .inl (List.mem_of_getElem? (by simpa using hn))

end Isel.Lower

namespace Isel.Graph.Function

variable {F K : Nat → Nat} {nf nk : Nat} {f : Function}

@[simp] theorem rename_addBlock (l : String) : (f.addBlock l).rename F K = (f.rename F K).addBlock l := by
  simp [rename, addBlock, Block.rename]

@[simp] theorem rename_bump : f.bump.rename F K = (f.rename F K).bump := rfl

theorem rename_pushAt (b : Nat) (i : Instr) :
    (f.pushAt b i).rename F K = (f.rename F K).pushAt b (i.rename F K) := by
  simp only [rename, pushAt]
  congr 1
  exact Isel.Lower.map_modify_comm (fun bl => by simp [Block.rename]) _ _

@[simp] theorem nextVar_bump : f.bump.nextVar = f.nextVar + 1 := rfl

theorem Below.addBlock (h : f.Below nf nk) (l : String) : (f.addBlock l).Below nf nk := by
  refine ⟨fun b hb => ?_, h.params, h.returnTy⟩
  rcases List.mem_append.1 hb with hb | hb
  · exact h.blocks b hb
  · obtain rfl := List.mem_singleton.1 hb
    intro i hi
    cases hi

theorem Below.bump (h : f.Below nf nk) : f.bump.Below nf nk := ⟨h.blocks, h.params, h.returnTy⟩

theorem Below.pushAt (h : f.Below nf nk) {i : Instr} (hi : i.Below nf nk) (b : Nat) :
    (f.pushAt b i).Below nf nk := by
  refine ⟨fun bl hbl => ?_, h.params, h.returnTy⟩
  rcases Isel.Lower.mem_modify hbl with hbl | ⟨a, ha, rfl⟩
  · exact h.blocks bl hbl
  · intro i' hi'
    rcases List.mem_append.1 hi' with hi' | hi'
    · exact h.blocks a ha i' hi'
    · obtain rfl := List.mem_singleton.1 hi'
      exact hi

@[simp] theorem blocks_rename_length : (f.rename F K).blocks.length = f.blocks.length := by
  simp [rename]

theorem getD_blocks_rename (b : Nat) :
    (f.rename F K).blocks.getD b default = (f.blocks.getD b default).rename F K := by
  simp only [rename, List.getD_eq_getElem?_getD, List.getElem?_map]
  cases f.blocks[b]? <;> rfl

end Isel.Graph.Function

namespace Isel.Lower

open Isel.Graph (Operand Instr Var Block Function)
open Isel.Tree (DefId LocalId)

/-! ## One run -/

section One

variable {c : Context} {s s' : State}

theorem State.fn_mapCur {g : Function → Function} (hc : s.cursor.fn < s.program.functions.length)
    (j : Nat) : (s.mapFn s.cursor.fn g).fn j = if j = s.cursor.fn then g (s.fn j) else s.fn j := by
  rw [State.fn_mapFn]
  by_cases hj : j = s.cursor.fn
  · simp [hj, hc]
  · simp [hj, Ne.symm hj]

theorem State.curFn_mapCur {g : Function → Function} (hc : s.cursor.fn < s.program.functions.length) :
    (s.mapFn s.cursor.fn g).curFn = g s.curFn :=
  State.fn_mapFn_self _ _ hc

theorem Inv.mapCur (h : Inv c s) {g : Function → Function}
    (hg : ∀ f, (g f).name = f.name ∧ (g f).params = f.params ∧ (g f).returnTy = f.returnTy)
    (hb : (g s.curFn).Below s.program.functions.length s.program.klasses.length)
    (hne : (g s.curFn).blocks ≠ []) : Inv c (s.mapFn s.cursor.fn g) := by
  have hfn := State.fn_mapCur (g := g) h.cursor
  have hlen := State.length_mapFn s s.cursor.fn g
  refine ⟨h.klasses, by rw [hlen]; exact h.functions, h.klassOf, fun d j f hm hf => ?_,
    fun j => ?_, fun j hj hbl => ?_, ?_, h.env, by simpa [hlen] using h.cursor⟩
  · obtain ⟨hn, hp, hr⟩ := h.declared d j f hm hf
    rw [hfn]
    split
    · obtain ⟨hn', hp', hr'⟩ := hg (s.fn j)
      exact ⟨hn'.trans hn, by rw [hp']; exact hp, by rw [hr']; exact hr⟩
    · exact ⟨hn, hp, hr⟩
  · rw [hfn, hlen]
    split
    · rename_i hj
      subst hj
      exact hb
    · exact h.below j
  · rw [hlen] at hj
    rw [hfn] at hbl ⊢
    split at hbl
    · rename_i hj'
      subst hj'
      exact absurd hbl hne
    · rw [if_neg ‹_›]
      exact h.fresh j hj hbl
  · show (s.mapFn s.cursor.fn g).curFn.blocks ≠ []
    rw [State.curFn_mapCur h.cursor]
    exact hne

theorem Inv.of_same (h : Inv c s) (hp : s'.program = s.program) (hf : s'.functions = s.functions)
    (hk : s'.klasses = s.klasses) (he : ∀ e ∈ s'.env, e.2.Below s.program.klasses.length)
    (hc : s'.cursor.fn = s.cursor.fn) : Inv c s' := by
  have hfn : ∀ j, s'.fn j = s.fn j := fun j => by simp [State.fn, hp]
  have hkc : s'.kcode = s.kcode := by simp [State.kcode, hk]
  refine ⟨hk ▸ hp ▸ h.klasses, hf ▸ hp ▸ h.functions, fun c' k hm => ?_, fun d j f hm hF => ?_,
    fun j => ?_, fun j hj hb => ?_, ?_, fun e he' => ?_, ?_⟩
  · rw [hp]; exact h.klassOf c' k (hk ▸ hm)
  · rw [hfn, hkc]; exact h.declared d j f (hf ▸ hm) hF
  · rw [hfn, hp]; exact h.below j
  · rw [hfn] at hb ⊢; exact h.fresh j (hp ▸ hj) hb
  · show (s'.fn s'.cursor.fn).blocks ≠ []
    rw [hfn, hc]; exact h.entered
  · rw [hp]; exact he e he'
  · show s'.cursor.fn < s'.program.functions.length
    rw [hc, hp]; exact h.cursor

theorem Extends.mapCur {g : Function → Function} (hc : s.cursor.fn < s.program.functions.length) :
    Extends s (s.mapFn s.cursor.fn g) :=
  ⟨List.suffix_refl _, List.suffix_refl _, Nat.le_refl _,
    Nat.le_of_eq (State.length_mapFn _ _ _).symm, rfl, fun j hj _ => by
      rw [State.fn_mapCur hc, if_neg hj]⟩

theorem Extends.of_same (hp : s'.program = s.program) (hf : s'.functions = s.functions)
    (hk : s'.klasses = s.klasses) (hc : s'.cursor.fn = s.cursor.fn) : Extends s s' :=
  ⟨hk ▸ List.suffix_refl _, hf ▸ List.suffix_refl _, by rw [hp], by rw [hp], hc,
    fun j _ _ => by simp [State.fn, hp]⟩

end One

/-! ## Both runs -/

section Both

variable {c₁ c₂ : Context} {s s' t t' : State}

theorem Agree.blocks_length (a : Agree s t) : t.curFn.blocks.length = s.curFn.blocks.length := by
  have := congrArg (fun f => f.blocks.length) a.curFn
  simpa using this

theorem Agree.nextVar (a : Agree s t) : t.curFn.nextVar = s.curFn.nextVar := by
  have := congrArg Function.nextVar a.curFn
  simpa using this

theorem Agree.isTerminal (a : Agree s t) : t.curBlock.isTerminal = s.curBlock.isTerminal := by
  have h : t.curBlock.rename t.fcode t.kcode = s.curBlock.rename s.fcode s.kcode := by
    simp only [State.curBlock, ← Function.getD_blocks_rename, a.curFn, a.block]
  rw [← Block.isTerminal_rename (f := t.fcode) (k := t.kcode), h, Block.isTerminal_rename]

theorem Step.mapCur (rel : Related c₁ c₂ s t) {g₁ g₂ : Function → Function}
    (i₁ : Inv c₁ (s.mapFn s.cursor.fn g₁)) (i₂ : Inv c₂ (t.mapFn t.cursor.fn g₂))
    (hg : (g₂ t.curFn).rename t.fcode t.kcode = (g₁ s.curFn).rename s.fcode s.kcode) :
    Step c₁ c₂ s (s.mapFn s.cursor.fn g₁) t (t.mapFn t.cursor.fn g₂) := by
  have a := rel.agree
  refine ⟨rel, ⟨rel.decls, i₁, i₂, ⟨a.block, a.fn, ?_, a.env, a.loops, a.landing, a.current⟩⟩,
    Extends.mapCur rel.inv₁.cursor, Extends.mapCur rel.inv₂.cursor, Covers.of_tables rfl rfl _⟩
  rw [State.curFn_mapCur rel.inv₁.cursor, State.curFn_mapCur rel.inv₂.cursor]
  exact hg

theorem Step.of_same (rel : Related c₁ c₂ s t) (hp : s'.program = s.program)
    (hf : s'.functions = s.functions) (hk : s'.klasses = s.klasses)
    (he : ∀ e ∈ s'.env, e.2.Below s.program.klasses.length) (hc : s'.cursor.fn = s.cursor.fn)
    (hp' : t'.program = t.program) (hf' : t'.functions = t.functions) (hk' : t'.klasses = t.klasses)
    (he' : ∀ e ∈ t'.env, e.2.Below t.program.klasses.length) (hc' : t'.cursor.fn = t.cursor.fn)
    (a : Agree s' t') : Step c₁ c₂ s s' t t' :=
  ⟨rel, ⟨rel.decls, rel.inv₁.of_same hp hf hk he hc, rel.inv₂.of_same hp' hf' hk' he' hc', a⟩,
    Extends.of_same hp hf hk hc, Extends.of_same hp' hf' hk' hc', Covers.of_tables hk hf _⟩

theorem Step.control (rel : Related c₁ c₂ s t) (hp : s'.program = s.program)
    (hf : s'.functions = s.functions) (hk : s'.klasses = s.klasses) (he : s'.env = s.env)
    (hc : s'.cursor.fn = s.cursor.fn) (hp' : t'.program = t.program)
    (hf' : t'.functions = t.functions) (hk' : t'.klasses = t.klasses) (he' : t'.env = t.env)
    (hc' : t'.cursor.fn = t.cursor.fn) (a : Agree s' t') : Step c₁ c₂ s s' t t' :=
  Step.of_same rel hp hf hk (he ▸ rel.inv₁.env) hc hp' hf' hk' (he' ▸ rel.inv₂.env) hc' a

theorem Step.moveTo (rel : Related c₁ c₂ s t) (b : Nat) :
    Step c₁ c₂ s (s.moveTo b) t (t.moveTo b) :=
  Step.control rel rfl rfl rfl rfl rfl rfl rfl rfl rfl rfl
    ⟨rfl, rel.agree.fn, rel.agree.curFn, rel.agree.env, rel.agree.loops, rel.agree.landing,
      rel.agree.current⟩

theorem Step.addBlock (rel : Related c₁ c₂ s t) (l : String) :
    Step c₁ c₂ s (s.addBlock l) t (t.addBlock l) :=
  Step.mapCur rel (rel.inv₁.mapCur (fun _ => ⟨rfl, rfl, rfl⟩) ((rel.inv₁.below _).addBlock l)
      (by simp [Function.addBlock]))
    (rel.inv₂.mapCur (fun _ => ⟨rfl, rfl, rfl⟩) ((rel.inv₂.below _).addBlock l)
      (by simp [Function.addBlock]))
    (by rw [Function.rename_addBlock, Function.rename_addBlock, rel.agree.curFn])

theorem Step.bump (rel : Related c₁ c₂ s t) :
    Step c₁ c₂ s (s.mapFn s.cursor.fn Function.bump) t (t.mapFn t.cursor.fn Function.bump) :=
  Step.mapCur rel (rel.inv₁.mapCur (fun _ => ⟨rfl, rfl, rfl⟩) (rel.inv₁.below _).bump
      rel.inv₁.entered)
    (rel.inv₂.mapCur (fun _ => ⟨rfl, rfl, rfl⟩) (rel.inv₂.below _).bump rel.inv₂.entered)
    (by rw [Function.rename_bump, Function.rename_bump, rel.agree.curFn])

theorem Step.push (rel : Related c₁ c₂ s t) {i i' : Instr} (hi : Corr s t i i') :
    Step c₁ c₂ s (s.push i) t (t.push i') :=
  Step.mapCur rel (rel.inv₁.mapCur (fun _ => ⟨rfl, rfl, rfl⟩) ((rel.inv₁.below _).pushAt hi.2.1 _)
      (by simpa [Function.pushAt] using rel.inv₁.entered))
    (rel.inv₂.mapCur (fun _ => ⟨rfl, rfl, rfl⟩) ((rel.inv₂.below _).pushAt hi.2.2 _)
      (by simpa [Function.pushAt] using rel.inv₂.entered))
    (by rw [Function.rename_pushAt, Function.rename_pushAt, rel.agree.curFn, rel.agree.block]
        exact congrArg _ hi.1)

theorem Step.reopen (rel : Related c₁ c₂ s t) : Step c₁ c₂ s s.reopen t t.reopen := by
  unfold State.reopen
  rw [rel.agree.isTerminal]
  split
  · have st := Step.addBlock rel "unreachable"
    rw [← rel.agree.blocks_length]
    exact st.trans (Step.moveTo st.rel _)
  · exact Step.refl rel

end Both

/-! ## Corresponding values -/

section Values

variable {c : Context} {s t : State}

theorem Corr.rename_ty {ty ty' : Graph.Ty} (h : Corr s t ty ty') :
    ty'.rename t.kcode = ty.rename s.kcode := h.1

theorem Corr.rename_var {v v' : Var} (h : Corr s t v v') : v'.rename t.kcode = v.rename s.kcode :=
  h.1

theorem Corr.rename_operand {o o' : Operand} (h : Corr s t o o') :
    o'.rename t.kcode = o.rename s.kcode := h.1

theorem Corr.rename_dst {d d' : Option Var} (h : Corr s t d d') :
    d'.map (Var.rename t.kcode) = d.map (Var.rename s.kcode) := h.1

theorem Corr.rename_operands {os os' : List Operand} (h : Corr s t os os') :
    os'.map (Operand.rename t.kcode) = os.map (Operand.rename s.kcode) := h.1

theorem Corr.mkVar {ty ty' : Graph.Ty} (h : Corr s t ty ty') (name : String) :
    Corr s t (⟨ty, name⟩ : Var) ⟨ty', name⟩ :=
  ⟨congrArg (fun ty => (⟨ty, name⟩ : Var)) h.1, h.2.1, h.2.2⟩

theorem Corr.var {v v' : Var} (h : Corr s t v v') : Corr s t (Operand.var v) (.var v') :=
  ⟨congrArg Operand.var h.1, h.2.1, h.2.2⟩

theorem Corr.ty {o o' : Operand} (h : Corr s t o o') : Corr s t o.ty o'.ty :=
  ⟨by simpa using congrArg Operand.ty h.1, Operand.Below.ty h.2.1, Operand.Below.ty h.2.2⟩

theorem Corr.klassPtr {k k' : Nat} (h : KCorr s t k k') :
    Corr s t (Graph.Ty.klassPtr k) (.klassPtr k') :=
  ⟨congrArg Graph.Ty.klassPtr h.1, h.2.1, h.2.2⟩

theorem Corr.plain (ty : Graph.Ty) (h : ∀ k, ty ≠ .klassPtr k) : Corr s t ty ty := by
  cases ty
  case klassPtr k => exact absurd rfl (h k)
  all_goals exact ⟨rfl, trivial, trivial⟩

theorem Corr.closed {o : Operand} (h : ∀ k, o.rename k = o) (hb : ∀ n, o.Below n) :
    Corr s t o o :=
  ⟨(h _).trans (h _).symm, hb _, hb _⟩

theorem Corr.unit : Corr s t Operand.unit .unit := Corr.closed (fun _ => rfl) fun _ => trivial

theorem Corr.null : Corr s t Operand.null .null := Corr.closed (fun _ => rfl) fun _ => trivial

theorem Corr.symbol (name : String) : Corr s t (Operand.symbol name) (.symbol name) :=
  Corr.closed (fun _ => rfl) fun _ => ⟨trivial, trivial⟩

theorem Corr.literal (l : Tree.Literal) : Corr s t (literalOperand l) (literalOperand l) := by
  cases l
  case null => exact Corr.null
  all_goals exact Corr.closed (fun _ => rfl) fun _ => ⟨trivial, trivial⟩

theorem Corr.elements {ty ty' : Graph.Ty} {vs vs' : List Operand} (ht : Corr s t ty ty')
    (hv : Corr s t vs vs') : Corr s t (Operand.const ty (.elements vs)) (.const ty' (.elements vs')) := by
  refine ⟨?_, ⟨ht.2.1, (Operand.listBelow_iff _).2 hv.2.1⟩, ⟨ht.2.2, (Operand.listBelow_iff _).2 hv.2.2⟩⟩
  have hr : vs'.map (Operand.rename t.kcode) = vs.map (Operand.rename s.kcode) := hv.1
  show Operand.const (ty'.rename t.kcode) (.elements (Operand.renameList t.kcode vs')) =
    Operand.const (ty.rename s.kcode) (.elements (Operand.renameList s.kcode vs))
  rw [Operand.renameList_eq_map, Operand.renameList_eq_map, hr]
  exact congrArg (fun ty => Operand.const ty _) ht.1

theorem Corr.absent {α : Type} [Coded α] : Corr s t (none : Option α) none :=
  ⟨rfl, by simp, by simp⟩

theorem Corr.present {α : Type} [Coded α] {a b : α} (h : Corr s t a b) : Corr s t (some a) (some b) :=
  ⟨congrArg _ h.1, by simpa using h.2.1, by simpa using h.2.2⟩

theorem Corr.option_cases {α : Type} [Coded α] {o o' : Option α} (h : Corr s t o o') :
    (o = none ∧ o' = none) ∨ ∃ a a', o = some a ∧ o' = some a' ∧ Corr s t a a' := by
  obtain ⟨he, ha, hb⟩ := h
  cases o <;> cases o'
  · exact .inl ⟨rfl, rfl⟩
  · cases he
  · cases he
  · rename_i a a'
    exact .inr ⟨a, a', rfl, rfl, Option.some.inj he, by simpa using ha, by simpa using hb⟩

theorem Corr.nil {α : Type} [Coded α] : Corr s t ([] : List α) [] :=
  ⟨rfl, by simp, by simp⟩

theorem Corr.cons {α : Type} [Coded α] {a b : α} {l l' : List α} (h : Corr s t a b)
    (hl : Corr s t l l') : Corr s t (a :: l) (b :: l') :=
  ⟨by simpa using ⟨h.1, hl.1⟩, by simpa using ⟨h.2.1, hl.2.1⟩, by simpa using ⟨h.2.2, hl.2.2⟩⟩

theorem Corr.append {α : Type} [Coded α] {l₁ l₁' l₂ l₂' : List α} (h₁ : Corr s t l₁ l₁')
    (h₂ : Corr s t l₂ l₂') : Corr s t (l₁ ++ l₂) (l₁' ++ l₂') :=
  ⟨by simpa using congrArg₂ (· ++ ·) h₁.1 h₂.1,
    fun a ha => (List.mem_append.1 ha).elim (h₁.2.1 a) (h₂.2.1 a),
    fun a ha => (List.mem_append.1 ha).elim (h₁.2.2 a) (h₂.2.2 a)⟩

theorem Corr.toList {α : Type} [Coded α] {o o' : Option α} (h : Corr s t o o') :
    Corr s t o.toList o'.toList := by
  rcases h.option_cases with ⟨rfl, rfl⟩ | ⟨a, a', rfl, rfl, ha⟩
  · exact Corr.nil
  · exact ha.cons Corr.nil

theorem Corr.getD {α : Type} [Coded α] {o o' : Option α} {d d' : α} (h : Corr s t o o')
    (hd : Corr s t d d') : Corr s t (o.getD d) (o'.getD d') := by
  rcases h.option_cases with ⟨rfl, rfl⟩ | ⟨a, a', rfl, rfl, ha⟩
  · exact hd
  · exact ha

theorem Corr.getElem? {α : Type} [Coded α] {l l' : List α} (h : Corr s t l l') (i : Nat) :
    Corr s t l[i]? l'[i]? := by
  refine ⟨?_, fun a ha => h.2.1 a (List.mem_of_getElem? ha), fun a ha => h.2.2 a (List.mem_of_getElem? ha)⟩
  simpa [List.getElem?_map] using congrArg (·[i]?) h.1

theorem Corr.listGetD {α : Type} [Coded α] {l l' : List α} {d d' : α} (h : Corr s t l l')
    (hd : Corr s t d d') (i : Nat) : Corr s t (l.getD i d) (l'.getD i d') := by
  simpa only [List.getD_eq_getElem?_getD] using (h.getElem? i).getD hd

theorem Corr.varOrUnit {d d' : Option Var} (h : Corr s t d d') :
    Corr s t ((d.map Operand.var).getD .unit) ((d'.map Operand.var).getD .unit) := by
  rcases h.option_cases with ⟨rfl, rfl⟩ | ⟨a, a', rfl, rfl, ha⟩
  · exact Corr.unit
  · exact ha.var

theorem Corr.dst {i i' : Instr} (h : Corr s t i i') : Corr s t i.dst? i'.dst? := by
  have hb : ∀ {nf nk : Nat} {i : Instr}, i.Below nf nk → ∀ v ∈ i.dst?, v.Below nk := by
    intro nf nk i hi v hv
    cases i <;> simp_all [Instr.dst?, Instr.Below]
  refine ⟨?_, hb h.2.1, hb h.2.2⟩
  show i'.dst?.map (Var.rename t.kcode) = i.dst?.map (Var.rename s.kcode)
  simpa using congrArg Instr.dst? h.1

theorem Inv.ty_rename_inj (h : Inv c s) {x y : Graph.Ty} (hx : x.Below s.program.klasses.length)
    (hy : y.Below s.program.klasses.length) (he : x.rename s.kcode = y.rename s.kcode) : x = y := by
  cases x <;> cases y <;> simp_all [Graph.Ty.rename, Graph.Ty.Below]
  exact h.kcode_inj hx hy he

theorem Corr.ty_eq_iff {c₁ c₂ : Context} (i₁ : Inv c₁ s) (i₂ : Inv c₂ t) {a a' b b' : Graph.Ty}
    (ha : Corr s t a a') (hb : Corr s t b b') : a' = b' ↔ a = b := by
  constructor
  · intro he
    exact i₁.ty_rename_inj ha.2.1 hb.2.1 (ha.1.symm.trans ((congrArg _ he).trans hb.1))
  · intro he
    exact i₂.ty_rename_inj ha.2.2 hb.2.2 (ha.1.trans ((congrArg _ he).trans hb.1.symm))

end Values

/-! ## Corresponding instructions -/

section Instrs

variable {s t : State} {d d' : Var} {a a' b b' : Operand}

theorem Corr.binary (op : Graph.BinOp) (hd : Corr s t d d') (ha : Corr s t a a')
    (hb : Corr s t b b') : Corr s t (Instr.binary op d a b) (.binary op d' a' b') :=
  ⟨by simp [Instr.rename, hd.rename_var, ha.rename_operand, hb.rename_operand],
    ⟨hd.2.1, ha.2.1, hb.2.1⟩, ⟨hd.2.2, ha.2.2, hb.2.2⟩⟩

theorem Corr.compare (op : Graph.CmpOp) (hd : Corr s t d d') (ha : Corr s t a a')
    (hb : Corr s t b b') : Corr s t (Instr.compare op d a b) (.compare op d' a' b') :=
  ⟨by simp [Instr.rename, hd.rename_var, ha.rename_operand, hb.rename_operand],
    ⟨hd.2.1, ha.2.1, hb.2.1⟩, ⟨hd.2.2, ha.2.2, hb.2.2⟩⟩

theorem Corr.gep (hd : Corr s t d d') (ha : Corr s t a a') (hb : Corr s t b b') :
    Corr s t (Instr.gep d a b) (.gep d' a' b') :=
  ⟨by simp [Instr.rename, hd.rename_var, ha.rename_operand, hb.rename_operand],
    ⟨hd.2.1, ha.2.1, hb.2.1⟩, ⟨hd.2.2, ha.2.2, hb.2.2⟩⟩

theorem Corr.load (hd : Corr s t d d') (ha : Corr s t a a') (o : Nat) :
    Corr s t (Instr.load d a o) (.load d' a' o) :=
  ⟨by simp [Instr.rename, hd.rename_var, ha.rename_operand], ⟨hd.2.1, ha.2.1⟩, ⟨hd.2.2, ha.2.2⟩⟩

theorem Corr.store (ha : Corr s t a a') (hb : Corr s t b b') (o : Nat) :
    Corr s t (Instr.store a b o) (.store a' b' o) :=
  ⟨by simp [Instr.rename, ha.rename_operand, hb.rename_operand], ⟨ha.2.1, hb.2.1⟩, ⟨ha.2.2, hb.2.2⟩⟩

theorem Corr.alloc {k k' : Nat} (hd : Corr s t d d') (hk : KCorr s t k k') :
    Corr s t (Instr.alloc d k) (.alloc d' k') :=
  ⟨by simp [Instr.rename, hd.rename_var, hk.1], ⟨hd.2.1, hk.2.1⟩, ⟨hd.2.2, hk.2.2⟩⟩

theorem Corr.call {j j' : Nat} {r r' : Option Var} {os os' : List Operand} (hj : FCorr s t j j')
    (hr : Corr s t r r') (ho : Corr s t os os') : Corr s t (Instr.call j r os) (.call j' r' os') :=
  ⟨by simp [Instr.rename, hj.1, hr.rename_dst, ho.rename_operands], ⟨hj.2.1, hr.2.1, ho.2.1⟩,
    ⟨hj.2.2, hr.2.2, ho.2.2⟩⟩

theorem Corr.invoke {j j' : Nat} {r r' : Option Var} {os os' : List Operand} (hj : FCorr s t j j')
    (hr : Corr s t r r') (ho : Corr s t os os') (n l : Nat) :
    Corr s t (Instr.invoke j r os n l) (.invoke j' r' os' n l) :=
  ⟨by simp [Instr.rename, hj.1, hr.rename_dst, ho.rename_operands], ⟨hj.2.1, hr.2.1, ho.2.1⟩,
    ⟨hj.2.2, hr.2.2, ho.2.2⟩⟩

theorem Corr.cast (hd : Corr s t d d') (ha : Corr s t a a') : Corr s t (Instr.cast d a) (.cast d' a') :=
  ⟨by simp [Instr.rename, hd.rename_var, ha.rename_operand], ⟨hd.2.1, ha.2.1⟩, ⟨hd.2.2, ha.2.2⟩⟩

theorem Corr.trunc (hd : Corr s t d d') (ha : Corr s t a a') :
    Corr s t (Instr.trunc d a) (.trunc d' a') :=
  ⟨by simp [Instr.rename, hd.rename_var, ha.rename_operand], ⟨hd.2.1, ha.2.1⟩, ⟨hd.2.2, ha.2.2⟩⟩

theorem Corr.sext (hd : Corr s t d d') (ha : Corr s t a a') : Corr s t (Instr.sext d a) (.sext d' a') :=
  ⟨by simp [Instr.rename, hd.rename_var, ha.rename_operand], ⟨hd.2.1, ha.2.1⟩, ⟨hd.2.2, ha.2.2⟩⟩

theorem Corr.bitcast (hd : Corr s t d d') (ha : Corr s t a a') :
    Corr s t (Instr.bitcast d a) (.bitcast d' a') :=
  ⟨by simp [Instr.rename, hd.rename_var, ha.rename_operand], ⟨hd.2.1, ha.2.1⟩, ⟨hd.2.2, ha.2.2⟩⟩

theorem Corr.mov (hd : Corr s t d d') (ha : Corr s t a a') : Corr s t (Instr.mov d a) (.mov d' a') :=
  ⟨by simp [Instr.rename, hd.rename_var, ha.rename_operand], ⟨hd.2.1, ha.2.1⟩, ⟨hd.2.2, ha.2.2⟩⟩

theorem Corr.br (b : Nat) : Corr s t (Instr.br b) (.br b) := ⟨rfl, trivial, trivial⟩

theorem Corr.condBr (ha : Corr s t a a') (b e : Nat) : Corr s t (Instr.condBr a b e) (.condBr a' b e) :=
  ⟨by simp [Instr.rename, ha.rename_operand], ha.2.1, ha.2.2⟩

theorem Corr.ret (ha : Corr s t a a') : Corr s t (Instr.ret a) (.ret a') :=
  ⟨by simp [Instr.rename, ha.rename_operand], ha.2.1, ha.2.2⟩

theorem Corr.landingPad (hd : Corr s t d d') : Corr s t (Instr.landingPad d) (.landingPad d') :=
  ⟨by simp [Instr.rename, hd.rename_var], hd.2.1, hd.2.2⟩

theorem Corr.typeTest (kind : Graph.TestKind) {ty ty' : Graph.Ty} (hd : Corr s t d d')
    (ha : Corr s t a a') (hty : Corr s t ty ty') :
    Corr s t (Instr.typeTest kind d a ty) (.typeTest kind d' a' ty') :=
  ⟨by simp [Instr.rename, hd.rename_var, ha.rename_operand, hty.rename_ty],
    ⟨hd.2.1, ha.2.1, hty.2.1⟩, ⟨hd.2.2, ha.2.2, hty.2.2⟩⟩

end Instrs

/-! ## The primitives in lockstep -/

section Prims

variable {c₁ c₂ : Context} {s t : State}

theorem Related.placed (rel : Related c₁ c₂ s t) (h : s.Placed) : t.Placed :=
  ⟨rel.inv₂.cursor, by rw [rel.agree.block, rel.agree.blocks_length]; exact h.2⟩

theorem newBlock_sim (rel : Related c₁ c₂ s t) (l : String) :
    SimAt c₁ c₂ s t (newBlock l) (newBlock l) fun _ _ a b => b = a :=
  SimAt.of_run (newBlock_run c₁ s rel.inv₁.cursor l) (newBlock_run c₂ t rel.inv₂.cursor l)
    (Step.addBlock rel l) rel.agree.blocks_length

theorem switchTo_sim (rel : Related c₁ c₂ s t) (b : Nat) :
    SimAt c₁ c₂ s t (switchTo b) (switchTo b) fun _ _ _ _ => True :=
  SimAt.of_run (switchTo_run c₁ s b) (switchTo_run c₂ t b) (Step.moveTo rel b) trivial

theorem isTerminated_sim (rel : Related c₁ c₂ s t) :
    SimAt c₁ c₂ s t isTerminated isTerminated fun _ _ a b => b = a := fun a s' h => by
  have hp := (isTerminated_ok h).1
  exact SimAt.of_run (R := fun _ _ a b => b = a) (isTerminated_run c₁ s hp)
    (isTerminated_run c₂ t (rel.placed hp))
    (Step.refl rel) rel.agree.isTerminal a s' h

theorem freshVar_sim (rel : Related c₁ c₂ s t) {ty ty' : Graph.Ty} (h : Corr s t ty ty') :
    SimAt c₁ c₂ s t (freshVar ty) (freshVar ty') Corr := by
  have st := Step.bump rel
  refine SimAt.of_run (freshVar_run c₁ s rel.inv₁.cursor ty) (freshVar_run c₂ t rel.inv₂.cursor ty')
    st ?_
  rw [rel.agree.nextVar]
  exact (h.mono st).mkVar _

theorem emit_sim (rel : Related c₁ c₂ s t) {i i' : Instr} (h : Corr s t i i') :
    SimAt c₁ c₂ s t (emit i) (emit i') Corr := by
  have st₁ := Step.reopen rel
  have st := st₁.trans (Step.push st₁.rel (h.mono st₁))
  intro a s' he
  have hp := (emit_ok he).1
  exact SimAt.of_run (emit_run c₁ s hp i) (emit_run c₂ t (rel.placed hp) i') st
    (h.mono st).dst.varOrUnit a s' he

theorem jumpIfOpen_sim (rel : Related c₁ c₂ s t) (b : Nat) :
    SimAt c₁ c₂ s t (jumpIfOpen b) (jumpIfOpen b) fun _ _ _ _ => True := by
  intro a s' hj
  have hp := (jumpIfOpen_ok hj).1
  refine SimAt.of_run (R := fun _ _ _ _ => True) (jumpIfOpen_run c₁ s hp b)
    (jumpIfOpen_run c₂ t (rel.placed hp) b) ?_ trivial a s' hj
  rw [rel.agree.isTerminal]
  split
  · exact Step.refl rel
  · exact Step.push rel (Corr.br b)

theorem bindLocal_sim (rel : Related c₁ c₂ s t) {o o' : Operand} (h : Corr s t o o')
    (l : LocalId) : SimAt c₁ c₂ s t (bindLocal l o) (bindLocal l o') fun _ _ _ _ => True := by
  have a := rel.agree
  refine SimAt.of_run (bindLocal_run c₁ s l o) (bindLocal_run c₂ t l o')
    (Step.of_same rel rfl rfl rfl (fun e he => ?_) rfl rfl rfl rfl (fun e he => ?_) rfl
      ⟨a.block, a.fn, a.curFn, ?_, a.loops, a.landing, a.current⟩) trivial
  · rcases List.mem_cons.1 he with rfl | he
    · exact h.2.1
    · exact rel.inv₁.env e he
  · rcases List.mem_cons.1 he with rfl | he
    · exact h.2.2
    · exact rel.inv₂.env e he
  · show ((l, o') :: t.env).map (fun e => (e.1, e.2.rename t.kcode)) =
      ((l, o) :: s.env).map (fun e => (e.1, e.2.rename s.kcode))
    simp [a.env, h.rename_operand]

theorem pushLoop_sim (rel : Related c₁ c₂ s t) (fr : LoopFrame) :
    SimAt c₁ c₂ s t (pushLoop fr) (pushLoop fr) fun _ _ _ _ => True :=
  have a := rel.agree
  SimAt.of_run (pushLoop_run c₁ s fr) (pushLoop_run c₂ t fr)
    (Step.control rel rfl rfl rfl rfl rfl rfl rfl rfl rfl rfl
      ⟨a.block, a.fn, a.curFn, a.env, by simp [a.loops], a.landing, a.current⟩) trivial

theorem popLoop_sim (rel : Related c₁ c₂ s t) :
    SimAt c₁ c₂ s t popLoop popLoop fun _ _ _ _ => True :=
  have a := rel.agree
  SimAt.of_run (popLoop_run c₁ s) (popLoop_run c₂ t)
    (Step.control rel rfl rfl rfl rfl rfl rfl rfl rfl rfl rfl
      ⟨a.block, a.fn, a.curFn, a.env, by simp [a.loops], a.landing, a.current⟩) trivial

theorem setLanding_sim (rel : Related c₁ c₂ s t) (l : Option Nat) :
    SimAt c₁ c₂ s t (setLanding l) (setLanding l) fun _ _ _ _ => True :=
  have a := rel.agree
  SimAt.of_run (setLanding_run c₁ s l) (setLanding_run c₂ t l)
    (Step.control rel rfl rfl rfl rfl rfl rfl rfl rfl rfl rfl
      ⟨a.block, a.fn, a.curFn, a.env, a.loops, rfl, a.current⟩) trivial

theorem softFailure_sim (rel : Related c₁ c₂ s t) (code : Code) (message : String) (span : Span) :
    SimAt c₁ c₂ s t (softFailure code message span) (softFailure code message span)
      fun _ _ _ _ => True :=
  have a := rel.agree
  SimAt.of_run (softFailure_run c₁ s code message span) (softFailure_run c₂ t code message span)
    (Step.control rel rfl rfl rfl rfl rfl rfl rfl rfl rfl rfl
      ⟨a.block, a.fn, a.curFn, a.env, a.loops, a.landing, a.current⟩) trivial

theorem Step.restore (rel : Related c₁ c₂ s t) {cur cur' : Cursor} (hc : cur.fn = s.cursor.fn)
    (hc' : cur'.fn = t.cursor.fn) (hb : cur'.block = cur.block) :
    Step c₁ c₂ s { s with cursor := cur } t { t with cursor := cur' } := by
  have a := rel.agree
  refine Step.control rel rfl rfl rfl rfl hc rfl rfl rfl rfl hc'
    ⟨hb, ?_, ?_, a.env, a.loops, a.landing, a.current⟩
  · show t.fcode cur'.fn = s.fcode cur.fn
    rw [hc, hc']
    exact a.fn
  · show (t.fn cur'.fn).rename t.fcode t.kcode = (s.fn cur.fn).rename s.fcode s.kcode
    rw [hc, hc']
    exact a.curFn

theorem findLoop_sim (rel : Related c₁ c₂ s t) (loop : Tree.LoopId) (exit : LoopExit) (span : Span) :
    SimAt c₁ c₂ s t (findLoop loop exit span) (findLoop loop exit span) fun _ _ a b => b = a := by
  intro fr s' e
  rw [findLoop_run] at e
  split at e
  · rename_i hf
    cases e
    exact ⟨fr, t, by rw [findLoop_run, rel.agree.loops, hf], Step.refl rel, rfl⟩
  · cases e

theorem returnsUnit_sim (rel : Related c₁ c₂ s t) (target : DefId) :
    SimAt c₁ c₂ s t (returnsUnit target) (returnsUnit target) fun _ _ a b => b = a :=
  SimAt.of_run (returnsUnit_run c₁ s target) (returnsUnit_run c₂ t target) (Step.refl rel)
    (by rw [rel.decls.functionDecl, rel.agree.current])

/-! ## Registering in lockstep -/

theorem klassId_sim (rel : Related c₁ c₂ s t) (cls : DefId) :
    SimAt c₁ c₂ s t (klassId cls) (klassId cls) KCorr := by
  intro k s' e₁
  obtain ⟨k', t', e₂⟩ := klassId_ok cls c₂ t
  obtain ⟨r₁, m₁⟩ := klassId_registration rel.inv₁ e₁
  obtain ⟨r₂, m₂⟩ := klassId_registration rel.inv₂ e₂
  refine ⟨k', t', e₂, Step.of_registration rel r₁ r₂ (fun k hk => ?_) (fun d hd => by cases hd), ?_⟩
  · obtain rfl := List.mem_singleton.1 hk
    exact List.mem_map.2 ⟨_, m₂, rfl⟩
  · exact ⟨(r₂.inv.kcode_of_mem m₂).trans (r₁.inv.kcode_of_mem m₁).symm,
      (r₁.inv.klasses.lt_of_mem m₁).2, (r₂.inv.klasses.lt_of_mem m₂).2⟩

theorem lowerType_sim (rel : Related c₁ c₂ s t) (ty : Tree.Ty) :
    SimAt c₁ c₂ s t (lowerType ty) (lowerType ty) Corr := by
  intro x s' e₁
  obtain ⟨x', t', e₂⟩ := lowerType_ok ty c₂ t
  obtain ⟨r₁, l₁, b₁, -⟩ := lowerType_registration rel.inv₁ e₁
  obtain ⟨r₂, l₂, b₂, m₂⟩ := lowerType_registration rel.inv₂ e₂
  exact ⟨x', t', e₂, Step.of_registration rel r₁ r₂ m₂ (fun d hd => by cases hd),
    l₂.trans l₁.symm, b₁, b₂⟩

theorem declaredFunction_sim (rel : Related c₁ c₂ s t) (id : DefId) (name : String)
    {argTys argTys' : List Graph.Ty} {ret ret' : Graph.Ty} (ha : Corr s t argTys argTys')
    (hr : Corr s t ret ret') :
    SimAt c₁ c₂ s t (declaredFunction id name argTys ret) (declaredFunction id name argTys' ret')
      FCorr := by
  intro j s' e₁
  obtain ⟨j', t', e₂⟩ := declaredFunction_ok id name argTys' ret' c₂ t
  obtain ⟨r₁, m₁, -⟩ := declaredFunction_registration rel.inv₁ ha.2.1 hr.2.1 e₁
  obtain ⟨r₂, m₂, k₂⟩ := declaredFunction_registration rel.inv₂ ha.2.2 hr.2.2 e₂
  refine ⟨j', t', e₂, Step.of_registration rel r₁ r₂ (fun k hk => ?_) (fun d hd => ?_), ?_⟩
  · -- the classes of the declared signature, which the second run registers as well
    cases hF : c₁.functionDecl? id with
    | none => simp [hF] at hk
    | some F =>
      rw [hF] at hk
      exact k₂ F ((rel.decls.functionDecl id).trans hF) k hk
  · obtain rfl := List.mem_singleton.1 hd
    exact List.mem_map.2 ⟨_, m₂, rfl⟩
  · exact ⟨(r₂.inv.fcode_of_mem m₂).trans (r₁.inv.fcode_of_mem m₁).symm,
      (r₁.inv.functions.lt_of_mem m₁).2, (r₂.inv.functions.lt_of_mem m₂).2⟩

theorem Corr.tys {os os' : List Operand} (h : Corr s t os os') :
    Corr s t (os.map Operand.ty) (os'.map Operand.ty) := by
  refine ⟨?_, fun a ha => ?_, fun a ha => ?_⟩
  · show (os'.map Operand.ty).map (Graph.Ty.rename t.kcode) =
      (os.map Operand.ty).map (Graph.Ty.rename s.kcode)
    simpa [Function.comp_def] using congrArg (List.map Operand.ty) h.rename_operands
  · obtain ⟨o, ho, rfl⟩ := List.mem_map.1 ha
    exact Operand.Below.ty (h.2.1 o ho)
  · obtain ⟨o, ho, rfl⟩ := List.mem_map.1 ha
    exact Operand.Below.ty (h.2.2 o ho)

theorem calleeFor_sim (rel : Related c₁ c₂ s t) (callee : Tree.Callee) {args args' : List Operand}
    {ret ret' : Graph.Ty} (ha : Corr s t args args') (hr : Corr s t ret ret') :
    SimAt c₁ c₂ s t (calleeFor callee args ret) (calleeFor callee args' ret') FCorr :=
  declaredFunction_sim rel _ _ ha.tys hr

end Prims

end Isel.Lower
