import Isel.Proofs.Simulation

/-! # Registering classes and functions

Registration appends a class, or a function without blocks, to the program and enters it in a
table. Each run keeps `Inv` through it: a class is entered with its declared name and layout, a
declared function with its declared signature, its classes named by their codes.

What registration adds is bounded by what it is asked for (`Registration`): the class id
itself for a class, the function id and the classes its declared signature names for a
function. A run that asks for the same ids has all of them afterwards, whether it registers
them then or did so earlier, since a function registered earlier had its signature's classes
registered with it. So whatever one run registers at a step, the other has by the end of the
same step.
-/

namespace Isel.Tree

def Ty.classes : Ty → List DefId
  | .classRef c => [c]
  | _ => []

def FunctionDecl.classes (f : FunctionDecl) : List DefId :=
  f.params.flatMap (·.ty.classes) ++ f.returnTy.classes

end Isel.Tree

namespace Isel.Lower

open Isel.Graph (Operand Var Function)
open Isel.Tree (DefId FunctionDecl)

/-! ## Extending the state -/

section Extend

variable {s : State} {fs : List Function} {ks : List Graph.Klass} {tf tk : List (DefId × Nat)}

@[simp] theorem State.extend_klasses : (s.extend fs ks tf tk).klasses = tk ++ s.klasses := rfl
@[simp] theorem State.extend_functions : (s.extend fs ks tf tk).functions = tf ++ s.functions := rfl
@[simp] theorem State.extend_cursor : (s.extend fs ks tf tk).cursor = s.cursor := rfl
@[simp] theorem State.extend_env : (s.extend fs ks tf tk).env = s.env := rfl

theorem State.length_extend_functions :
    (s.extend fs ks tf tk).program.functions.length = s.program.functions.length + fs.length := by
  simp [State.extend]

theorem State.length_extend_klasses :
    (s.extend fs ks tf tk).program.klasses.length = s.program.klasses.length + ks.length := by
  simp [State.extend]

theorem State.fn_extend_nil (j : Nat) : (s.extend [] ks tf tk).fn j = s.fn j := by
  simp [State.fn, State.extend]

theorem State.fn_extend_last {f : Function} :
    (s.extend [f] ks tf tk).fn s.program.functions.length = f := by
  simp [State.fn, State.extend, List.getD_eq_getElem?_getD]

theorem State.fn_extend_single {f : Function} (j : Nat) :
    (s.extend [f] ks tf tk).fn j = if j = s.program.functions.length then f else s.fn j := by
  split
  · rename_i hj
    rw [hj]
    exact State.fn_extend_last
  · rename_i hj
    rcases Nat.lt_or_gt_of_ne hj with hj | hj
    · exact State.fn_extend_of_lt hj
    · -- past both ends there is only the default function
      simp only [State.fn, State.extend, List.getD_eq_getElem?_getD]
      rw [List.getElem?_eq_none (by simp; omega), List.getElem?_eq_none (by omega)]

theorem State.curFn_extend (hc : s.cursor.fn < s.program.functions.length) :
    (s.extend fs ks tf tk).curFn = s.curFn :=
  State.fn_extend_of_lt hc

end Extend

theorem Registers.klasses {s s' : State} (h : Registers s s') : s.klasses <:+ s'.klasses := by
  obtain ⟨fs, ks, tf, tk, -, -, rfl⟩ := h
  exact List.suffix_append _ _

theorem Registers.functions {s s' : State} (h : Registers s s') : s.functions <:+ s'.functions := by
  obtain ⟨fs, ks, tf, tk, -, -, rfl⟩ := h
  exact List.suffix_append _ _

theorem Extends.of_registers {s s' : State} (h : Registers s s') : Extends s s' := by
  refine ⟨h.klasses, h.functions, ?_, ?_, ?_, fun j _ hj => ?_⟩
  all_goals obtain ⟨fs, ks, tf, tk, -, -, rfl⟩ := h
  · simp [State.length_extend_klasses]
  · simp [State.length_extend_functions]
  · rfl
  · exact State.fn_extend_of_lt hj

/-! ## Codes -/

section Codes

variable {c : Context} {s : State} {k : Nat}

theorem Inv.mem_klasses_of_code (h : Inv c s) {cls : DefId} (hk : s.kcode k = cls.index + 1) :
    (cls, k) ∈ s.klasses := by
  by_cases hn : k < s.program.klasses.length
  · obtain ⟨d, hm⟩ := h.klasses.exists_mem (Nat.zero_le k) hn
    rw [h.kcode_of_mem hm] at hk
    obtain rfl : d = cls := by
      cases d
      cases cls
      simpa using hk
    exact hm
  · rw [State.kcode, h.klasses.codeOf_of_not_mem (by omega)] at hk
    omega

theorem Inv.mem_of_lowered (h : Inv c s) {t : Graph.Ty} {ty : Tree.Ty}
    (hl : t.rename s.kcode = ty.lowered) : ∀ cls ∈ ty.classes, cls ∈ s.klasses.map Prod.fst := by
  intro cls hc
  cases ty <;> simp only [Tree.Ty.classes, List.mem_cons, List.not_mem_nil, or_false] at hc
  subst hc
  cases t <;> simp only [Graph.Ty.rename, Tree.Ty.lowered, reduceCtorEq] at hl
  exact List.mem_map.2 ⟨_, h.mem_klasses_of_code (Graph.Ty.klassPtr.inj hl), rfl⟩

theorem Inv.classes_registered (h : Inv c s) {d : DefId} {j : Nat} {f : FunctionDecl}
    (hm : (d, j) ∈ s.functions) (hf : c.functionDecl? d = some f) :
    ∀ cls ∈ f.classes, cls ∈ s.klasses.map Prod.fst := by
  obtain ⟨-, hp, hr⟩ := h.declared d j f hm hf
  intro cls hc
  rcases List.mem_append.1 hc with hc | hc
  · obtain ⟨p, hp', hc⟩ := List.mem_flatMap.1 hc
    obtain ⟨i, hi, rfl⟩ := List.getElem_of_mem hp'
    have hl : (s.fn j).params.length = f.params.length := by
      simpa [Tree.FunctionDecl.loweredParams] using congrArg List.length hp
    have he := congrArg (·[i]?) hp
    simp only [List.getElem?_map, Tree.FunctionDecl.loweredParams, List.getElem?_eq_getElem hi,
      List.getElem?_eq_getElem (hl ▸ hi), Option.map_some, Option.some.injEq] at he
    exact h.mem_of_lowered (congrArg Var.ty he) cls hc
  · exact h.mem_of_lowered hr cls hc

end Codes

/-! ## What registration keeps -/

section Keep

variable {c : Context} {s : State}

theorem not_mem_keys_of_lookup {tb : List (DefId × Nat)} {d : DefId} (h : tb.lookup d = none) :
    d ∉ tb.map Prod.fst := by
  intro hm
  obtain ⟨e, he, rfl⟩ := List.mem_map.1 hm
  have := List.lookup_eq_none_iff.1 h e he
  simp at this

theorem Inv.addKlass (h : Inv c s) {cls : DefId} (hn : s.klasses.lookup cls = none) :
    Inv c (s.extend [] [c.klassOf cls] [] [(cls, s.program.klasses.length)]) := by
  have tk : Table (s.extend [] [c.klassOf cls] [] [(cls, s.program.klasses.length)]).klasses 0
      (s.program.klasses.length + 1) := h.klasses.push (not_mem_keys_of_lookup hn)
  -- the old positions keep their codes
  have hcode : ∀ k < s.program.klasses.length,
      (s.extend [] [c.klassOf cls] [] [(cls, s.program.klasses.length)]).kcode k = s.kcode k :=
    fun k hk => Table.codeOf_suffix h.klasses tk (List.suffix_cons _ _) hk
  refine ⟨by simpa [State.length_extend_klasses] using tk,
    by simpa [State.length_extend_functions] using h.functions, fun c' k hm => ?_,
    fun d j f hm hf => ?_, fun j => ?_, fun j hj hb => ?_, ?_, fun e he => ?_, ?_⟩
  · rcases List.mem_cons.1 hm with he | hm
    · obtain ⟨rfl, rfl⟩ := Prod.mk.inj he
      simp [State.extend]
    · have hk := (h.klasses.lt_of_mem hm).2
      simp only [State.extend, List.getElem?_append_left hk]
      exact h.klassOf c' k hm
  · obtain ⟨hn', hp, hr⟩ := h.declared d j f hm hf
    have hb := h.below j
    refine ⟨by rw [State.fn_extend_nil]; exact hn', ?_, ?_⟩
    · rw [State.fn_extend_nil, ← hp]
      exact List.map_congr_left fun v hv => Var.rename_congr (hb.params v hv) hcode
    · rw [State.fn_extend_nil, ← hr]
      exact Graph.Ty.rename_congr hb.returnTy hcode
  · rw [State.fn_extend_nil, State.length_extend_functions, State.length_extend_klasses]
    exact (h.below j).mono (by simp) (by simp)
  · rw [State.fn_extend_nil] at hb ⊢
    exact h.fresh j (by simpa [State.length_extend_functions] using hj) hb
  · show (s.extend [] _ [] _).curFn.blocks ≠ []
    rw [State.curFn, State.extend_cursor, State.fn_extend_nil]
    exact h.entered
  · rw [State.length_extend_klasses]
    exact Operand.Below.mono (by simp) (h.env e he)
  · simpa [State.length_extend_functions] using h.cursor

theorem Inv.addFunction (h : Inv c s) {id : DefId} (hn : s.functions.lookup id = none)
    {f : Function} (hb : f.blocks = []) (hv : f.nextVar = 0) (hsp : f.span = Span.dummy)
    (hp : ∀ v ∈ f.params, v.Below s.program.klasses.length)
    (hr : f.returnTy.Below s.program.klasses.length)
    (hd : ∀ F, c.functionDecl? id = some F → f.name = c.functionName F ∧
      f.params.map (Var.rename s.kcode) = F.loweredParams ∧ f.returnTy.rename s.kcode = F.returnTy.lowered) :
    Inv c (s.extend [f] [] [(id, s.program.functions.length)] []) := by
  have tf : Table (s.extend [f] [] [(id, s.program.functions.length)] []).functions 1
      (s.program.functions.length + 1) := h.functions.push (not_mem_keys_of_lookup hn)
  have hlt : ∀ j, (d : DefId) → (d, j) ∈ s.functions → j < s.program.functions.length :=
    fun j d hm => (h.functions.lt_of_mem hm).2
  refine ⟨by simpa [State.length_extend_klasses] using h.klasses,
    by simpa [State.length_extend_functions] using tf, fun c' k hm => ?_,
    fun d j F hm hF => ?_, fun j => ?_, fun j hj hb' => ?_, ?_, fun e he => ?_, ?_⟩
  · simp only [State.extend, List.append_nil]
    exact h.klassOf c' k hm
  · rcases List.mem_cons.1 hm with he | hm
    · obtain ⟨rfl, rfl⟩ := Prod.mk.inj he
      rw [State.fn_extend_last]
      exact hd F hF
    · rw [State.fn_extend_of_lt (hlt j d hm)]
      exact h.declared d j F hm hF
  · rw [State.length_extend_functions, State.length_extend_klasses, List.length_nil, Nat.add_zero,
      State.fn_extend_single]
    split
    · exact ⟨by simp [hb], hp, hr⟩
    · exact (h.below j).mono (by simp) (Nat.le_refl _)
  · rw [State.length_extend_functions] at hj
    rw [State.fn_extend_single] at hb' ⊢
    by_cases hj' : j = s.program.functions.length
    · rw [if_pos hj']
      exact ⟨hv, hsp⟩
    · rw [if_neg hj'] at hb' ⊢
      exact h.fresh j (by simp at hj; omega) hb'
  · show (s.extend _ [] _ []).curFn.blocks ≠ []
    rw [State.curFn_extend h.cursor]
    exact h.entered
  · rw [State.length_extend_klasses, List.length_nil, Nat.add_zero]
    exact h.env e he
  · rw [State.extend_cursor, State.length_extend_functions]
    exact Nat.lt_succ_of_lt h.cursor

end Keep

/-! ## One run's registrations -/

/-- A registering step of one run from `s` to `s'`: it keeps `Inv`, only appends functions
without blocks and classes with their table entries, and the class and function ids it enters
lie among `ks` and `fs`. -/
structure Registration (c : Context) (s s' : State) (ks fs : List DefId) : Prop where
  inv : Inv c s'
  registers : Registers s s'
  klasses : ∀ k ∈ s'.klasses.map Prod.fst, k ∈ s.klasses.map Prod.fst ∨ k ∈ ks
  functions : ∀ d ∈ s'.functions.map Prod.fst, d ∈ s.functions.map Prod.fst ∨ d ∈ fs

namespace Registration

variable {c : Context} {s s₁ s₂ : State} {ks ks' fs fs' : List DefId}

theorem refl (h : Inv c s) (ks fs : List DefId) : Registration c s s ks fs :=
  ⟨h, Registers.refl s, fun _ hk => .inl hk, fun _ hd => .inl hd⟩

theorem trans (h₁ : Registration c s s₁ ks fs) (h₂ : Registration c s₁ s₂ ks' fs') :
    Registration c s s₂ (ks ++ ks') (fs ++ fs') := by
  refine ⟨h₂.inv, h₁.registers.trans h₂.registers, fun k hk => ?_, fun d hd => ?_⟩
  · rcases h₂.klasses k hk with hk | hk
    · exact (h₁.klasses k hk).imp_right (List.mem_append_left _)
    · exact .inr (List.mem_append_right _ hk)
  · rcases h₂.functions d hd with hd | hd
    · exact (h₁.functions d hd).imp_right (List.mem_append_left _)
    · exact .inr (List.mem_append_right _ hd)

theorem mono (h : Registration c s s₁ ks fs) (hk : ks ⊆ ks') (hf : fs ⊆ fs') :
    Registration c s s₁ ks' fs' :=
  ⟨h.inv, h.registers, fun k hm => (h.klasses k hm).imp_right (@hk k),
    fun d hm => (h.functions d hm).imp_right (@hf d)⟩

theorem kcode (h : Registration c s s₁ ks fs) (h₀ : Inv c s) {k : Nat}
    (hk : k < s.program.klasses.length) : s₁.kcode k = s.kcode k :=
  (Extends.of_registers h.registers).kcode h₀ h.inv hk

theorem rename {α : Type} [Coded α] (h : Registration c s s₁ ks fs) (h₀ : Inv c s) {a : α}
    (ha : Coded.Below s.program.functions.length s.program.klasses.length a) :
    Coded.rename s₁.fcode s₁.kcode a = Coded.rename s.fcode s.kcode a :=
  (Extends.of_registers h.registers).rename h₀ h.inv ha

theorem nk (h : Registration c s s₁ ks fs) :
    s.program.klasses.length ≤ s₁.program.klasses.length :=
  (Extends.of_registers h.registers).nk

theorem mem_klasses (h : Registration c s s₁ ks fs) {k : DefId} (hk : k ∈ s.klasses.map Prod.fst) :
    k ∈ s₁.klasses.map Prod.fst :=
  (h.registers.klasses.map Prod.fst).subset hk

theorem mem_functions (h : Registration c s s₁ ks fs) {d : DefId}
    (hd : d ∈ s.functions.map Prod.fst) : d ∈ s₁.functions.map Prod.fst :=
  (h.registers.functions.map Prod.fst).subset hd

end Registration

section Steps

variable {c : Context} {s s' : State}

theorem klassId_registration {cls : DefId} {k : Nat} (h : Inv c s)
    (e : klassId cls c s = .ok (k, s')) :
    Registration c s s' [cls] [] ∧ (cls, k) ∈ s'.klasses := by
  rw [klassId_run] at e
  cases hk : s.klasses.lookup cls with
  | some k' =>
    rw [hk] at e; cases e
    exact ⟨.refl h _ _, h.klasses.lookup_eq_some.1 hk⟩
  | none =>
    rw [hk] at e; cases e
    refine ⟨⟨h.addKlass hk, ⟨[], _, [], _, by simp, by simp, rfl⟩, fun k hk' => ?_,
      fun d hd => .inl hd⟩, by simp⟩
    simp only [State.extend_klasses, List.cons_append, List.nil_append, List.map_cons,
      List.mem_cons] at hk'
    rcases hk' with rfl | hk'
    · exact .inr (List.mem_singleton_self _)
    · exact .inl hk'

theorem lowerType_registration {ty : Tree.Ty} {t : Graph.Ty} (h : Inv c s)
    (e : lowerType ty c s = .ok (t, s')) :
    Registration c s s' ty.classes [] ∧ t.rename s'.kcode = ty.lowered ∧
      t.Below s'.program.klasses.length ∧ ∀ cls ∈ ty.classes, cls ∈ s'.klasses.map Prod.fst := by
  cases ty
  case classRef cls =>
    simp only [lowerType, map_run] at e
    split at e
    · rename_i k s₁ hk
      cases e
      obtain ⟨r, hm⟩ := klassId_registration h hk
      refine ⟨r, by simp [r.inv.kcode_of_mem hm, Tree.Ty.lowered], (r.inv.klasses.lt_of_mem hm).2,
        fun cls' hc => ?_⟩
      obtain rfl : cls' = cls := by simpa [Tree.Ty.classes] using hc
      exact List.mem_map.2 ⟨_, hm, rfl⟩
    · cases e
  all_goals
    obtain ⟨rfl, rfl⟩ := pure_ok e
    exact ⟨.refl h _ _, rfl, trivial, fun _ hc => by simp [Tree.Ty.classes] at hc⟩

theorem lowerParams_registration : ∀ {ps : List Tree.Param} {s s' : State} {vs : List Var},
    Inv c s → (ps.mapM (fun p => do pure (⟨← lowerType p.ty, p.name⟩ : Var)) : LowerM (List Var)) c s =
      .ok (vs, s') →
    Registration c s s' (ps.flatMap (·.ty.classes)) [] ∧
      vs.map (Var.rename s'.kcode) = ps.map (fun p => ⟨p.ty.lowered, p.name⟩) ∧
      (∀ v ∈ vs, v.Below s'.program.klasses.length) ∧
      ∀ cls ∈ ps.flatMap (·.ty.classes), cls ∈ s'.klasses.map Prod.fst
  | [], s, s', vs, h, e => by
    obtain ⟨rfl, rfl⟩ := pure_ok e
    exact ⟨.refl h _ _, rfl, by simp, by simp⟩
  | p :: ps, s, s', vs, h, e => by
    rw [List.mapM_cons] at e
    obtain ⟨v, s₁, e₁, e⟩ := bind_ok e
    obtain ⟨vs', s₂, e₂, e⟩ := bind_ok e
    obtain ⟨rfl, rfl⟩ := pure_ok e
    obtain ⟨t, s₃, e₃, e₁⟩ := bind_ok e₁
    obtain ⟨rfl, rfl⟩ := pure_ok e₁
    obtain ⟨r₁, hl, hb, hc₁⟩ := lowerType_registration h e₃
    obtain ⟨r₂, hl', hb', hc₂⟩ := lowerParams_registration r₁.inv e₂
    refine ⟨(r₁.trans r₂).mono (by simp) (by simp), ?_, ?_, ?_⟩
    · rw [List.map_cons, List.map_cons, hl']
      congr 1
      show (⟨t.rename s'.kcode, p.name⟩ : Var) = ⟨p.ty.lowered, p.name⟩
      rw [← hl, Graph.Ty.rename_congr hb fun k hk => r₂.kcode r₁.inv hk]
    · intro v hv
      rcases List.mem_cons.1 hv with rfl | hv
      · exact Graph.Ty.Below.mono hb r₂.nk
      · exact hb' v hv
    · intro cls hc
      rcases List.mem_append.1 (List.flatMap_cons ▸ hc) with hc | hc
      · exact r₂.mem_klasses (hc₁ cls hc)
      · exact hc₂ cls hc

theorem lookup_eq_none_of_not_mem {tb : List (DefId × Nat)} {d : DefId}
    (h : d ∉ tb.map Prod.fst) : tb.lookup d = none :=
  List.lookup_eq_none_iff.2 fun e he => by
    have : d ≠ e.1 := fun hd => h (List.mem_map.2 ⟨e, he, hd.symm⟩)
    simpa using this

theorem Registration.addFunction {id : DefId} (h : Inv c s) (hn : s.functions.lookup id = none)
    {f : Function} (hb : f.blocks = []) (hv : f.nextVar = 0) (hsp : f.span = Span.dummy)
    (hp : ∀ v ∈ f.params, v.Below s.program.klasses.length)
    (hr : f.returnTy.Below s.program.klasses.length)
    (hd : ∀ F, c.functionDecl? id = some F → f.name = c.functionName F ∧
      f.params.map (Var.rename s.kcode) = F.loweredParams ∧ f.returnTy.rename s.kcode = F.returnTy.lowered) :
    Registration c s (s.extend [f] [] [(id, s.program.functions.length)] []) [] [id] := by
  refine ⟨h.addFunction hn hb hv hsp hp hr hd,
    ⟨[f], [], [(id, s.program.functions.length)], [], by simp [hb], by simp, rfl⟩,
    fun k hk => .inl (by simpa using hk), fun d hd => ?_⟩
  simp only [State.extend_functions, List.cons_append, List.nil_append, List.map_cons,
    List.mem_cons] at hd
  rcases hd with rfl | hd
  · exact .inr (List.mem_singleton_self _)
  · exact .inl hd

/-- The function registered for an id: the one registered before, or a new one, with the
declared signature if a function is declared under the id and with the given types otherwise.
Either way the classes of a declared signature are registered afterwards. -/
theorem declaredFunction_registration {id : DefId} {name : String} {argTys : List Graph.Ty}
    {ret : Graph.Ty} {j : Nat} (h : Inv c s) (ha : ∀ t ∈ argTys, t.Below s.program.klasses.length)
    (hr : ret.Below s.program.klasses.length)
    (e : declaredFunction id name argTys ret c s = .ok (j, s')) :
    Registration c s s' (((c.functionDecl? id).map (·.classes)).getD []) [id] ∧
      (id, j) ∈ s'.functions ∧
      ∀ F, c.functionDecl? id = some F → ∀ cls ∈ F.classes, cls ∈ s'.klasses.map Prod.fst := by
  unfold declaredFunction at e
  simp only [bind_run, get_run] at e
  cases hf : s.functions.lookup id with
  | some j' =>
    rw [hf] at e
    obtain ⟨rfl, rfl⟩ := pure_ok e
    have hm := h.functions.lookup_eq_some.1 hf
    exact ⟨.refl h _ _, hm, fun F hF => h.classes_registered hm hF⟩
  | none =>
    rw [hf] at e
    obtain ⟨o, s₁, h₁, e⟩ := bind_ok e
    rw [functionDecl?_run] at h₁; cases h₁
    cases hF : c.functionDecl? id with
    | none =>
      rw [hF] at e
      obtain ⟨rfl, rfl⟩ := addFunction_enter e
      refine ⟨(Registration.addFunction h hf rfl rfl rfl ?_ hr fun F hF' => ?_).mono
        (by simp) (List.Subset.refl _), by simp, fun F hF' => by simp at hF'⟩
      · intro v hv
        obtain ⟨⟨t, i⟩, hti, rfl⟩ := List.mem_map.1 hv
        exact ha t (List.fst_mem_of_mem_zipIdx hti)
      · simp [hF] at hF'
    | some F =>
      rw [hF] at e
      obtain ⟨nm, s₃, h₃, e⟩ := bind_ok e
      rw [functionName_run] at h₃; cases h₃
      obtain ⟨ps, s₄, h₄, e⟩ := bind_ok e
      obtain ⟨rt, s₅, h₅, e⟩ := bind_ok e
      obtain ⟨rfl, rfl⟩ := addFunction_enter e
      obtain ⟨r₄, hl₄, hb₄, hc₄⟩ := lowerParams_registration h h₄
      obtain ⟨r₅, hl₅, hb₅, hc₅⟩ := lowerType_registration r₄.inv h₅
      -- the id is still unregistered once the signature's classes are
      have hn : s₅.functions.lookup id = none := by
        refine lookup_eq_none_of_not_mem fun hm => ?_
        rcases (r₄.trans r₅).functions id hm with hm | hm
        · exact not_mem_keys_of_lookup hf hm
        · simp at hm
      have hp₅ : ps.map (Var.rename s₅.kcode) = F.loweredParams := by
        rw [Tree.FunctionDecl.loweredParams, ← hl₄]
        exact List.map_congr_left fun v hv => Var.rename_congr (hb₄ v hv) fun k hk => r₅.kcode r₄.inv hk
      have r : Registration c s₅ (s₅.extend [(⟨c.functionName F, ps, rt, [], Span.dummy, 0⟩ :
          Function)] [] [(id, s₅.program.functions.length)] []) [] [id] :=
        Registration.addFunction r₅.inv hn rfl rfl rfl
          (fun v hv => Var.Below.mono (hb₄ v hv) r₅.nk) hb₅ fun F' hF' => by
          obtain rfl : F' = F := by rw [hF] at hF'; exact (Option.some.inj hF').symm
          exact ⟨rfl, hp₅, hl₅⟩
      refine ⟨((r₄.trans r₅).trans r).mono (by simp [Tree.FunctionDecl.classes]) (by simp),
        by simp, fun F' hF' cls hc => ?_⟩
      obtain rfl : F = F' := Option.some.inj hF'
      have hk : cls ∈ s₅.klasses.map Prod.fst := by
        rcases List.mem_append.1 hc with hc | hc
        · exact r₅.mem_klasses (hc₄ cls hc)
        · exact hc₅ cls hc
      exact r.mem_klasses hk

theorem klassId_ok (cls : DefId) (c : Context) (s : State) :
    ∃ k s', klassId cls c s = .ok (k, s') := by
  rw [klassId_run]
  cases s.klasses.lookup cls <;> exact ⟨_, _, rfl⟩

theorem lowerType_ok (ty : Tree.Ty) (c : Context) (s : State) :
    ∃ t s', lowerType ty c s = .ok (t, s') := by
  cases ty
  case classRef cls =>
    obtain ⟨k, s', e⟩ := klassId_ok cls c s
    exact ⟨.klassPtr k, s', by simp only [lowerType, map_run, e]⟩
  all_goals exact ⟨_, _, rfl⟩

theorem lowerParams_ok (c : Context) : ∀ (ps : List Tree.Param) (s : State),
    ∃ vs s', (ps.mapM (fun p => do pure (⟨← lowerType p.ty, p.name⟩ : Var)) : LowerM (List Var)) c s =
      .ok (vs, s')
  | [], s => ⟨[], s, rfl⟩
  | p :: ps, s => by
    obtain ⟨t, s₁, e₁⟩ := lowerType_ok p.ty c s
    obtain ⟨vs, s₂, e₂⟩ := lowerParams_ok c ps s₁
    have h₁ : (do pure (⟨← lowerType p.ty, p.name⟩ : Var) : LowerM Var) c s = .ok (⟨t, p.name⟩, s₁) := by
      rw [bind_of_ok e₁]
      rfl
    refine ⟨⟨t, p.name⟩ :: vs, s₂, ?_⟩
    rw [List.mapM_cons, bind_of_ok h₁, bind_of_ok e₂]
    rfl

theorem declaredFunction_ok (id : DefId) (name : String) (argTys : List Graph.Ty) (ret : Graph.Ty)
    (c : Context) (s : State) : ∃ j s', declaredFunction id name argTys ret c s = .ok (j, s') := by
  unfold declaredFunction
  simp only [bind_run, get_run]
  cases s.functions.lookup id with
  | some j => exact ⟨j, s, rfl⟩
  | none =>
    simp only [bind_run, functionDecl?_run]
    cases c.functionDecl? id with
    | none => exact ⟨_, _, rfl⟩
    | some F =>
      simp only [bind_run, functionName_run]
      obtain ⟨vs, s₁, e₁⟩ := lowerParams_ok c F.params s
      rw [e₁]
      obtain ⟨t, s₂, e₂⟩ := lowerType_ok F.returnTy c s₁
      simp only [e₂]
      exact ⟨_, _, rfl⟩

end Steps

/-! ## Registering in two runs -/

section Two

variable {c₁ c₂ : Context} {s s' t t' : State}

theorem Agree.symm (a : Agree s t) : Agree t s :=
  ⟨a.block.symm, a.fn.symm, a.curFn.symm, a.env.symm, a.loops.symm, a.landing.symm, a.current.symm⟩

theorem Agree.registers (a : Agree s t) {c c' : Context} (h : Inv c s) (h' : Inv c' s')
    (hr : Registers s s') : Agree s' t := by
  have g := Extends.of_registers hr
  obtain ⟨fs, ks, tf, tk, -, -, rfl⟩ := hr
  refine ⟨a.block, ?_, ?_, ?_, a.loops, a.landing, a.current⟩
  · rw [a.fn, State.extend_cursor]
    exact (g.fcode h h' h.cursor).symm
  · rw [a.curFn, State.curFn_extend h.cursor]
    exact Function.rename_congr (h.below _) (fun _ hj => (g.fcode h h' hj).symm)
      fun _ hk => (g.kcode h h' hk).symm
  · rw [a.env, State.extend_env]
    exact List.map_congr_left fun e he => by
      rw [show e.2.rename (s.extend fs ks tf tk).kcode = e.2.rename s.kcode from
        Operand.rename_congr (fun _ hk => g.kcode h h' hk) (h.env e he)]

theorem Covers.of_registration {c : Context} {ks fs : List DefId} (r : Registration c s s' ks fs)
    (hk : ∀ k ∈ ks, k ∈ t'.klasses.map Prod.fst) (hf : ∀ d ∈ fs, d ∈ t'.functions.map Prod.fst) :
    Covers s s' t' :=
  ⟨fun k hm => (r.klasses k hm).imp_right (hk k), fun d hm => (r.functions d hm).imp_right (hf d)⟩

theorem Step.of_registration {ks fs ks' fs' : List DefId} (rel : Related c₁ c₂ s t)
    (r₁ : Registration c₁ s s' ks fs) (r₂ : Registration c₂ t t' ks' fs')
    (hk : ∀ k ∈ ks, k ∈ t'.klasses.map Prod.fst) (hf : ∀ d ∈ fs, d ∈ t'.functions.map Prod.fst) :
    Step c₁ c₂ s s' t t' :=
  ⟨rel, ⟨rel.decls, r₁.inv, r₂.inv,
      ((rel.agree.registers rel.inv₁ r₁.inv r₁.registers).symm.registers rel.inv₂ r₂.inv
        r₂.registers).symm⟩,
    Extends.of_registers r₁.registers, Extends.of_registers r₂.registers,
    Covers.of_registration r₁ hk hf⟩

end Two

end Isel.Lower
