import Isel.Proofs.Reordering

/-! # Declaration order

Selection visits the declarations of a module in their order and registers a function or a
class the first time something names it, so the positions of a selected program follow the
order of the module. Nothing else does. Put the declarations of a module, each with an id of
its own, in another order that keeps the order of the global initializers: selection then
succeeds for both orders or for neither, and one renaming of positions, one to one, takes the
first program to the second on the global initializer, on every function with a body and on
every declared class.

The renaming goes through codes: a position of the first run has the code of the `DefId` its
table enters it under, and the second run enters the same `DefId` at the position the code
decodes to there.
-/

namespace Isel.Graph.Function

variable {f f' k k' : Nat → Nat}

theorem rename_rename (fn : Function) :
    (fn.rename f k).rename f' k' = fn.rename (f' ∘ f) (k' ∘ k) := by
  simp [rename, Var.rename_rename, Ty.rename_rename, Block.rename_rename, Function.comp_def]

@[simp] theorem rename_id (fn : Function) : fn.rename id id = fn := by
  have hv : Var.rename id = id := funext Var.rename_id
  have hb : Block.rename id id = id := funext Block.rename_id
  simp [rename, hv, hb]

end Isel.Graph.Function

namespace Isel.Lower

open Isel.Graph (Function)
open Isel.Tree (DefId ClassInfo FunctionDecl Decl Module)

theorem rename_closeGlobalInit (g : Function) (c : Nat) (f k : Nat → Nat) :
    (closeGlobalInit g c).rename f k = closeGlobalInit (g.rename f k) c := by
  unfold closeGlobalInit
  rw [Function.getD_blocks_rename, Graph.Block.isTerminal_rename]
  split
  · rfl
  · exact Function.rename_pushAt c _

/-! ## Decoding codes -/

def decodeOf (tb : List (DefId × Nat)) (c : Nat) : Nat :=
  ((tb.find? (·.1.index + 1 == c)).map (·.2)).getD 0

@[simp] theorem decodeOf_zero (tb : List (DefId × Nat)) : decodeOf tb 0 = 0 := by
  have hn : tb.find? (·.1.index + 1 == 0) = none := List.find?_eq_none.2 fun e _ => by simp
  unfold decodeOf
  rw [hn]
  rfl

namespace Table

variable {tb tb' : List (DefId × Nat)} {lo n n' j : Nat} {d : DefId}

theorem decodeOf_of_mem (h : Table tb lo n) (hm : (d, j) ∈ tb) : decodeOf tb (d.index + 1) = j := by
  obtain ⟨e, he⟩ := Option.isSome_iff_exists.1
    (List.find?_isSome.2 ⟨_, hm, by simp⟩ : (tb.find? (·.1.index + 1 == d.index + 1)).isSome)
  -- the entry found is under the same `DefId`, and the table has one entry under it
  have hd : e.1 = d := by
    have he' := List.find?_some he
    obtain ⟨⟨i⟩, _⟩ := e
    cases d
    simpa using he'
  have hej : e = (d, j) := List.inj_on_of_nodup_map h.keys (List.mem_of_find?_eq_some he) hm hd
  unfold decodeOf
  rw [he, hej]
  rfl

theorem decodeOf_codeOf (h : Table tb lo n) (hlo : lo ≤ 1) (hj : j < n) :
    decodeOf tb (codeOf tb j) = j := by
  rcases Nat.lt_or_ge j lo with hl | hl
  · -- only position `0` lies below the table
    obtain rfl : j = 0 := by omega
    rw [h.codeOf_of_not_mem (by omega), decodeOf_zero]
  · obtain ⟨d, hm⟩ := h.exists_mem hl hj
    rw [h.codeOf_of_mem hm, h.decodeOf_of_mem hm]

theorem mem_decode (h : Table tb lo n) (h' : Table tb' lo n')
    (hkeys : ∀ d ∈ tb.map Prod.fst, d ∈ tb'.map Prod.fst) (hm : (d, j) ∈ tb) :
    (d, decodeOf tb' (codeOf tb j)) ∈ tb' := by
  obtain ⟨⟨d', j'⟩, hm', hd⟩ := List.mem_map.1 (hkeys d (List.mem_map_of_mem (f := Prod.fst) hm))
  obtain rfl : d' = d := hd
  rwa [h.codeOf_of_mem hm, h'.decodeOf_of_mem hm']

theorem decode_spec (h : Table tb lo n) (h' : Table tb' lo n') (hlo : lo ≤ 1)
    (hkeys : ∀ d ∈ tb.map Prod.fst, d ∈ tb'.map Prod.fst) (hj : j < n) :
    decodeOf tb' (codeOf tb j) < n' ∧ codeOf tb' (decodeOf tb' (codeOf tb j)) = codeOf tb j := by
  rcases Nat.lt_or_ge j lo with hl | hl
  · obtain rfl : j = 0 := by omega
    have := h'.le
    rw [h.codeOf_of_not_mem (by omega), decodeOf_zero, h'.codeOf_of_not_mem (by omega)]
    exact ⟨by omega, rfl⟩
  · obtain ⟨d, hm⟩ := h.exists_mem hl hj
    have hm' := h.mem_decode h' hkeys hm
    exact ⟨(h'.lt_of_mem hm').2, by rw [h'.codeOf_of_mem hm', h.codeOf_of_mem hm]⟩

theorem bijOn_decode (h : Table tb lo n) (h' : Table tb' lo n') (hlo : lo ≤ 1)
    (hkeys : ∀ d, d ∈ tb.map Prod.fst ↔ d ∈ tb'.map Prod.fst) :
    Set.BijOn (decodeOf tb' ∘ codeOf tb) (Set.Iio n) (Set.Iio n') := by
  have there := fun j (hj : j < n) => h.decode_spec h' hlo (fun d => (hkeys d).1) hj
  have back := fun j (hj : j < n') => h'.decode_spec h hlo (fun d => (hkeys d).2) hj
  refine ⟨fun j hj => (there j hj).1, fun j₁ h₁ j₂ h₂ he => ?_, fun j' hj' => ?_⟩
  · -- the code of a position survives the trip, and codes tell positions apart
    have he : decodeOf tb' (codeOf tb j₁) = decodeOf tb' (codeOf tb j₂) := he
    calc j₁ = decodeOf tb (codeOf tb j₁) := (h.decodeOf_codeOf hlo h₁).symm
      _ = decodeOf tb (codeOf tb' (decodeOf tb' (codeOf tb j₁))) := by rw [(there j₁ h₁).2]
      _ = decodeOf tb (codeOf tb' (decodeOf tb' (codeOf tb j₂))) := by rw [he]
      _ = decodeOf tb (codeOf tb j₂) := by rw [(there j₂ h₂).2]
      _ = j₂ := h.decodeOf_codeOf hlo h₂
  · refine ⟨decodeOf tb (codeOf tb' j'), (back j' hj').1, ?_⟩
    show decodeOf tb' (codeOf tb (decodeOf tb (codeOf tb' j'))) = j'
    rw [(back j' hj').2, h'.decodeOf_codeOf hlo hj']

end Table

theorem Inv.fn_eq_rename {c : Context} {S T : State} {f : Function} {j : Nat} (i : Inv c T)
    (hc : (T.fn j).rename T.fcode T.kcode = f.rename S.fcode S.kcode) :
    T.fn j = f.rename (decodeOf T.functions ∘ S.fcode) (decodeOf T.klasses ∘ S.kcode) := by
  -- decoding undoes the codes of the run that gave them
  have hf : ∀ c < T.program.functions.length, (decodeOf T.functions ∘ T.fcode) c = id c :=
    fun c hc => i.functions.decodeOf_codeOf le_rfl hc
  have hk : ∀ c < T.program.klasses.length, (decodeOf T.klasses ∘ T.kcode) c = id c :=
    fun c hc => i.klasses.decodeOf_codeOf (Nat.zero_le 1) hc
  calc T.fn j = ((T.fn j).rename T.fcode T.kcode).rename (decodeOf T.functions) (decodeOf T.klasses) := by
        rw [Function.rename_rename, Function.rename_congr (i.below j) hf hk, Function.rename_id]
    _ = f.rename (decodeOf T.functions ∘ S.fcode) (decodeOf T.klasses ∘ S.kcode) := by
        rw [hc, Function.rename_rename]

theorem Context.klassOf_of_decl {c : Context} {C : ClassInfo} {members : List Decl}
    (h : c.decl? C.defId = some (.klass C members)) : c.klassOf C.defId = ⟨C.name, C.layout⟩ := by
  simp [Context.klassOf, Context.classInfo?, h]

/-! ## Closing the global initializer -/

section Closing

variable {ctx : Context} {s s' : State}

theorem finishGlobalInit_run (hr : Ready s) : finishGlobalInit ctx s = .ok ((),
    if ({ s with cursor := s.globalCursor } : State).curBlock.isTerminal then
      { s with cursor := s.globalCursor }
    else ({ s with cursor := s.globalCursor } : State).push (.ret .unit)) := by
  have hp : ({ s with cursor := s.globalCursor } : State).Placed := hr.global
  unfold finishGlobalInit
  rw [bind_of_ok (show (modify fun s : State => { s with cursor := s.globalCursor } : LowerM Unit) ctx s
    = .ok ((), { s with cursor := s.globalCursor }) from rfl), bind_of_ok (isTerminated_run _ _ hp)]
  by_cases ht : ({ s with cursor := s.globalCursor } : State).curBlock.isTerminal
  · simp only [ht, if_true]
    rfl
  · simp [map_run, emit_run _ _ hp, State.reopen, ht]

/-- What closing the global initializer changes: the function at position `0` only, which it
closes, and no table. -/
structure Closes (s s' : State) : Prop where
  functions : s'.functions = s.functions
  klasses : s'.klasses = s.klasses
  programKlasses : s'.program.klasses = s.program.klasses
  length : s'.program.functions.length = s.program.functions.length
  globalInit : s'.program.globalInit = 0
  frame : ∀ j, j ≠ 0 → s'.fn j = s.fn j
  global : s'.fn 0 = closeGlobalInit (s.fn 0) s.globalCursor.block

theorem Closes.fcode (h : Closes s s') : s'.fcode = s.fcode := by
  simp only [State.fcode, h.functions]

theorem Closes.kcode (h : Closes s s') : s'.kcode = s.kcode := by
  simp only [State.kcode, h.klasses]

theorem Closes.getElem? (h : Closes s s') {j : Nat} (hj : j ≠ 0) (hl : j < s.program.functions.length) :
    s'.program.functions[j]? = some (s.fn j) := by
  rw [State.getElem?_functions (by rw [h.length]; exact hl), h.frame j hj]

theorem Closes.getElem?_zero (h : Closes s s') (hw : Walk s) :
    s'.program.functions[0]? = some (closeGlobalInit (s.fn 0) s.globalCursor.block) := by
  rw [State.getElem?_functions (by rw [h.length]; exact hw.length_pos), h.global]

theorem finishGlobalInit_closes (hw : Walk s) (h : finishGlobalInit ctx s = .ok ((), s')) :
    Closes s s' := by
  have hc : ({ s with cursor := s.globalCursor } : State).curBlock =
      (s.fn 0).blocks.getD s.globalCursor.block default := by
    show (s.fn s.globalCursor.fn).blocks.getD _ _ = _
    rw [hw.global]
  rw [finishGlobalInit_run hw.ready] at h
  cases h
  split
  · rename_i ht
    rw [hc] at ht
    exact ⟨rfl, rfl, rfl, rfl, hw.ready.globalInit, fun _ _ => rfl,
      by rw [closeGlobalInit, if_pos ht]; rfl⟩
  · rename_i ht
    rw [hc] at ht
    refine ⟨rfl, rfl, rfl, State.length_mapFn _ _ _, hw.ready.globalInit, fun j hj => ?_, ?_⟩
    · exact State.fn_mapFn_of_ne _ _ (by rw [hw.global]; exact Ne.symm hj)
    · -- the open end takes the `ret`
      rw [closeGlobalInit, if_neg ht]
      show (State.mapFn { s with cursor := s.globalCursor } s.globalCursor.fn _).fn 0 = _
      rw [hw.global, State.fn_mapFn_self { s with cursor := s.globalCursor } _ hw.length_pos]
      rfl

end Closing

/-! ## Runs of a module -/

def moduleRun (m : Module) (cfg : Config) : Except Fault State :=
  (((visitDecls m.decls *> finishGlobalInit).run (moduleContext m cfg)).run
    (State.start cfg.globalInitName)).map Prod.snd

section Run

variable {m m' : Module} {cfg : Config} {S T s' t' : State}

theorem select_eq_map (m : Module) (cfg : Config) :
    select m cfg = (moduleRun m cfg).map fun s => ⟨s.program, s.diagnostics⟩ := by
  unfold select moduleRun
  dsimp only
  cases hr : ((visitDecls m.decls *> finishGlobalInit).run (moduleContext m cfg)).run
      (State.start cfg.globalInitName) with
  | error e =>
    simp only [moduleContext] at hr
    simp only [hr]
    rfl
  | ok r =>
    simp only [moduleContext] at hr
    simp only [hr]
    rfl

theorem moduleRun_ok (h : moduleRun m cfg = .ok s') :
    ∃ S, (Decl.flatten m.decls).forM visitOwn (moduleContext m cfg)
        (State.start cfg.globalInitName) = .ok ((), S) ∧
      finishGlobalInit (moduleContext m cfg) S = .ok ((), s') := by
  unfold moduleRun at h
  cases hr : ((visitDecls m.decls *> finishGlobalInit).run (moduleContext m cfg)).run
      (State.start cfg.globalInitName) with
  | error e =>
    rw [hr] at h
    cases h
  | ok r =>
    obtain ⟨⟨⟩, t⟩ := r
    rw [hr] at h
    cases h
    obtain ⟨_, S, h₁, h₂⟩ := bind_ok (x := visitDecls m.decls) (f := fun _ => finishGlobalInit) hr
    rw [visitDecls_eq_forM] at h₁
    exact ⟨S, h₁, h₂⟩

theorem moduleRun_of_visits
    (h : (Decl.flatten m.decls).forM visitOwn (moduleContext m cfg)
      (State.start cfg.globalInitName) = .ok ((), S)) :
    ∃ s', moduleRun m cfg = .ok s' := by
  have hr : Ready S := visitDecls_ready m.decls (Ready.start cfg.globalInitName)
    (by rw [visitDecls_eq_forM]; exact h)
  unfold moduleRun
  show ∃ s', Except.map Prod.snd ((visitDecls m.decls >>= fun _ => finishGlobalInit) _ _) = _
  rw [visitDecls_eq_forM, bind_of_ok h, finishGlobalInit_run hr]
  exact ⟨_, rfl⟩

theorem selectModule_ok_iff :
    (∃ sel, selectModule m cfg = .ok sel) ↔
      ∃ S, (Decl.flatten m.decls).forM visitOwn (moduleContext m cfg)
        (State.start cfg.globalInitName) = .ok ((), S) := by
  simp only [selectModule_eq_ok, select_eq_map]
  constructor
  · rintro ⟨sel, h⟩
    cases hr : moduleRun m cfg with
    | error e => rw [hr] at h; cases h
    | ok s' =>
      obtain ⟨S, h₁, -⟩ := moduleRun_ok hr
      exact ⟨S, h₁⟩
  · rintro ⟨S, h⟩
    obtain ⟨s', hs'⟩ := moduleRun_of_visits h
    exact ⟨_, by rw [hs']; rfl⟩

end Run

/-! ## Two orders -/

/-- The programs of two states agree up to renaming function positions by `ρf` and class
positions by `ρk`, each one to one onto the positions of the second: the tables enter each
`DefId` at renamed positions, the global initializers and the functions with a body that `m`
declares are equal up to the renaming, and each class `m` declares has its declared name and
layout in both. -/
structure RenamedAlike (m : Module) (s s' : State) (ρf ρk : Nat → Nat) : Prop where
  functions : Set.BijOn ρf (Set.Iio s.program.functions.length) (Set.Iio s'.program.functions.length)
  klasses : Set.BijOn ρk (Set.Iio s.program.klasses.length) (Set.Iio s'.program.klasses.length)
  functionIds : ∀ d j, (d, j) ∈ s.functions → (d, ρf j) ∈ s'.functions
  klassIds : ∀ c k, (c, k) ∈ s.klasses → (c, ρk k) ∈ s'.klasses
  globalInit : s'.program.globalInit = ρf s.program.globalInit ∧
    s'.program.functions[s'.program.globalInit]? =
      (s.program.functions[s.program.globalInit]?).map (Function.rename ρf ρk)
  defined : ∀ F, Decl.function F ∈ Decl.flatten m.decls → F.origin = .defined → F.body.isSome →
    ∃ j, (F.defId, j) ∈ s.functions ∧
      s'.program.functions[ρf j]? = (s.program.functions[j]?).map (Function.rename ρf ρk)
  klass : ∀ C members, Decl.klass C members ∈ Decl.flatten m.decls →
    ∃ k, (C.defId, k) ∈ s.klasses ∧ s.program.klasses[k]? = some ⟨C.name, C.layout⟩ ∧
      s'.program.klasses[ρk k]? = some ⟨C.name, C.layout⟩

namespace Reorders

variable {m m' : Module} {cfg : Config} {S T s' t' : State}

theorem selects_iff (r : Reorders m m') :
    (∃ sel, selectModule m cfg = .ok sel) ↔ ∃ sel', selectModule m' cfg = .ok sel' := by
  rw [selectModule_ok_iff, selectModule_ok_iff]
  exact ⟨fun ⟨_, h⟩ => r.visits_ok h, fun ⟨_, h⟩ => r.symm.visits_ok h⟩

theorem klass_alike (r : Reorders m m')
    (e₁ : (Decl.flatten m.decls).forM visitOwn (moduleContext m cfg)
      (State.start cfg.globalInitName) = .ok ((), S))
    (e₂ : (Decl.flatten m'.decls).forM visitOwn (moduleContext m' cfg)
      (State.start cfg.globalInitName) = .ok ((), T))
    {C : ClassInfo} {members : List Decl} (hC : Decl.klass C members ∈ Decl.flatten m.decls) :
    ∃ k, (C.defId, k) ∈ S.klasses ∧ S.program.klasses[k]? = some ⟨C.name, C.layout⟩ ∧
      T.program.klasses[(decodeOf T.klasses ∘ S.kcode) k]? = some ⟨C.name, C.layout⟩ := by
  obtain ⟨A, B, hL⟩ := List.append_of_mem hC
  obtain ⟨u, u', eA, e, eB⟩ := run_split (hL ▸ e₁)
  obtain ⟨k, ek⟩ := visitOwn_klass e
  obtain ⟨-, hk⟩ := klassId_registration (prefix_visited r.ids hL eA).inv ek
  -- later visits only add to the class table
  have hL' : Decl.flatten m.decls = (A ++ [.klass C members]) ++ B := by
    rw [hL, List.append_assoc]; rfl
  have vB := suffix_visited r.ids hL' (prefix_visited r.ids hL' (forM_visitOwn_snoc eA e)) eB
  have hkS : (C.defId, k) ∈ S.klasses := vB.klasses.subset hk
  have hkT := (run_visited r.ids e₁).inv.klasses.mem_decode (run_visited r.ids' e₂).inv.klasses
    (r.registered e₁ e₂).2 hkS
  have d₁ : (moduleContext m cfg).decl? C.defId = some _ := moduleContext_decl r.ids hC
  have d₂ : (moduleContext m' cfg).decl? C.defId = some _ :=
    moduleContext_decl r.ids' (r.perm.symm.subset hC)
  refine ⟨k, hkS, ?_, ?_⟩
  · rw [(run_visited r.ids e₁).inv.klassOf _ _ hkS, Context.klassOf_of_decl d₁]
  · exact ((run_visited r.ids' e₂).inv.klassOf _ _ hkT).trans
      (congrArg some (Context.klassOf_of_decl d₂))

theorem global_alike (r : Reorders m m')
    (e₁ : (Decl.flatten m.decls).forM visitOwn (moduleContext m cfg)
      (State.start cfg.globalInitName) = .ok ((), S))
    (e₂ : (Decl.flatten m'.decls).forM visitOwn (moduleContext m' cfg)
      (State.start cfg.globalInitName) = .ok ((), T))
    (c₁ : Closes S s') (c₂ : Closes T t') :
    t'.program.functions[0]? = (s'.program.functions[0]?).map
      (Function.rename (decodeOf T.functions ∘ S.fcode) (decodeOf T.klasses ∘ S.kcode)) := by
  -- the global initializers ran through the same initializers from the same start
  obtain ⟨hg, hc⟩ := Prod.mk.inj (r.globalView e₁ e₂)
  rw [c₁.getElem?_zero (run_visited r.ids e₁).walk, c₂.getElem?_zero (run_visited r.ids' e₂).walk,
    Option.map_some, (run_visited r.ids' e₂).inv.fn_eq_rename hg, hc, rename_closeGlobalInit]

theorem defined_alike (r : Reorders m m')
    (e₁ : (Decl.flatten m.decls).forM visitOwn (moduleContext m cfg)
      (State.start cfg.globalInitName) = .ok ((), S))
    (e₂ : (Decl.flatten m'.decls).forM visitOwn (moduleContext m' cfg)
      (State.start cfg.globalInitName) = .ok ((), T))
    (c₁ : Closes S s') (c₂ : Closes T t') {F : FunctionDecl}
    (hF : Decl.function F ∈ Decl.flatten m.decls) (ho : F.origin = .defined) (hb : F.body.isSome) :
    ∃ j, (F.defId, j) ∈ S.functions ∧
      t'.program.functions[(decodeOf T.functions ∘ S.fcode) j]? = (s'.program.functions[j]?).map
        (Function.rename (decodeOf T.functions ∘ S.fcode) (decodeOf T.klasses ∘ S.kcode)) := by
  have i₁ := (run_visited r.ids e₁).inv
  have i₂ := (run_visited r.ids' e₂).inv
  obtain ⟨j, j', hj, hj', hc⟩ := r.selects_alike e₁ e₂ hF (by simp [ho]) hb
  have l₁ := i₁.functions.lt_of_mem hj
  have l₂ := i₂.functions.lt_of_mem hj'
  have hρ : (decodeOf T.functions ∘ S.fcode) j = j' := by
    simp only [Function.comp_apply, i₁.fcode_of_mem hj, i₂.functions.decodeOf_of_mem hj']
  refine ⟨j, hj, ?_⟩
  rw [hρ, c₂.getElem? (by omega) l₂.2, c₁.getElem? (by omega) l₁.2, Option.map_some,
    i₂.fn_eq_rename hc]

theorem renamedAlike (r : Reorders m m')
    (e₁ : (Decl.flatten m.decls).forM visitOwn (moduleContext m cfg)
      (State.start cfg.globalInitName) = .ok ((), S))
    (e₂ : (Decl.flatten m'.decls).forM visitOwn (moduleContext m' cfg)
      (State.start cfg.globalInitName) = .ok ((), T))
    (c₁ : Closes S s') (c₂ : Closes T t') :
    RenamedAlike m s' t' (decodeOf T.functions ∘ S.fcode) (decodeOf T.klasses ∘ S.kcode) := by
  have i₁ := (run_visited r.ids e₁).inv
  have i₂ := (run_visited r.ids' e₂).inv
  -- both runs register the same ids
  obtain ⟨rf, rk⟩ := r.registered e₁ e₂
  obtain ⟨rf', rk'⟩ := r.symm.registered e₂ e₁
  refine ⟨?_, ?_, ?_, ?_, ?_, ?_, ?_⟩
  · rw [c₁.length, c₂.length]
    exact i₁.functions.bijOn_decode i₂.functions le_rfl fun d => ⟨rf d, rf' d⟩
  · rw [c₁.programKlasses, c₂.programKlasses]
    exact i₁.klasses.bijOn_decode i₂.klasses (Nat.zero_le 1) fun d => ⟨rk d, rk' d⟩
  · rw [c₁.functions, c₂.functions]
    exact fun d j hm => i₁.functions.mem_decode i₂.functions rf hm
  · rw [c₁.klasses, c₂.klasses]
    exact fun c k hm => i₁.klasses.mem_decode i₂.klasses rk hm
  · have hρ0 : (decodeOf T.functions ∘ S.fcode) 0 = 0 := by
      simp only [Function.comp_apply, i₁.fcode_zero, decodeOf_zero]
    rw [c₁.globalInit, c₂.globalInit, hρ0]
    exact ⟨rfl, r.global_alike e₁ e₂ c₁ c₂⟩
  · intro F hF ho hb
    obtain ⟨j, hj, h⟩ := r.defined_alike e₁ e₂ c₁ c₂ hF ho hb
    exact ⟨j, c₁.functions ▸ hj, h⟩
  · intro C members hC
    obtain ⟨k, hk, h₁, h₂⟩ := r.klass_alike e₁ e₂ hC
    exact ⟨k, c₁.klasses ▸ hk, c₁.programKlasses ▸ h₁, c₂.programKlasses ▸ h₂⟩

end Reorders

/-- Declaration order does not matter: put the declarations of a module, each with an id of its
own, in another order that keeps the order of its global initializers, and selection succeeds
for both orders or for neither. When both succeed, one renaming of function positions and one
of class positions, both one to one and onto, take the first program to the second: the
global initializer, every function the module defines with a body, and every class the module
declares, with its declared name and layout. A call lowered before its callee is declared
goes, after renaming, to the function the declaration defines. -/
theorem selection_independent_of_order {m m' : Module} {cfg : Config}
    (hids : ((Decl.flatten m.decls).map Decl.defId).Nodup) (hperm : m'.decls.Perm m.decls)
    (hinits : Decl.globalInits m'.decls = Decl.globalInits m.decls) :
    ((∃ sel, selectModule m cfg = .ok sel) ↔ ∃ sel', selectModule m' cfg = .ok sel') ∧
      ∀ s s', moduleRun m cfg = .ok s → moduleRun m' cfg = .ok s' →
        ∃ ρf ρk, RenamedAlike m s s' ρf ρk := by
  have r : Reorders m m' := by
    refine ⟨?_, hids, hinits⟩
    rw [Decl.flatten_eq_flatMap, Decl.flatten_eq_flatMap]
    exact hperm.flatMap_right _
  refine ⟨r.selects_iff, fun s s' h₁ h₂ => ?_⟩
  obtain ⟨S, e₁, f₁⟩ := moduleRun_ok h₁
  obtain ⟨T, e₂, f₂⟩ := moduleRun_ok h₂
  have c₁ := finishGlobalInit_closes (run_visited r.ids e₁).walk f₁
  have c₂ := finishGlobalInit_closes (run_visited r.ids' e₂).walk f₂
  exact ⟨_, _, r.renamedAlike e₁ e₂ c₁ c₂⟩

/-- `fun main() { g() }; fun g(): Int = 1`: a call lowered before its callee is declared. -/
def callerFirst : Module :=
  let sp : Span := ⟨0, 0, 1, 1⟩
  ⟨"calls", [.function ⟨⟨0⟩, "main", [], .unit,
      some (.block [.node (.call ⟨⟨1⟩, "g", .function⟩ none none []) .int sp]), .defined, false,
      none, sp⟩,
    .function ⟨⟨1⟩, "g", [], .int, some (.expression (.node (.literal (.int 1)) .int sp)),
      .defined, false, none, sp⟩]⟩

theorem callerFirst_reversed_alike :
    ((∃ sel, selectModule callerFirst {} = .ok sel) ↔
        ∃ sel', selectModule { callerFirst with decls := callerFirst.decls.reverse } {} = .ok sel') ∧
      ∀ s s', moduleRun callerFirst {} = .ok s →
        moduleRun { callerFirst with decls := callerFirst.decls.reverse } {} = .ok s' →
        ∃ ρf ρk, RenamedAlike callerFirst s s' ρf ρk :=
  selection_independent_of_order (by decide) (List.reverse_perm _) rfl

end Isel.Lower
