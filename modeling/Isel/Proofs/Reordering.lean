import Isel.Proofs.LockstepVisits

/-!
# Two orders of the same declarations

A module whose declarations are those of another in another order (`Reorders`): the same
declarations, each with an id of its own, and the fields with initializers in the same order.
Selection visits the two depth-first lists one declaration at a time. Before any declaration
the two runs are poised (`Reorders.poised`): what each visited before leaves the function of the
declaration unentered, since ids are distinct, and before a field with an initializer both runs
have lowered the same initializers in the same order, so their global initializers agree up to
codes. So the second run visits every declaration as the first does: it succeeds whenever the
first does (`Reorders.visits_ok`), registers every function and class the first registers
(`Reorders.registered`), selects every function with a body to the same function up to codes
(`Reorders.selects_alike`), and ends with the same global initializer up to codes
(`Reorders.globalView`).
-/

namespace Isel.Tree

theorem Decl.flatten_eq_flatMap (ds : List Decl) : Decl.flatten ds = ds.flatMap Decl.flattenOne := by
  induction ds with
  | nil => rfl
  | cons d ds ih => rw [Decl.flatten, List.flatMap_cons, ih]

end Isel.Tree

namespace Isel.Lower

open Isel.Graph (Function)
open Isel.Tree (Expr FieldDecl FunctionDecl Decl DefId Module)

/-! ## Declarations with ids of their own -/

theorem prefix_eq_of_nodup {α : Type} {x : α} : ∀ {P P' Q Q' : List α},
    (P ++ x :: Q).Nodup → P ++ x :: Q = P' ++ x :: Q' → P = P'
  | [], [], _, _, _, _ => rfl
  | [], y :: P', Q, Q', hn, he => by
    -- `x` heads the list, and would come again after `P'`
    simp only [List.nil_append, List.cons_append, List.cons.injEq] at he
    obtain ⟨rfl, rfl⟩ := he
    simp at hn
  | y :: P, [], Q, Q', hn, he => by
    simp only [List.nil_append, List.cons_append, List.cons.injEq] at he
    obtain ⟨rfl, -⟩ := he
    simp at hn
  | y :: P, y' :: P', Q, Q', hn, he => by
    simp only [List.cons_append, List.cons.injEq] at he
    obtain ⟨rfl, he⟩ := he
    rw [prefix_eq_of_nodup (List.nodup_cons.1 hn).2 he]

theorem ids_split {L A B : List Decl} {D : Decl} (hnd : (L.map Decl.defId).Nodup)
    (hL : L = A ++ D :: B) :
    (A.map Decl.defId).Nodup ∧ (B.map Decl.defId).Nodup ∧ (∀ D' ∈ A, D'.defId ≠ D.defId) ∧
      (∀ D' ∈ B, D'.defId ≠ D.defId) ∧ ∀ D₁ ∈ A, ∀ D₂ ∈ B, D₁.defId ≠ D₂.defId := by
  rw [hL, List.map_append, List.nodup_append, List.map_cons, List.nodup_cons] at hnd
  obtain ⟨hA, ⟨hD, hB⟩, hdis⟩ := hnd
  refine ⟨hA, hB, fun D' hD' => hdis _ (List.mem_map_of_mem hD') _ List.mem_cons_self,
    fun D' hD' he => hD (he ▸ List.mem_map_of_mem hD'), fun D₁ h₁ D₂ h₂ => ?_⟩
  exact hdis _ (List.mem_map_of_mem h₁) _ (List.mem_cons_of_mem _ (List.mem_map_of_mem h₂))

theorem Context.decl?_of_mem {L : List Decl} (ps : Nat) (hnd : (L.map Decl.defId).Nodup)
    {D : Decl} (hD : D ∈ L) : (⟨L.reverse, ps⟩ : Context).decl? D.defId = some D := by
  unfold Context.decl?
  obtain ⟨as, bs, h⟩ := List.append_of_mem (List.mem_reverse.2 hD)
  -- the declarations before `D` in the reversed list have other ids
  have hnd' : ((as ++ D :: bs).map Decl.defId).Nodup := by
    rw [← h, List.map_reverse]
    exact List.nodup_reverse.2 hnd
  have hne := (ids_split hnd' rfl).2.2.1
  exact List.find?_eq_some_iff_append.2 ⟨by simp, as, bs, h, fun a ha => by simpa using hne a ha⟩

theorem Context.decl?_of_not_mem {L : List Decl} (ps : Nat) {id : DefId}
    (h : ∀ D ∈ L, D.defId ≠ id) : (⟨L.reverse, ps⟩ : Context).decl? id = none :=
  List.find?_eq_none.2 fun a ha => by simpa using h a (List.mem_reverse.1 ha)

theorem SameDecls.of_perm {L L' : List Decl} (ps : Nat) (hp : L'.Perm L)
    (hnd : (L.map Decl.defId).Nodup) : SameDecls ⟨L.reverse, ps⟩ ⟨L'.reverse, ps⟩ := by
  have hnd' : (L'.map Decl.defId).Nodup := ((hp.map Decl.defId).nodup_iff).2 hnd
  refine ⟨rfl, fun id => ?_⟩
  by_cases h : ∃ D ∈ L, D.defId = id
  · obtain ⟨D, hD, rfl⟩ := h
    rw [Context.decl?_of_mem ps hnd hD, Context.decl?_of_mem ps hnd' (hp.mem_iff.2 hD)]
  · simp only [not_exists, not_and] at h
    rw [Context.decl?_of_not_mem ps h, Context.decl?_of_not_mem ps fun D hD => h D (hp.mem_iff.1 hD)]

/-! ## One run over a module -/

section Run

variable {m : Module} {cfg : Config} {c : Context} {A B : List Decl} {D : Decl} {s s' : State}

theorem run_split (h : (A ++ D :: B).forM visitOwn c s = .ok ((), s')) :
    ∃ u u', A.forM visitOwn c s = .ok ((), u) ∧ visitOwn D c u = .ok ((), u') ∧
      B.forM visitOwn c u' = .ok ((), s') := by
  obtain ⟨u, h₁, h₂⟩ := forM_visitOwn_append_ok h
  obtain ⟨u', h₂, h₃⟩ := forM_visitOwn_cons_ok h₂
  exact ⟨u, u', h₁, h₂, h₃⟩

theorem forM_first (P : State → Prop) : ∀ {A : List Decl} {s s' : State},
    A.forM visitOwn c s = .ok ((), s') → ¬ P s → P s' →
    ∃ A₀ D B₀ u u', A = A₀ ++ D :: B₀ ∧ A₀.forM visitOwn c s = .ok ((), u) ∧
      visitOwn D c u = .ok ((), u') ∧ ¬ P u ∧ P u'
  | [], s, s', h, hn, hp => by
    obtain ⟨-, rfl⟩ := pure_ok (a := PUnit.unit) h
    exact absurd hp hn
  | D :: A, s, s', h, hn, hp => by
    obtain ⟨s₁, h₁, h₂⟩ := forM_visitOwn_cons_ok h
    by_cases hp₁ : P s₁
    · exact ⟨[], D, A, s, s₁, rfl, rfl, h₁, hn, hp₁⟩
    · obtain ⟨A₀, D', B₀, u, u', rfl, e₀, e, hu, hu'⟩ := forM_first P h₂ hp₁ hp
      refine ⟨D :: A₀, D', B₀, u, u', rfl, ?_, e, hu, hu'⟩
      show (visitOwn D >>= fun _ => A₀.forM visitOwn) c s = _
      rw [bind_of_ok h₁, e₀]

theorem moduleContext_decl (hids : ((Decl.flatten m.decls).map Decl.defId).Nodup)
    (hD : D ∈ Decl.flatten m.decls) : (moduleContext m cfg).decl? D.defId = some D :=
  Context.decl?_of_mem _ hids hD

theorem prefix_visited (hids : ((Decl.flatten m.decls).map Decl.defId).Nodup)
    (hL : Decl.flatten m.decls = A ++ B)
    (h : A.forM visitOwn (moduleContext m cfg) (State.start cfg.globalInitName) = .ok ((), s)) :
    Visited (moduleContext m cfg) A (State.start cfg.globalInitName) s := by
  have hA : (A.map Decl.defId).Nodup := by
    rw [hL, List.map_append, List.nodup_append] at hids
    exact hids.1
  exact forM_visited (Inv.start _ _) (Walk.start _)
    (fun D hD => moduleContext_decl hids (hL ▸ List.mem_append_left _ hD)) hA
    (fun D _ => State.unentered_start _ _) h

theorem suffix_visited (hids : ((Decl.flatten m.decls).map Decl.defId).Nodup)
    (hL : Decl.flatten m.decls = A ++ B)
    (hA : Visited (moduleContext m cfg) A (State.start cfg.globalInitName) s)
    (h : B.forM visitOwn (moduleContext m cfg) s = .ok ((), s')) :
    Visited (moduleContext m cfg) B s s' := by
  have hnd := hids
  rw [hL, List.map_append, List.nodup_append] at hnd
  exact forM_visited hA.inv hA.walk
    (fun D hD => moduleContext_decl hids (hL ▸ List.mem_append_right _ hD)) hnd.2.1
    (fun D hD => hA.unentered _ (fun D' hD' he =>
      hnd.2.2 _ (List.mem_map_of_mem hD') _ (List.mem_map_of_mem hD) he) (State.unentered_start _ _)) h

theorem run_visited (hids : ((Decl.flatten m.decls).map Decl.defId).Nodup)
    (h : (Decl.flatten m.decls).forM visitOwn (moduleContext m cfg)
      (State.start cfg.globalInitName) = .ok ((), s)) :
    Visited (moduleContext m cfg) (Decl.flatten m.decls) (State.start cfg.globalInitName) s :=
  prefix_visited hids (List.append_nil _).symm h

theorem Visited.rename_fn {B : List Decl} (v : Visited c B s s') (i : Inv c s) {d : DefId} {j : Nat}
    (hm : (d, j) ∈ s.functions) (hd : ∀ D ∈ B, D.defId ≠ d) :
    (s'.fn j).rename s'.fcode s'.kcode = (s.fn j).rename s.fcode s.kcode := by
  rw [v.frame d j hm hd]
  exact Function.rename_congr (i.below j) (fun j' hj => i.functions.codeOf_suffix v.inv.functions
    v.functions hj) fun k hk => i.klasses.codeOf_suffix v.inv.klasses v.klasses hk

end Run

/-! ## Two orders -/

/-- The declarations of `m'` are those of `m` in another order: each declaration has an id of
its own, and the fields with initializers come in the same order. -/
structure Reorders (m m' : Module) : Prop where
  perm : (Decl.flatten m'.decls).Perm (Decl.flatten m.decls)
  ids : ((Decl.flatten m.decls).map Decl.defId).Nodup
  inits : Decl.globalInits m'.decls = Decl.globalInits m.decls

namespace Reorders

variable {m m' : Module} {cfg : Config} {A₁ B₁ A₂ B₂ : List Decl} {D : Decl} {s t S T : State}

theorem ids' (r : Reorders m m') : ((Decl.flatten m'.decls).map Decl.defId).Nodup :=
  ((r.perm.map Decl.defId).nodup_iff).2 r.ids

theorem symm (r : Reorders m m') : Reorders m' m := ⟨r.perm.symm, r.ids', r.inits.symm⟩

theorem sameDecls (r : Reorders m m') (cfg : Config) :
    SameDecls (moduleContext m cfg) (moduleContext m' cfg) :=
  SameDecls.of_perm cfg.pointerSize r.perm r.ids

theorem inits_before (r : Reorders m m') (h₁ : Decl.flatten m.decls = A₁ ++ D :: B₁)
    (h₂ : Decl.flatten m'.decls = A₂ ++ D :: B₂) {x : FieldDecl × Expr} (hD : D.globalInit? = some x) :
    A₂.filterMap Decl.globalInit? = A₁.filterMap Decl.globalInit? := by
  have split : ∀ {L A B : List Decl}, L = A ++ D :: B →
      L.filterMap Decl.globalInit? = A.filterMap Decl.globalInit? ++ x :: B.filterMap Decl.globalInit? := by
    intro L A B hL
    rw [hL, List.filterMap_append, List.filterMap_cons, hD]
  -- a field has one initializer and the declarations have ids of their own, so no initializer
  -- comes twice
  have hnd : (Decl.globalInits m.decls).Nodup := by
    refine List.Nodup.filterMap (fun a a' b hb hb' => ?_) (List.Nodup.of_map _ r.ids)
    rw [(Decl.globalInit?_eq_some hb).1, (Decl.globalInit?_eq_some hb').1]
  have e₁ : Decl.globalInits m.decls = _ := split h₁
  have e₂ : Decl.globalInits m'.decls = _ := split h₂
  rw [e₁] at hnd
  exact (prefix_eq_of_nodup hnd (e₁.symm.trans (r.inits.symm.trans e₂))).symm

theorem poised (r : Reorders m m') (h₁ : Decl.flatten m.decls = A₁ ++ D :: B₁)
    (h₂ : Decl.flatten m'.decls = A₂ ++ D :: B₂)
    (e₁ : A₁.forM visitOwn (moduleContext m cfg) (State.start cfg.globalInitName) = .ok ((), s))
    (e₂ : A₂.forM visitOwn (moduleContext m' cfg) (State.start cfg.globalInitName) = .ok ((), t)) :
    Poised (moduleContext m cfg) (moduleContext m' cfg) D s t := by
  have v₁ := prefix_visited r.ids h₁ e₁
  have v₂ := prefix_visited r.ids' h₂ e₂
  refine ⟨r.sameDecls cfg, moduleContext_decl r.ids (h₁ ▸ List.mem_append_right _ List.mem_cons_self),
    v₁.inv, v₂.inv, v₁.walk, v₂.walk,
    v₁.unentered _ (ids_split r.ids h₁).2.2.1 (State.unentered_start _ _),
    v₂.unentered _ (ids_split r.ids' h₂).2.2.1 (State.unentered_start _ _), fun hx => ?_⟩
  -- the global initializers went through the same initializers from the same start
  obtain ⟨x, hx⟩ := Option.isSome_iff_exists.1 hx
  have i₂ := v₂.inits
  rw [r.inits_before h₁ h₂ hx] at i₂
  exact InitChain.unique (r.sameDecls cfg) v₁.inits i₂

theorem agree_at (r : Reorders m m')
    (h₂ : (Decl.flatten m'.decls).forM visitOwn (moduleContext m' cfg)
      (State.start cfg.globalInitName) = .ok ((), T))
    (h₁ : Decl.flatten m.decls = A₁ ++ D :: B₁)
    (e₁ : A₁.forM visitOwn (moduleContext m cfg) (State.start cfg.globalInitName) = .ok ((), s))
    {s' : State} (e : visitOwn D (moduleContext m cfg) s = .ok ((), s')) :
    ∃ t t', Agreed (moduleContext m cfg) (moduleContext m' cfg) D s s' t t' ∧
      ∃ B₂, Visited (moduleContext m' cfg) B₂ t' T ∧ ∀ D' ∈ B₂, D'.defId ≠ D.defId := by
  obtain ⟨A₂, B₂, hL₂⟩ := List.append_of_mem
    (r.perm.symm.subset (h₁ ▸ List.mem_append_right _ List.mem_cons_self) : D ∈ Decl.flatten m'.decls)
  obtain ⟨t, t', e₂, g, eB⟩ := run_split (hL₂ ▸ h₂)
  obtain ⟨t'', g', a⟩ := visitOwn_agree (r.poised h₁ hL₂ e₁ e₂) e
  rw [g] at g'
  cases g'
  have hL : Decl.flatten m'.decls = (A₂ ++ [D]) ++ B₂ := by rw [hL₂, List.append_assoc]; rfl
  exact ⟨t, t', a, B₂, suffix_visited r.ids' hL (prefix_visited r.ids' hL (forM_visitOwn_snoc e₂ g)) eB,
    (ids_split r.ids' hL₂).2.2.2.1⟩

theorem visits_ok (r : Reorders m m')
    (h : (Decl.flatten m.decls).forM visitOwn (moduleContext m cfg)
      (State.start cfg.globalInitName) = .ok ((), S)) :
    ∃ T, (Decl.flatten m'.decls).forM visitOwn (moduleContext m' cfg)
      (State.start cfg.globalInitName) = .ok ((), T) := by
  -- along the second order, each declaration is visited as the first run visited it
  suffices ∀ B A t, Decl.flatten m'.decls = A ++ B →
      A.forM visitOwn (moduleContext m' cfg) (State.start cfg.globalInitName) = .ok ((), t) →
      ∃ T, B.forM visitOwn (moduleContext m' cfg) t = .ok ((), T) from this _ [] _ rfl rfl
  intro B
  induction B with
  | nil => exact fun _ t _ _ => ⟨t, rfl⟩
  | cons D B ih =>
    intro A t hA e₂
    obtain ⟨A₁, B₁, h₁⟩ := List.append_of_mem
      (r.perm.subset (hA ▸ List.mem_append_right _ List.mem_cons_self) : D ∈ Decl.flatten m.decls)
    obtain ⟨u, u', e₁, e, -⟩ := run_split (h₁ ▸ h)
    obtain ⟨t', g, -⟩ := visitOwn_agree (r.poised h₁ hA e₁ e₂) e
    obtain ⟨T, hT⟩ := ih (A ++ [D]) t' (by rw [hA, List.append_assoc]; rfl) (forM_visitOwn_snoc e₂ g)
    refine ⟨T, ?_⟩
    show (visitOwn D >>= fun _ => B.forM visitOwn) _ t = _
    rw [bind_of_ok g, hT]

theorem registered (r : Reorders m m')
    (h₁ : (Decl.flatten m.decls).forM visitOwn (moduleContext m cfg)
      (State.start cfg.globalInitName) = .ok ((), S))
    (h₂ : (Decl.flatten m'.decls).forM visitOwn (moduleContext m' cfg)
      (State.start cfg.globalInitName) = .ok ((), T)) :
    (∀ d ∈ S.functions.map Prod.fst, d ∈ T.functions.map Prod.fst) ∧
      ∀ k ∈ S.klasses.map Prod.fst, k ∈ T.klasses.map Prod.fst := by
  -- each id is registered first at some visit of the first run, which the second run covers
  have first : ∀ (P : State → Prop), ¬ P (State.start cfg.globalInitName) → P S →
      ∃ A₁ D B₁ u u', Decl.flatten m.decls = A₁ ++ D :: B₁ ∧
        A₁.forM visitOwn (moduleContext m cfg) (State.start cfg.globalInitName) = .ok ((), u) ∧
        visitOwn D (moduleContext m cfg) u = .ok ((), u') ∧ ¬ P u ∧ P u' :=
    fun P hn hp => forM_first P h₁ hn hp
  refine ⟨fun d hd => ?_, fun k hk => ?_⟩
  · obtain ⟨A₁, D, B₁, u, u', hL, e₁, e, hu, hu'⟩ :=
      first (fun u => d ∈ u.functions.map Prod.fst) (by simp [State.start]) hd
    obtain ⟨t, t', a, B₂, v, -⟩ := r.agree_at h₂ hL e₁ e
    exact (v.functions.map Prod.fst).subset ((a.covers.2 d hu').resolve_left hu)
  · obtain ⟨A₁, D, B₁, u, u', hL, e₁, e, hu, hu'⟩ :=
      first (fun u => k ∈ u.klasses.map Prod.fst) (by simp [State.start]) hk
    obtain ⟨t, t', a, B₂, v, -⟩ := r.agree_at h₂ hL e₁ e
    exact (v.klasses.map Prod.fst).subset ((a.covers.1 k hu').resolve_left hu)

theorem selects_alike (r : Reorders m m')
    (h₁ : (Decl.flatten m.decls).forM visitOwn (moduleContext m cfg)
      (State.start cfg.globalInitName) = .ok ((), S))
    (h₂ : (Decl.flatten m'.decls).forM visitOwn (moduleContext m' cfg)
      (State.start cfg.globalInitName) = .ok ((), T))
    {F : FunctionDecl} (hF : Decl.function F ∈ Decl.flatten m.decls) (ho : F.origin ≠ .fakeOverride)
    (hb : F.body.isSome) :
    ∃ j j', (F.defId, j) ∈ S.functions ∧ (F.defId, j') ∈ T.functions ∧
      (T.fn j').rename T.fcode T.kcode = (S.fn j).rename S.fcode S.kcode := by
  obtain ⟨A₁, B₁, hL⟩ := List.append_of_mem hF
  obtain ⟨u, u', e₁, e, eB⟩ := run_split (hL ▸ h₁)
  obtain ⟨t, t', a, B₂, v₂, hB₂⟩ := r.agree_at h₂ hL e₁ e
  obtain ⟨j, j', hj, hj', hc⟩ := a.body F rfl ho hb
  -- after its visit, each run leaves the function alone
  have hL' : Decl.flatten m.decls = (A₁ ++ [.function F]) ++ B₁ := by rw [hL, List.append_assoc]; rfl
  have v₁ := suffix_visited r.ids hL' (prefix_visited r.ids hL' (forM_visitOwn_snoc e₁ e)) eB
  refine ⟨j, j', v₁.functions.subset hj, v₂.functions.subset hj', ?_⟩
  rw [v₁.rename_fn a.inv₁ hj (ids_split r.ids hL).2.2.2.1, v₂.rename_fn a.inv₂ hj' hB₂, hc]

theorem globalView (r : Reorders m m')
    (h₁ : (Decl.flatten m.decls).forM visitOwn (moduleContext m cfg)
      (State.start cfg.globalInitName) = .ok ((), S))
    (h₂ : (Decl.flatten m'.decls).forM visitOwn (moduleContext m' cfg)
      (State.start cfg.globalInitName) = .ok ((), T)) :
    T.globalView = S.globalView := by
  have i₂ := (run_visited r.ids' h₂).inits
  have hi : (Decl.flatten m'.decls).filterMap Decl.globalInit? =
      (Decl.flatten m.decls).filterMap Decl.globalInit? := r.inits
  rw [hi] at i₂
  exact InitChain.unique (r.sameDecls cfg) (run_visited r.ids h₁).inits i₂

end Reorders

end Isel.Lower
