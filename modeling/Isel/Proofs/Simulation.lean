import Isel.Proofs.Registry

/-! # Two runs that agree up to codes

Two runs of selection over the same declarations, met in another order, are in corresponding
states when they lower the same code: the functions at their cursors are equal once positions
are replaced by codes, and the bindings, loops, landing block and current declaration agree
(`Agree`). `SimAt` says that whatever a step of the first run does from such a pair of states,
the same step of the second run does too, to corresponding states and with corresponding
results; steps compose with `SimAt.bind`. Along the way each run only adds positions to its
tables and changes no function but the one at its cursor (`Extends`), and whatever the first
run registers, the second has registered by the end of the step (`Covers`).
-/

namespace Isel.Lower

open Isel.Graph (Operand Instr Var Block Function)
open Isel.Tree (DefId FunctionDecl)

/-! ## Contexts -/

/-- Two contexts that declare the same: one pointer width and one declaration for every
`DefId`, in whatever order their lists hold them. -/
structure SameDecls (c₁ c₂ : Context) : Prop where
  pointerSize : c₂.pointerSize = c₁.pointerSize
  decl : ∀ id, c₂.decl? id = c₁.decl? id

namespace SameDecls

variable {c₁ c₂ : Context}

theorem functionDecl (h : SameDecls c₁ c₂) (id : DefId) :
    c₂.functionDecl? id = c₁.functionDecl? id := by
  simp only [Context.functionDecl?, h.decl]

theorem classInfo (h : SameDecls c₁ c₂) (id : DefId) : c₂.classInfo? id = c₁.classInfo? id := by
  simp only [Context.classInfo?, h.decl]

theorem klassOf (h : SameDecls c₁ c₂) (id : DefId) : c₂.klassOf id = c₁.klassOf id := by
  simp only [Context.klassOf, h.classInfo]

theorem className (h : SameDecls c₁ c₂) (id : DefId) : c₂.className id = c₁.className id := by
  simp only [Context.className, h.classInfo]

theorem functionName (h : SameDecls c₁ c₂) (f : FunctionDecl) :
    c₂.functionName f = c₁.functionName f := by
  simp only [Context.functionName, h.className]

end SameDecls

/-! ## Values that name functions and classes -/

/-- Data that names functions and classes by position: it can be renamed, and it names them
below two bounds, below which two renamings that agree rename it alike. -/
class Coded (α : Type) where
  rename : (Nat → Nat) → (Nat → Nat) → α → α
  Below : Nat → Nat → α → Prop
  rename_congr {nf nk : Nat} {f f' k k' : Nat → Nat} {a : α} :
    Below nf nk a → (∀ j < nf, f j = f' j) → (∀ c < nk, k c = k' c) → rename f k a = rename f' k' a
  below_mono {nf nk mf mk : Nat} {a : α} : Below nf nk a → nf ≤ mf → nk ≤ mk → Below mf mk a

instance : Coded Graph.Ty where
  rename _ k t := t.rename k
  Below _ nk t := t.Below nk
  rename_congr h _ hk := Graph.Ty.rename_congr h hk
  below_mono h _ hk := h.mono hk

instance : Coded Var where
  rename _ k v := v.rename k
  Below _ nk v := v.Below nk
  rename_congr h _ hk := Var.rename_congr h hk
  below_mono h _ hk := h.mono hk

instance : Coded Operand where
  rename _ k o := o.rename k
  Below _ nk o := o.Below nk
  rename_congr h _ hk := Operand.rename_congr hk h
  below_mono h _ hk := Operand.Below.mono hk h

instance : Coded Instr where
  rename := Instr.rename
  Below := Instr.Below
  rename_congr h hf hk := Instr.rename_congr h hf hk
  below_mono h hf hk := h.mono hf hk

instance {α : Type} [Coded α] : Coded (Option α) where
  rename f k o := o.map (Coded.rename f k)
  Below nf nk o := ∀ a ∈ o, Coded.Below nf nk a
  rename_congr h hf hk := Option.map_congr fun a ha => Coded.rename_congr (h a ha) hf hk
  below_mono h hf hk := fun a ha => Coded.below_mono (h a ha) hf hk

instance {α : Type} [Coded α] : Coded (List α) where
  rename f k l := l.map (Coded.rename f k)
  Below nf nk l := ∀ a ∈ l, Coded.Below nf nk a
  rename_congr h hf hk := List.map_congr_left fun a ha => Coded.rename_congr (h a ha) hf hk
  below_mono h hf hk := fun a ha => Coded.below_mono (h a ha) hf hk

namespace Coded

variable {f k : Nat → Nat} {nf nk : Nat}

@[simp] theorem rename_ty (t : Graph.Ty) : Coded.rename f k t = t.rename k := rfl
@[simp] theorem rename_var (v : Var) : Coded.rename f k v = v.rename k := rfl
@[simp] theorem rename_operand (o : Operand) : Coded.rename f k o = o.rename k := rfl
@[simp] theorem rename_instr (i : Instr) : Coded.rename f k i = i.rename f k := rfl
@[simp] theorem rename_option {α : Type} [Coded α] (o : Option α) :
    Coded.rename f k o = o.map (Coded.rename f k) := rfl
@[simp] theorem rename_list {α : Type} [Coded α] (l : List α) :
    Coded.rename f k l = l.map (Coded.rename f k) := rfl

@[simp] theorem below_ty (t : Graph.Ty) : Coded.Below nf nk t ↔ t.Below nk := Iff.rfl
@[simp] theorem below_var (v : Var) : Coded.Below nf nk v ↔ v.Below nk := Iff.rfl
@[simp] theorem below_operand (o : Operand) : Coded.Below nf nk o ↔ o.Below nk := Iff.rfl
@[simp] theorem below_instr (i : Instr) : Coded.Below nf nk i ↔ i.Below nf nk := Iff.rfl
@[simp] theorem below_option {α : Type} [Coded α] (o : Option α) :
    Coded.Below nf nk o ↔ ∀ a ∈ o, Coded.Below nf nk a := Iff.rfl
@[simp] theorem below_list {α : Type} [Coded α] (l : List α) :
    Coded.Below nf nk l ↔ ∀ a ∈ l, Coded.Below nf nk a := Iff.rfl

end Coded

/-- A value of the first run and one of the second that name the same functions and classes,
each below its run's counts. -/
def Corr {α : Type} [Coded α] (s t : State) (a b : α) : Prop :=
  Coded.rename t.fcode t.kcode b = Coded.rename s.fcode s.kcode a ∧
    Coded.Below s.program.functions.length s.program.klasses.length a ∧
    Coded.Below t.program.functions.length t.program.klasses.length b

def KCorr (s t : State) (k k' : Nat) : Prop :=
  t.kcode k' = s.kcode k ∧ k < s.program.klasses.length ∧ k' < t.program.klasses.length

def FCorr (s t : State) (j j' : Nat) : Prop :=
  t.fcode j' = s.fcode j ∧ j < s.program.functions.length ∧ j' < t.program.functions.length

/-! ## Corresponding states -/

/-- Two states that lower the same code: the functions at their cursors have the same code and
are equal once positions are replaced by codes, the cursors are at the same block, and the
bindings, the loops, the landing block and the declaration being lowered agree. -/
structure Agree (s t : State) : Prop where
  block : t.cursor.block = s.cursor.block
  fn : t.fcode t.cursor.fn = s.fcode s.cursor.fn
  curFn : t.curFn.rename t.fcode t.kcode = s.curFn.rename s.fcode s.kcode
  env : t.env.map (fun e => (e.1, e.2.rename t.kcode)) =
    s.env.map (fun e => (e.1, e.2.rename s.kcode))
  loops : t.loops = s.loops
  landing : t.landing = s.landing
  current : t.current = s.current

/-- Corresponding states of two runs over contexts that declare the same, each keeping its
run's invariant. -/
structure Related (c₁ c₂ : Context) (s t : State) : Prop where
  decls : SameDecls c₁ c₂
  inv₁ : Inv c₁ s
  inv₂ : Inv c₂ t
  agree : Agree s t

/-- What a run does between two of its states: its tables only gain new positions, the cursor
stays in its function, and no other function changes. -/
structure Extends (s s' : State) : Prop where
  klasses : s.klasses <:+ s'.klasses
  functions : s.functions <:+ s'.functions
  nk : s.program.klasses.length ≤ s'.program.klasses.length
  nf : s.program.functions.length ≤ s'.program.functions.length
  fn : s'.cursor.fn = s.cursor.fn
  frame : ∀ j, j ≠ s.cursor.fn → j < s.program.functions.length → s'.fn j = s.fn j

namespace Extends

variable {c c' : Context} {s s₁ s₂ : State}

theorem refl (s : State) : Extends s s :=
  ⟨List.suffix_refl _, List.suffix_refl _, Nat.le_refl _, Nat.le_refl _, rfl, fun _ _ _ => rfl⟩

theorem trans (g₁ : Extends s s₁) (g₂ : Extends s₁ s₂) : Extends s s₂ where
  klasses := g₁.klasses.trans g₂.klasses
  functions := g₁.functions.trans g₂.functions
  nk := Nat.le_trans g₁.nk g₂.nk
  nf := Nat.le_trans g₁.nf g₂.nf
  fn := g₂.fn.trans g₁.fn
  frame j hj hl := by
    rw [g₂.frame j (g₁.fn ▸ hj) (Nat.lt_of_lt_of_le hl g₁.nf), g₁.frame j hj hl]

theorem kcode (g : Extends s s₁) (h : Inv c s) (h₁ : Inv c' s₁) {k : Nat}
    (hk : k < s.program.klasses.length) : s₁.kcode k = s.kcode k :=
  Table.codeOf_suffix h.klasses h₁.klasses g.klasses hk

theorem fcode (g : Extends s s₁) (h : Inv c s) (h₁ : Inv c' s₁) {j : Nat}
    (hj : j < s.program.functions.length) : s₁.fcode j = s.fcode j :=
  Table.codeOf_suffix h.functions h₁.functions g.functions hj

theorem rename {α : Type} [Coded α] (g : Extends s s₁) (h : Inv c s) (h₁ : Inv c' s₁) {a : α}
    (ha : Coded.Below s.program.functions.length s.program.klasses.length a) :
    Coded.rename s₁.fcode s₁.kcode a = Coded.rename s.fcode s.kcode a :=
  Coded.rename_congr ha (fun _ hj => g.fcode h h₁ hj) fun _ hk => g.kcode h h₁ hk

theorem mem_klasses (g : Extends s s₁) {c : DefId} (hc : c ∈ s.klasses.map Prod.fst) :
    c ∈ s₁.klasses.map Prod.fst :=
  (g.klasses.map Prod.fst).subset hc

theorem mem_functions (g : Extends s s₁) {d : DefId} (hd : d ∈ s.functions.map Prod.fst) :
    d ∈ s₁.functions.map Prod.fst :=
  (g.functions.map Prod.fst).subset hd

end Extends

def Covers (s s' t' : State) : Prop :=
  (∀ c ∈ s'.klasses.map Prod.fst, c ∈ s.klasses.map Prod.fst ∨ c ∈ t'.klasses.map Prod.fst) ∧
    ∀ d ∈ s'.functions.map Prod.fst, d ∈ s.functions.map Prod.fst ∨ d ∈ t'.functions.map Prod.fst

namespace Covers

variable {s s₁ s₂ t₁ t₂ : State}

theorem of_tables (hk : s₁.klasses = s.klasses) (hf : s₁.functions = s.functions) (t : State) :
    Covers s s₁ t :=
  ⟨fun c hc => .inl (hk ▸ hc), fun d hd => .inl (hf ▸ hd)⟩

theorem trans (h₁ : Covers s s₁ t₁) (h₂ : Covers s₁ s₂ t₂) (g : Extends t₁ t₂) :
    Covers s s₂ t₂ := by
  refine ⟨fun c hc => ?_, fun d hd => ?_⟩
  · rcases h₂.1 c hc with hc | hc
    · exact (h₁.1 c hc).imp_right g.mem_klasses
    · exact .inr hc
  · rcases h₂.2 d hd with hd | hd
    · exact (h₁.2 d hd).imp_right g.mem_functions
    · exact .inr hd

end Covers

/-- A step of each run from corresponding states to corresponding states. -/
structure Step (c₁ c₂ : Context) (s s' t t' : State) : Prop where
  start : Related c₁ c₂ s t
  rel : Related c₁ c₂ s' t'
  ext₁ : Extends s s'
  ext₂ : Extends t t'
  covers : Covers s s' t'

namespace Step

variable {c₁ c₂ : Context} {s s₁ s₂ t t₁ t₂ : State}

theorem refl (r : Related c₁ c₂ s t) : Step c₁ c₂ s s t t :=
  ⟨r, r, Extends.refl s, Extends.refl t, Covers.of_tables rfl rfl t⟩

theorem trans (h₁ : Step c₁ c₂ s s₁ t t₁) (h₂ : Step c₁ c₂ s₁ s₂ t₁ t₂) : Step c₁ c₂ s s₂ t t₂ :=
  ⟨h₁.start, h₂.rel, h₁.ext₁.trans h₂.ext₁, h₁.ext₂.trans h₂.ext₂,
    h₁.covers.trans h₂.covers h₂.ext₂⟩

end Step

section Corr

variable {c₁ c₂ : Context} {s s' t t' : State}

theorem Corr.mono {α : Type} [Coded α] {a b : α} (h : Corr s t a b)
    (st : Step c₁ c₂ s s' t t') : Corr s' t' a b := by
  obtain ⟨he, ha, hb⟩ := h
  refine ⟨?_, Coded.below_mono ha st.ext₁.nf st.ext₁.nk, Coded.below_mono hb st.ext₂.nf st.ext₂.nk⟩
  rw [st.ext₁.rename st.start.inv₁ st.rel.inv₁ ha, st.ext₂.rename st.start.inv₂ st.rel.inv₂ hb, he]

theorem KCorr.mono {k k' : Nat} (h : KCorr s t k k') (st : Step c₁ c₂ s s' t t') :
    KCorr s' t' k k' := by
  obtain ⟨he, hk, hk'⟩ := h
  refine ⟨?_, Nat.lt_of_lt_of_le hk st.ext₁.nk, Nat.lt_of_lt_of_le hk' st.ext₂.nk⟩
  rw [st.ext₁.kcode st.start.inv₁ st.rel.inv₁ hk, st.ext₂.kcode st.start.inv₂ st.rel.inv₂ hk', he]

theorem FCorr.mono {j j' : Nat} (h : FCorr s t j j') (st : Step c₁ c₂ s s' t t') :
    FCorr s' t' j j' := by
  obtain ⟨he, hj, hj'⟩ := h
  refine ⟨?_, Nat.lt_of_lt_of_le hj st.ext₁.nf, Nat.lt_of_lt_of_le hj' st.ext₂.nf⟩
  rw [st.ext₁.fcode st.start.inv₁ st.rel.inv₁ hj, st.ext₂.fcode st.start.inv₂ st.rel.inv₂ hj', he]

end Corr

/-! ## Matching steps -/

section Sim

variable {α β : Type} {c₁ c₂ : Context} {s t : State}

/-- From corresponding states, whatever the first run does with `m₁` the second does with
`m₂`: a step to corresponding states, with results related by `R`. -/
def SimAt (c₁ c₂ : Context) (s t : State) (m₁ m₂ : LowerM α)
    (R : State → State → α → α → Prop) : Prop :=
  ∀ a s', m₁ c₁ s = .ok (a, s') →
    ∃ b t', m₂ c₂ t = .ok (b, t') ∧ Step c₁ c₂ s s' t t' ∧ R s' t' a b

theorem SimAt.of_run {m₁ m₂ : LowerM α} {R : State → State → α → α → Prop} {a b : α}
    {s' t' : State} (h₁ : m₁ c₁ s = .ok (a, s')) (h₂ : m₂ c₂ t = .ok (b, t'))
    (st : Step c₁ c₂ s s' t t') (hr : R s' t' a b) : SimAt c₁ c₂ s t m₁ m₂ R := by
  intro a' s'' h
  rw [h₁] at h
  cases h
  exact ⟨b, t', h₂, st, hr⟩

theorem SimAt.pure {R : State → State → α → α → Prop} {a b : α} (r : Related c₁ c₂ s t)
    (h : R s t a b) : SimAt c₁ c₂ s t (pure a) (pure b) R :=
  SimAt.of_run rfl rfl (Step.refl r) h

theorem SimAt.bind {m₁ m₂ : LowerM α} {f₁ f₂ : α → LowerM β} {R : State → State → α → α → Prop}
    {R' : State → State → β → β → Prop} (h : SimAt c₁ c₂ s t m₁ m₂ R)
    (hf : ∀ a b s₁ t₁, Step c₁ c₂ s s₁ t t₁ → R s₁ t₁ a b → SimAt c₁ c₂ s₁ t₁ (f₁ a) (f₂ b) R') :
    SimAt c₁ c₂ s t (m₁ >>= f₁) (m₂ >>= f₂) R' := by
  intro c s' hc
  obtain ⟨a, s₁, h₁, h₂⟩ := bind_ok hc
  obtain ⟨b, t₁, g₁, st₁, r₁⟩ := h a s₁ h₁
  obtain ⟨d, t', g₂, st₂, r₂⟩ := hf a b s₁ t₁ st₁ r₁ c s' h₂
  exact ⟨d, t', by rw [bind_of_ok g₁, g₂], st₁.trans st₂, r₂⟩

theorem SimAt.bind_eq {m₁ m₂ : LowerM α} {f₁ f₂ : α → LowerM β}
    {R' : State → State → β → β → Prop} (h : SimAt c₁ c₂ s t m₁ m₂ fun _ _ a b => b = a)
    (hf : ∀ a s₁ t₁, Step c₁ c₂ s s₁ t t₁ → SimAt c₁ c₂ s₁ t₁ (f₁ a) (f₂ a) R') :
    SimAt c₁ c₂ s t (m₁ >>= f₁) (m₂ >>= f₂) R' :=
  h.bind fun a _ s₁ t₁ st hab => hab ▸ hf a s₁ t₁ st

theorem SimAt.get {f₁ f₂ : State → LowerM α} {R : State → State → α → α → Prop}
    (h : SimAt c₁ c₂ s t (f₁ s) (f₂ t) R) :
    SimAt c₁ c₂ s t (MonadState.get >>= f₁) (MonadState.get >>= f₂) R := by
  intro a s' h₁
  rw [bind_run, get_run] at h₁
  obtain ⟨b, t', h₂, st, r⟩ := h a s' h₁
  exact ⟨b, t', by rw [bind_run, get_run]; exact h₂, st, r⟩

theorem SimAt.read {f₁ f₂ : Context → LowerM α} {R : State → State → α → α → Prop}
    (h : SimAt c₁ c₂ s t (f₁ c₁) (f₂ c₂) R) :
    SimAt c₁ c₂ s t (MonadReader.read >>= f₁) (MonadReader.read >>= f₂) R := by
  intro a s' h₁
  rw [bind_run, read_run] at h₁
  obtain ⟨b, t', h₂, st, r⟩ := h a s' h₁
  exact ⟨b, t', by rw [bind_run, read_run]; exact h₂, st, r⟩

end Sim

end Isel.Lower
