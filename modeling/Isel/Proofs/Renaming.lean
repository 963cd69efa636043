import Isel.Graph.Program

/-! # Renaming the functions and classes of a program

Functions and classes are named by their positions in the program, so two runs that register
the same functions and classes in another order build programs that differ by a renaming of
positions. `Instr.rename f k` renames the function an instruction calls by `f` and the classes
its types name by `k`. Data whose names lie below `nf` and `nk` (`Instr.Below nf nk`) is
renamed alike by two renamings that agree below those bounds, and renaming twice is renaming
by the composite; so a renaming that has a left inverse below the bounds is injective there.
-/

namespace Isel.Graph

/-! ## Types and variables -/

namespace Ty

def rename (k : Nat → Nat) : Ty → Ty
  | .klassPtr c => .klassPtr (k c)
  | t => t

def Below (n : Nat) : Ty → Prop
  | .klassPtr c => c < n
  | _ => True

variable {k k' : Nat → Nat} {n m : Nat}

@[simp] theorem rename_klassPtr (c : Nat) : (klassPtr c).rename k = .klassPtr (k c) := rfl

theorem rename_congr {t : Ty} (h : t.Below n) (hk : ∀ c < n, k c = k' c) :
    t.rename k = t.rename k' := by
  cases t <;> simp_all [rename, Below]

theorem rename_rename (t : Ty) : (t.rename k).rename k' = t.rename (k' ∘ k) := by
  cases t <;> rfl

@[simp] theorem rename_id (t : Ty) : t.rename id = t := by
  cases t <;> rfl

theorem Below.mono {t : Ty} (h : t.Below n) (hn : n ≤ m) : t.Below m := by
  cases t <;> simp_all [Below]
  omega

theorem below_rename {t : Ty} (h : t.Below n) (hk : ∀ c < n, k c < m) : (t.rename k).Below m := by
  cases t <;> simp_all [rename, Below]

@[simp] theorem isInteger_rename (t : Ty) : (t.rename k).isInteger = t.isInteger := by
  cases t <;> rfl

@[simp] theorem isFloating_rename (t : Ty) : (t.rename k).isFloating = t.isFloating := by
  cases t <;> rfl

@[simp] theorem byteSize_rename (p : Nat) (t : Ty) : (t.rename k).byteSize p = t.byteSize p := by
  cases t <;> rfl

@[simp] theorem rename_eq_void {t : Ty} : t.rename k = .void ↔ t = .void := by
  cases t <;> simp [rename]

end Ty

namespace Var

def rename (k : Nat → Nat) (v : Var) : Var := ⟨v.ty.rename k, v.name⟩

def Below (n : Nat) (v : Var) : Prop := v.ty.Below n

variable {k k' : Nat → Nat} {n m : Nat}

@[simp] theorem ty_rename (v : Var) : (v.rename k).ty = v.ty.rename k := rfl
@[simp] theorem name_rename (v : Var) : (v.rename k).name = v.name := rfl

theorem rename_congr {v : Var} (h : v.Below n) (hk : ∀ c < n, k c = k' c) :
    v.rename k = v.rename k' := by
  simp only [rename, Ty.rename_congr h hk]

theorem rename_rename (v : Var) : (v.rename k).rename k' = v.rename (k' ∘ k) := by
  simp [rename, Ty.rename_rename]

@[simp] theorem rename_id (v : Var) : v.rename id = v := by
  simp [rename]

theorem Below.mono {v : Var} (h : v.Below n) (hn : n ≤ m) : v.Below m := Ty.Below.mono h hn

end Var

/-! ## Operands -/

mutual

def ConstValue.rename (k : Nat → Nat) : ConstValue → ConstValue
  | .null => .null
  | .bool b => .bool b
  | .int v => .int v
  | .float x => .float x
  | .char c => .char c
  | .string s => .string s
  | .symbol s => .symbol s
  | .elements items => .elements (Operand.renameList k items)

def Operand.rename (k : Nat → Nat) : Operand → Operand
  | .var v => .var (v.rename k)
  | .const t c => .const (t.rename k) (c.rename k)
  | .null => .null
  | .unit => .unit

def Operand.renameList (k : Nat → Nat) : List Operand → List Operand
  | [] => []
  | o :: os => o.rename k :: Operand.renameList k os

end

mutual

def ConstValue.Below (n : Nat) : ConstValue → Prop
  | .elements items => Operand.ListBelow n items
  | _ => True

def Operand.Below (n : Nat) : Operand → Prop
  | .var v => v.Below n
  | .const t c => t.Below n ∧ c.Below n
  | .null => True
  | .unit => True

def Operand.ListBelow (n : Nat) : List Operand → Prop
  | [] => True
  | o :: os => o.Below n ∧ Operand.ListBelow n os

end

namespace Operand

variable {k k' : Nat → Nat} {n m : Nat}

@[simp] theorem renameList_eq_map : ∀ os : List Operand, renameList k os = os.map (rename k)
  | [] => rfl
  | o :: os => by rw [renameList, renameList_eq_map os, List.map_cons]

theorem listBelow_iff : ∀ os : List Operand, ListBelow n os ↔ ∀ o ∈ os, o.Below n
  | [] => by simp [ListBelow]
  | o :: os => by simp [ListBelow, listBelow_iff os]

@[simp] theorem rename_var (v : Var) : (Operand.var v).rename k = .var (v.rename k) := rfl
@[simp] theorem rename_unit : Operand.unit.rename k = .unit := rfl
@[simp] theorem rename_null : Operand.null.rename k = .null := rfl

@[simp] theorem ty_rename (o : Operand) : (o.rename k).ty = o.ty.rename k := by
  cases o <;> rfl

theorem Below.ty {o : Operand} (h : o.Below n) : o.ty.Below n := by
  cases o with
  | var v => exact h
  | const t c => exact h.1
  | null => trivial
  | unit => trivial

end Operand

variable {k k' : Nat → Nat} {n m : Nat}

mutual

theorem ConstValue.rename_congr (hk : ∀ c < n, k c = k' c) :
    ∀ {v : ConstValue}, v.Below n → v.rename k = v.rename k'
  | .null, _ | .bool _, _ | .int _, _ | .float _, _ | .char _, _ | .string _, _
  | .symbol _, _ => rfl
  | .elements items, h => by
    rw [ConstValue.rename, ConstValue.rename, Operand.renameList_congr hk h]

theorem Operand.rename_congr (hk : ∀ c < n, k c = k' c) :
    ∀ {o : Operand}, o.Below n → o.rename k = o.rename k'
  | .var v, h => by rw [Operand.rename_var, Operand.rename_var, Var.rename_congr h hk]
  | .const t c, h => by
    rw [Operand.rename, Operand.rename, Ty.rename_congr h.1 hk, ConstValue.rename_congr hk h.2]
  | .null, _ | .unit, _ => rfl

theorem Operand.renameList_congr (hk : ∀ c < n, k c = k' c) :
    ∀ {os : List Operand}, Operand.ListBelow n os →
      Operand.renameList k os = Operand.renameList k' os
  | [], _ => rfl
  | _ :: _, h => by
    rw [Operand.renameList, Operand.renameList, Operand.rename_congr hk h.1,
      Operand.renameList_congr hk h.2]

end

mutual

theorem ConstValue.rename_rename : ∀ v : ConstValue, (v.rename k).rename k' = v.rename (k' ∘ k)
  | .null | .bool _ | .int _ | .float _ | .char _ | .string _ | .symbol _ => rfl
  | .elements items => by
    rw [ConstValue.rename, ConstValue.rename, ConstValue.rename, Operand.renameList_rename]

theorem Operand.rename_rename : ∀ o : Operand, (o.rename k).rename k' = o.rename (k' ∘ k)
  | .var v => by simp only [Operand.rename_var, Var.rename_rename]
  | .const t c => by
    rw [Operand.rename, Operand.rename, Operand.rename, Ty.rename_rename, ConstValue.rename_rename]
  | .null | .unit => rfl

theorem Operand.renameList_rename : ∀ os : List Operand,
    Operand.renameList k' (Operand.renameList k os) = Operand.renameList (k' ∘ k) os
  | [] => rfl
  | o :: os => by
    rw [Operand.renameList, Operand.renameList, Operand.renameList, Operand.rename_rename,
      Operand.renameList_rename]

end

mutual

theorem ConstValue.rename_id : ∀ v : ConstValue, v.rename id = v
  | .null | .bool _ | .int _ | .float _ | .char _ | .string _ | .symbol _ => rfl
  | .elements items => by rw [ConstValue.rename, Operand.renameList_id]

theorem Operand.rename_id : ∀ o : Operand, o.rename id = o
  | .var v => by rw [Operand.rename_var, Var.rename_id]
  | .const t c => by rw [Operand.rename, Ty.rename_id, ConstValue.rename_id]
  | .null | .unit => rfl

theorem Operand.renameList_id : ∀ os : List Operand, Operand.renameList id os = os
  | [] => rfl
  | o :: os => by rw [Operand.renameList, Operand.rename_id, Operand.renameList_id]

end

mutual

theorem ConstValue.Below.mono (hn : n ≤ m) : ∀ {v : ConstValue}, v.Below n → v.Below m
  | .null, _ | .bool _, _ | .int _, _ | .float _, _ | .char _, _ | .string _, _
  | .symbol _, _ => trivial
  | .elements _, h => Operand.ListBelow.mono hn h

theorem Operand.Below.mono (hn : n ≤ m) : ∀ {o : Operand}, o.Below n → o.Below m
  | .var _, h => Var.Below.mono h hn
  | .const _ _, h => ⟨Ty.Below.mono h.1 hn, ConstValue.Below.mono hn h.2⟩
  | .null, _ | .unit, _ => trivial

theorem Operand.ListBelow.mono (hn : n ≤ m) : ∀ {os : List Operand},
    Operand.ListBelow n os → Operand.ListBelow m os
  | [], _ => trivial
  | _ :: _, h => ⟨Operand.Below.mono hn h.1, Operand.ListBelow.mono hn h.2⟩

end

/-! ## Instructions and blocks -/

namespace Instr

def rename (f k : Nat → Nat) : Instr → Instr
  | .binary op d a b => .binary op (d.rename k) (a.rename k) (b.rename k)
  | .compare op d a b => .compare op (d.rename k) (a.rename k) (b.rename k)
  | .load d a o => .load (d.rename k) (a.rename k) o
  | .store v a o => .store (v.rename k) (a.rename k) o
  | .alloc d c => .alloc (d.rename k) (k c)
  | .call c d args => .call (f c) (d.map (Var.rename k)) (args.map (Operand.rename k))
  | .invoke c d args n l => .invoke (f c) (d.map (Var.rename k)) (args.map (Operand.rename k)) n l
  | .cast d v => .cast (d.rename k) (v.rename k)
  | .trunc d v => .trunc (d.rename k) (v.rename k)
  | .sext d v => .sext (d.rename k) (v.rename k)
  | .bitcast d v => .bitcast (d.rename k) (v.rename k)
  | .gep d b o => .gep (d.rename k) (b.rename k) (o.rename k)
  | .br t => .br t
  | .condBr c t e => .condBr (c.rename k) t e
  | .ret v => .ret (v.rename k)
  | .mov d v => .mov (d.rename k) (v.rename k)
  | .landingPad d => .landingPad (d.rename k)
  | .typeTest kind d v t => .typeTest kind (d.rename k) (v.rename k) (t.rename k)

def Below (nf nk : Nat) : Instr → Prop
  | .binary _ d a b | .compare _ d a b | .gep d a b => d.Below nk ∧ a.Below nk ∧ b.Below nk
  | .load d a _ => d.Below nk ∧ a.Below nk
  | .store v a _ => v.Below nk ∧ a.Below nk
  | .alloc d c => d.Below nk ∧ c < nk
  | .call c d args | .invoke c d args _ _ =>
    c < nf ∧ (∀ v ∈ d, v.Below nk) ∧ ∀ o ∈ args, o.Below nk
  | .cast d v | .trunc d v | .sext d v | .bitcast d v | .mov d v => d.Below nk ∧ v.Below nk
  | .br _ => True
  | .condBr c _ _ | .ret c => c.Below nk
  | .landingPad d => d.Below nk
  | .typeTest _ d v t => d.Below nk ∧ v.Below nk ∧ t.Below nk

variable {f f' k k' : Nat → Nat} {nf nk mf mk : Nat}

theorem rename_congr {i : Instr} (h : i.Below nf nk) (hf : ∀ c < nf, f c = f' c)
    (hk : ∀ c < nk, k c = k' c) : i.rename f k = i.rename f' k' := by
  have ho : ∀ {o : Operand}, o.Below nk → o.rename k = o.rename k' := Operand.rename_congr hk
  have hv : ∀ {v : Var}, v.Below nk → v.rename k = v.rename k' := fun h => Var.rename_congr h hk
  have hd : ∀ {d : Option Var}, (∀ v ∈ d, v.Below nk) → d.map (Var.rename k) = d.map (Var.rename k') :=
    fun h => Option.map_congr fun v hv' => hv (h v hv')
  have hl : ∀ {os : List Operand}, (∀ o ∈ os, o.Below nk) →
      os.map (Operand.rename k) = os.map (Operand.rename k') :=
    fun h => List.map_congr_left fun o ho' => ho (h o ho')
  cases i <;> simp only [Below] at h <;> simp only [rename]
  all_goals grind [Ty.rename_congr]

theorem rename_rename (i : Instr) : (i.rename f k).rename f' k' = i.rename (f' ∘ f) (k' ∘ k) := by
  cases i <;> simp [rename, Operand.rename_rename, Var.rename_rename, Ty.rename_rename,
    Option.map_map, Function.comp_def]

@[simp] theorem rename_id (i : Instr) : i.rename id id = i := by
  have hv : Var.rename id = id := funext Var.rename_id
  have ho : Operand.rename id = id := funext Operand.rename_id
  cases i <;> simp [rename, Operand.rename_id, hv, ho]

theorem Below.mono {i : Instr} (h : i.Below nf nk) (hf : nf ≤ mf) (hk : nk ≤ mk) :
    i.Below mf mk := by
  have ho : ∀ {o : Operand}, o.Below nk → o.Below mk := Operand.Below.mono hk
  have hv : ∀ {v : Var}, v.Below nk → v.Below mk := fun h => Var.Below.mono h hk
  cases i <;> simp only [Below] at h ⊢
  all_goals grind [Ty.Below.mono]

@[simp] theorem isTerminal_rename (i : Instr) : (i.rename f k).isTerminal = i.isTerminal := by
  cases i <;> rfl

@[simp] theorem successors_rename (i : Instr) : (i.rename f k).successors = i.successors := by
  cases i <;> rfl

@[simp] theorem dst?_rename (i : Instr) : (i.rename f k).dst? = i.dst?.map (Var.rename k) := by
  cases i <;> rfl

end Instr

namespace Block

def rename (f k : Nat → Nat) (b : Block) : Block := ⟨b.label, b.instrs.map (Instr.rename f k)⟩

def Below (nf nk : Nat) (b : Block) : Prop := ∀ i ∈ b.instrs, i.Below nf nk

variable {f f' k k' : Nat → Nat} {nf nk mf mk : Nat}

@[simp] theorem label_rename (b : Block) : (b.rename f k).label = b.label := rfl
@[simp] theorem instrs_rename (b : Block) : (b.rename f k).instrs = b.instrs.map (Instr.rename f k) :=
  rfl

theorem rename_congr {b : Block} (h : b.Below nf nk) (hf : ∀ c < nf, f c = f' c)
    (hk : ∀ c < nk, k c = k' c) : b.rename f k = b.rename f' k' := by
  simp only [rename, List.map_congr_left fun i hi => Instr.rename_congr (h i hi) hf hk]

theorem rename_rename (b : Block) : (b.rename f k).rename f' k' = b.rename (f' ∘ f) (k' ∘ k) := by
  simp [rename, Instr.rename_rename, Function.comp_def]

@[simp] theorem rename_id (b : Block) : b.rename id id = b := by
  have hi : Instr.rename id id = id := funext Instr.rename_id
  simp [rename, hi]

theorem Below.mono {b : Block} (h : b.Below nf nk) (hf : nf ≤ mf) (hk : nk ≤ mk) :
    b.Below mf mk := fun i hi => (h i hi).mono hf hk

@[simp] theorem isTerminal_rename (b : Block) : (b.rename f k).isTerminal = b.isTerminal := by
  simp only [isTerminal, instrs_rename, List.getLast?_map]
  cases b.instrs.getLast? <;> simp

end Block

namespace Function

/-- Renames what a function's parameters, return type and blocks name; its name, span and count
of variables stay. -/
def rename (f k : Nat → Nat) (fn : Function) : Function :=
  { fn with params := fn.params.map (Var.rename k), returnTy := fn.returnTy.rename k,
            blocks := fn.blocks.map (Block.rename f k) }

section
variable {f k : Nat → Nat}

@[simp] theorem name_rename (fn : Function) : (fn.rename f k).name = fn.name := rfl
@[simp] theorem params_rename (fn : Function) : (fn.rename f k).params = fn.params.map (Var.rename k) :=
  rfl
@[simp] theorem returnTy_rename (fn : Function) : (fn.rename f k).returnTy = fn.returnTy.rename k :=
  rfl
@[simp] theorem blocks_rename (fn : Function) :
    (fn.rename f k).blocks = fn.blocks.map (Block.rename f k) := rfl
@[simp] theorem span_rename (fn : Function) : (fn.rename f k).span = fn.span := rfl
@[simp] theorem nextVar_rename (fn : Function) : (fn.rename f k).nextVar = fn.nextVar := rfl

end

/-- Everything a function names lies below `nf` functions and `nk` classes. -/
structure Below (nf nk : Nat) (f : Function) : Prop where
  blocks : ∀ b ∈ f.blocks, b.Below nf nk
  params : ∀ v ∈ f.params, v.Below nk
  returnTy : f.returnTy.Below nk

theorem Below.mono {nf nk mf mk : Nat} {f : Function} (h : f.Below nf nk) (hf : nf ≤ mf)
    (hk : nk ≤ mk) : f.Below mf mk :=
  ⟨fun b hb => (h.blocks b hb).mono hf hk, fun v hv => (h.params v hv).mono hk, h.returnTy.mono hk⟩

theorem rename_congr {nf nk : Nat} {f f' k k' : Nat → Nat} {fn : Function} (h : fn.Below nf nk)
    (hf : ∀ c < nf, f c = f' c) (hk : ∀ c < nk, k c = k' c) : fn.rename f k = fn.rename f' k' := by
  simp only [rename, List.map_congr_left fun v hv => Var.rename_congr (h.params v hv) hk,
    Ty.rename_congr h.returnTy hk,
    List.map_congr_left fun b hb => Block.rename_congr (h.blocks b hb) hf hk]

end Function

end Isel.Graph
