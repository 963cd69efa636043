import Isel.Proofs.Renaming
import Isel.Proofs.Run
import Mathlib

/-! # The tables of registered functions and classes

Selection registers a function or a class the first time something names it: it appends it to
the program and enters its position in a table under the `DefId` it stands for. The tables of
a run (`Table`) list the positions they name, the latest first, each under a `DefId` of its
own; the class table names every class, the function table every function but the global
initializer at position `0`.

A position's code is one more than the index of its `DefId`, and `0` for a position no table
names. Codes do not depend on the order in which the run met the declarations, and a code once
given never changes, since tables only grow by new positions. `Inv` gathers what every state
of a run keeps: its tables, the classes and declared signatures they registered, and that
everything the program and the bindings name lies below the counts of functions and classes.
-/

namespace Isel.Tree

def Ty.lowered : Ty → Graph.Ty
  | .unit | .nothing => .void
  | .boolean => .boolean
  | .byte => .byte
  | .short => .short
  | .int => .int
  | .long => .long
  | .float => .float
  | .double => .double
  | .char => .char
  | .string => .string
  | .nativePtr | .array _ => .ptr
  | .classRef c => .klassPtr (c.index + 1)

def FunctionDecl.loweredParams (f : FunctionDecl) : List Graph.Var :=
  f.params.map fun p => ⟨p.ty.lowered, p.name⟩

end Isel.Tree

namespace Isel.Lower

open Isel.Graph (Operand Instr Var Block Function)
open Isel.Tree (DefId FunctionDecl)

/-! ## Tables -/

/-- The code of a position: one more than the index of the `DefId` a table enters it under, or
`0` if the table does not name it. -/
def codeOf (tb : List (DefId × Nat)) (j : Nat) : Nat :=
  ((tb.find? (·.2 == j)).map (·.1.index + 1)).getD 0

/-- A table naming the positions `lo, …, n - 1`, the latest first, each under a `DefId` of its
own. -/
structure Table (tb : List (DefId × Nat)) (lo n : Nat) : Prop where
  ids : tb.map Prod.snd = (List.range' lo (n - lo)).reverse
  keys : (tb.map Prod.fst).Nodup
  le : lo ≤ n

namespace Table

variable {tb : List (DefId × Nat)} {lo n j : Nat} {d : DefId}

theorem mem_ids (h : Table tb lo n) : j ∈ tb.map Prod.snd ↔ lo ≤ j ∧ j < n := by
  rw [h.ids, List.mem_reverse, List.mem_range'_1]
  have := h.le
  omega

theorem lt_of_mem (h : Table tb lo n) (hm : (d, j) ∈ tb) : lo ≤ j ∧ j < n :=
  h.mem_ids.1 (List.mem_map.2 ⟨_, hm, rfl⟩)

theorem exists_mem (h : Table tb lo n) (hl : lo ≤ j) (hj : j < n) : ∃ d, (d, j) ∈ tb := by
  obtain ⟨⟨d, j'⟩, hm, rfl⟩ := List.mem_map.1 (h.mem_ids.2 ⟨hl, hj⟩)
  exact ⟨d, hm⟩

theorem ids_nodup (h : Table tb lo n) : (tb.map Prod.snd).Nodup := by
  rw [h.ids, List.nodup_reverse]
  exact List.nodup_range'

theorem lookup_eq_some_of_nodup : ∀ {tb : List (DefId × Nat)}, (tb.map Prod.fst).Nodup →
    (tb.lookup d = some j ↔ (d, j) ∈ tb)
  | [], _ => by simp [List.lookup]
  | (d', j') :: tb, hn => by
    rw [List.map_cons, List.nodup_cons] at hn
    by_cases hd : d = d'
    · subst hd
      -- the first entry is the only one under its `DefId`
      have hj : (d, j) ∈ tb → False := fun hm => hn.1 (List.mem_map.2 ⟨_, hm, rfl⟩)
      simp only [List.lookup, beq_self_eq_true, Option.some.injEq, List.mem_cons, Prod.mk.injEq,
        true_and]
      constructor
      · rintro rfl
        exact .inl rfl
      · rintro (rfl | hm)
        · rfl
        · exact (hj hm).elim
    · have hne : (d == d') = false := by simpa using hd
      simp only [List.lookup, hne, List.mem_cons, Prod.mk.injEq, hd, false_and, false_or]
      exact lookup_eq_some_of_nodup hn.2

theorem lookup_eq_some (h : Table tb lo n) : tb.lookup d = some j ↔ (d, j) ∈ tb :=
  lookup_eq_some_of_nodup h.keys

theorem find?_eq_of_nodup : ∀ {tb : List (DefId × Nat)}, (tb.map Prod.snd).Nodup → (d, j) ∈ tb →
    tb.find? (·.2 == j) = some (d, j)
  | [], _, hm => by simp at hm
  | e :: tb, hn, hm => by
    rw [List.map_cons, List.nodup_cons] at hn
    by_cases he : e.2 = j
    · -- the first entry is the only one at its position
      have hde : (d, j) = e := by
        rcases List.mem_cons.1 hm with h' | h'
        · exact h'
        · exact (hn.1 (he ▸ List.mem_map.2 ⟨_, h', rfl⟩)).elim
      simp [he, hde]
    · have hm' : (d, j) ∈ tb := by
        rcases List.mem_cons.1 hm with h' | h'
        · exact (he (h' ▸ rfl)).elim
        · exact h'
      rw [List.find?_cons, show (e.2 == j) = false by simpa using he]
      exact find?_eq_of_nodup hn.2 hm'

theorem codeOf_of_mem (h : Table tb lo n) (hm : (d, j) ∈ tb) : codeOf tb j = d.index + 1 := by
  simp [codeOf, find?_eq_of_nodup h.ids_nodup hm]

theorem codeOf_of_not_mem (h : Table tb lo n) (hj : ¬ (lo ≤ j ∧ j < n)) : codeOf tb j = 0 := by
  have hf : tb.find? (·.2 == j) = none := by
    refine List.find?_eq_none.2 fun e he hj' => hj ?_
    exact h.mem_ids.1 (List.mem_map.2 ⟨e, he, by simpa using hj'⟩)
  simp [codeOf, hf]

theorem codeOf_inj (h : Table tb lo n) {j₁ j₂ : Nat} (h₁ : lo ≤ j₁ ∧ j₁ < n)
    (h₂ : lo ≤ j₂ ∧ j₂ < n) (he : codeOf tb j₁ = codeOf tb j₂) : j₁ = j₂ := by
  obtain ⟨d₁, m₁⟩ := h.exists_mem h₁.1 h₁.2
  obtain ⟨d₂, m₂⟩ := h.exists_mem h₂.1 h₂.2
  rw [h.codeOf_of_mem m₁, h.codeOf_of_mem m₂] at he
  have hd : d₁ = d₂ := by
    cases d₁
    cases d₂
    simpa using he
  subst hd
  exact congrArg Prod.snd (List.inj_on_of_nodup_map h.keys m₁ m₂ rfl)

theorem push (h : Table tb lo n) (hd : d ∉ tb.map Prod.fst) : Table ((d, n) :: tb) lo (n + 1) := by
  refine ⟨?_, List.nodup_cons.2 ⟨hd, h.keys⟩, Nat.le_succ_of_le h.le⟩
  have hn : n + 1 - lo = (n - lo) + 1 := by have := h.le; omega
  rw [List.map_cons, h.ids, hn, List.range'_concat, List.reverse_append]
  have := h.le
  simp only [List.reverse_singleton, List.singleton_append, Nat.one_mul]
  congr 1
  omega

theorem codeOf_suffix {tb' : List (DefId × Nat)} {n' : Nat} (h : Table tb lo n)
    (h' : Table tb' lo n') (hs : tb <:+ tb') (hj : j < n) : codeOf tb' j = codeOf tb j := by
  obtain ⟨new, rfl⟩ := hs
  -- no new entry is at a position the smaller table names
  have hnew : new.find? (·.2 == j) = none := by
    refine List.find?_eq_none.2 fun e he hej => ?_
    have hej : e.2 = j := by simpa using hej
    have hd := h'.ids_nodup
    rw [List.map_append, List.nodup_append] at hd
    have hlo : lo ≤ j := (h'.mem_ids.1 (List.mem_map.2 ⟨e, List.mem_append_left _ he, hej⟩)).1
    exact hd.2.2 _ (List.mem_map.2 ⟨e, he, hej⟩) _ (h.mem_ids.2 ⟨hlo, hj⟩) rfl
  simp [codeOf, List.find?_append, hnew]

end Table

/-! ## What every state keeps -/

namespace State

def kcode (s : State) : Nat → Nat := codeOf s.klasses

def fcode (s : State) : Nat → Nat := codeOf s.functions

end State

/-- What every state of a run keeps: the tables name the classes and the functions of the
program but the global initializer, a class is registered with the name and layout of its
declaration and a declared function with its declared signature, and every function, every
binding and the cursor name only what the program has. -/
structure Inv (ctx : Context) (s : State) : Prop where
  klasses : Table s.klasses 0 s.program.klasses.length
  functions : Table s.functions 1 s.program.functions.length
  klassOf : ∀ c k, (c, k) ∈ s.klasses → s.program.klasses[k]? = some (ctx.klassOf c)
  declared : ∀ d j f, (d, j) ∈ s.functions → ctx.functionDecl? d = some f →
    (s.fn j).name = ctx.functionName f ∧
      (s.fn j).params.map (Var.rename s.kcode) = f.loweredParams ∧
      (s.fn j).returnTy.rename s.kcode = f.returnTy.lowered
  below : ∀ j, (s.fn j).Below s.program.functions.length s.program.klasses.length
  fresh : ∀ j < s.program.functions.length, (s.fn j).blocks = [] →
    (s.fn j).nextVar = 0 ∧ (s.fn j).span = Span.dummy
  entered : s.curFn.blocks ≠ []
  env : ∀ e ∈ s.env, e.2.Below s.program.klasses.length
  cursor : s.cursor.fn < s.program.functions.length

namespace Inv

variable {ctx : Context} {s : State}

theorem kcode_of_mem (h : Inv ctx s) {c : DefId} {k : Nat} (hm : (c, k) ∈ s.klasses) :
    s.kcode k = c.index + 1 :=
  h.klasses.codeOf_of_mem hm

theorem fcode_of_mem (h : Inv ctx s) {d : DefId} {j : Nat} (hm : (d, j) ∈ s.functions) :
    s.fcode j = d.index + 1 :=
  h.functions.codeOf_of_mem hm

theorem fcode_zero (h : Inv ctx s) : s.fcode 0 = 0 :=
  h.functions.codeOf_of_not_mem (by omega)

theorem kcode_inj (h : Inv ctx s) {k₁ k₂ : Nat} (h₁ : k₁ < s.program.klasses.length)
    (h₂ : k₂ < s.program.klasses.length) (he : s.kcode k₁ = s.kcode k₂) : k₁ = k₂ :=
  h.klasses.codeOf_inj ⟨Nat.zero_le _, h₁⟩ ⟨Nat.zero_le _, h₂⟩ he

end Inv

theorem Inv.start (ctx : Context) (name : String) : Inv ctx (State.start name) := by
  refine ⟨⟨rfl, List.nodup_nil, Nat.le_refl _⟩, ⟨rfl, List.nodup_nil, Nat.le_refl _⟩,
    fun _ _ h => by simp [State.start] at h, fun _ _ _ h => by simp [State.start] at h,
    fun j => ?_, fun j hj h => ?_, by simp [State.curFn, State.fn, State.start, Program.start],
    fun _ h => by simp [State.start] at h, by simp [State.start, Program.start]⟩
  -- the global initializer has one empty block; past it, the default function has none
  · rcases j with _ | j
    · refine ⟨?_, ?_, ?_⟩ <;>
        simp [State.fn, State.start, Program.start, Graph.Block.Below, Graph.Ty.Below]
    · refine ⟨?_, ?_, ?_⟩ <;> simp only [State.fn, State.start, Program.start,
        List.getD_eq_getElem?_getD, List.getElem?_cons_succ, List.getElem?_nil, Option.getD_none]
      · exact fun b hb => absurd hb List.not_mem_nil
      · exact fun v hv => absurd hv List.not_mem_nil
      · trivial
  -- the one function there is has its entry block
  · have : j = 0 := by simpa [State.start, Program.start] using hj
    subst this
    simp [State.fn, State.start, Program.start] at h

end Isel.Lower
