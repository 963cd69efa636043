import Mathlib
import Isel.Graph.Listing

/-!
# The lines of a listing

The listing of a program is a sequence of lines, each ended by a line feed (`Program.lines`):
a line per class, an empty line after the classes if there are any, and the lines of each
function, an empty line between two functions. A declaration is one line; a definition is its
head, then for each block a line naming it followed by one line per instruction, then `}`.

Constants are written on one line whatever they hold: numbers are digits, a float is written
with digits, a point, an exponent mark and signs, and characters and strings are quoted with the
line feed escaped. Names are written as they are, so a line stays one line when the names of
the program have no line feed (`Program.Printable`); then the listing has exactly one line
feed per line.
-/

namespace Isel.Text

def OneLine (s : String) : Prop := '\n' ∉ s.toList

instance : DecidablePred OneLine := fun s => inferInstanceAs (Decidable ('\n' ∉ s.toList))

@[simp] theorem oneLine_append {s t : String} : OneLine (s ++ t) ↔ OneLine s ∧ OneLine t := by
  simp [OneLine, String.toList_append, not_or]

@[simp] theorem oneLine_ofList {l : List Char} : OneLine (String.ofList l) ↔ '\n' ∉ l := by
  simp [OneLine]

@[simp] theorem oneLine_join {l : List String} : OneLine (String.join l) ↔ ∀ s ∈ l, OneLine s := by
  simp [OneLine, String.toList_join]

theorem oneLine_intercalate {sep : String} (hs : OneLine sep) :
    ∀ {l : List String}, (∀ s ∈ l, OneLine s) → OneLine (sep.intercalate l)
  | [], _ => by simp [OneLine]
  | [a], hl => by simpa using hl
  | a :: b :: l, hl => by
    rw [String.intercalate_cons_cons, oneLine_append, oneLine_append]
    exact ⟨⟨hl a List.mem_cons_self, hs⟩,
      oneLine_intercalate hs fun s hm => hl s (List.mem_cons_of_mem a hm)⟩

theorem newline_not_mem_toDigitsCore (b : Nat) :
    ∀ fuel n (ds : List Char), '\n' ∉ ds → '\n' ∉ Nat.toDigitsCore b fuel n ds
  | 0, _, _, h => h
  | fuel + 1, n, ds, h => by
    have hd : (n % b).digitChar ≠ '\n' := Nat.digitChar_ne _ (by decide)
    simp only [Nat.toDigitsCore]
    split
    · simp [Ne.symm hd, h]
    · exact newline_not_mem_toDigitsCore b fuel _ _ (by simp [Ne.symm hd, h])

/-- Digits in any base are one line. -/
@[simp] theorem newline_not_mem_toDigits (b n : Nat) : '\n' ∉ Nat.toDigits b n :=
  newline_not_mem_toDigitsCore b _ _ _ (by simp)

@[simp] theorem newline_not_mem_take_toDigits (b n k : Nat) : '\n' ∉ (Nat.toDigits b n).take k :=
  fun h => newline_not_mem_toDigits b n (List.mem_of_mem_take h)

@[simp] theorem newline_not_mem_drop_toDigits (b n k : Nat) : '\n' ∉ (Nat.toDigits b n).drop k :=
  fun h => newline_not_mem_toDigits b n (List.mem_of_mem_drop h)

@[simp] theorem newline_not_mem_tail_toDigits (b n : Nat) : '\n' ∉ (Nat.toDigits b n).tail :=
  fun h => newline_not_mem_toDigits b n (List.mem_of_mem_tail h)

@[simp] theorem oneLine_natRepr (n : Nat) : OneLine n.repr := by
  simp [OneLine, Nat.toList_repr]

@[simp] theorem oneLine_intRepr (i : Int) : OneLine i.repr := by
  cases i <;> simp +decide [Int.repr, OneLine, Nat.toList_repr]

/-- An escaped character is one line: the line feed itself is written `\n`. -/
@[simp] theorem oneLine_escapeIn (q c : Char) : OneLine (escapeIn q c) := by
  unfold escapeIn
  split
  · decide
  · decide
  · decide
  · decide
  · decide
  · -- every other character is itself, not a line feed
    rename_i hnl _
    split
    · simp [OneLine, Ne.symm hnl]
    · split
      · simp [OneLine, hexDigits]
      · simp [OneLine, Ne.symm hnl]

@[simp] theorem oneLine_quoteChar (c : Char) : OneLine (quoteChar c) := by
  simpa [quoteChar] using (by decide : OneLine "'")

@[simp] theorem oneLine_quoteString (s : String) : OneLine (quoteString s) := by
  simpa [quoteString] using (by decide : OneLine "\"")

theorem count_unlines : ∀ {l : List String}, (∀ s ∈ l, OneLine s) →
    (String.join (l.map (· ++ "\n"))).toList.count '\n' = l.length
  | [], _ => rfl
  | s :: l, h => by
    have hs : s.toList.count '\n' = 0 := List.count_eq_zero_of_not_mem (h s List.mem_cons_self)
    rw [List.map_cons, String.join_cons, String.toList_append, String.toList_append,
      List.count_append, List.count_append, hs,
      count_unlines fun t ht => h t (List.mem_cons_of_mem s ht)]
    simp +decide
    omega

theorem splitOn_unlines : ∀ {l : List String}, (∀ s ∈ l, OneLine s) →
    (String.join (l.map (· ++ "\n"))).toList.splitOn '\n' = l.map String.toList ++ [[]]
  | [], _ => rfl
  | s :: l, h => by
    have hs : '\n' ∉ s.toList := h s List.mem_cons_self
    rw [List.map_cons, String.join_cons, String.toList_append, String.toList_append,
      show "\n".toList = ['\n'] from rfl, List.append_assoc, List.singleton_append,
      List.splitOn_append_cons_self_of_not_mem hs,
      splitOn_unlines fun t ht => h t (List.mem_cons_of_mem s ht)]
    rfl

end Isel.Text

namespace Isel.Decimal

open Isel.Text (OneLine)

@[simp] theorem toList_decimalDigits (n : Nat) : (decimalDigits n).toList = Nat.toDigits 10 n := by
  simp [decimalDigits]

@[simp] theorem oneLine_zeros (n : Nat) : OneLine (zeros n) := by
  simp [zeros, List.mem_replicate]

theorem oneLine_layout (f : Notation) (d : Dec) : OneLine (f.layout d) := by
  unfold Notation.layout
  split
  · decide
  · dsimp only
    split
    · split
      · simp +decide [OneLine, zeros, List.mem_replicate]
      · split <;> simp +decide [OneLine, zeros, List.mem_replicate]
    · split <;> split <;> (try split) <;> simp +decide [OneLine]
theorem oneLine_render {f : Notation} (hn : OneLine f.nan) (hi : OneLine f.inf) (x : Float) :
    OneLine (f.render x) := by
  unfold Notation.render
  split
  · exact hn
  · dsimp only
    split <;> split <;> simp +decide [hi, oneLine_layout]

end Isel.Decimal

namespace Isel.Graph

open Isel.Text (OneLine)

@[simp] theorem Ty.oneLine_display (t : Ty) : OneLine t.display := by
  cases t <;> simp +decide [Ty.display]

@[simp] theorem oneLine_render_listing (x : Float) : OneLine (listingNotation.render x) :=
  Decimal.oneLine_render (by decide) (by decide) x

@[simp] theorem oneLine_blockName (b : Nat) : OneLine (blockName b) := by
  simp +decide [blockName]

mutual

def ConstValue.names : ConstValue → List String
  | .symbol name => [name]
  | .elements items => Operand.listNames items
  | _ => []

def Operand.names : Operand → List String
  | .var v => [v.name]
  | .const _ value => value.names
  | .null | .unit => []

def Operand.listNames : List Operand → List String
  | [] => []
  | o :: os => o.names ++ Operand.listNames os

end

def Operand.Printable (o : Operand) : Prop := ∀ n ∈ o.names, OneLine n

mutual

/-- A constant is written on one line exactly when its names have no line feed. -/
@[simp] theorem ConstValue.oneLine_listing (ty : Ty) :
    ∀ c : ConstValue, OneLine (c.listing ty) ↔ ∀ n ∈ c.names, OneLine n
  | .null => by simp +decide [ConstValue.listing]
  | .bool b => by cases b <;> simp +decide [ConstValue.listing]
  | .int v => by simp +decide [ConstValue.listing, ConstValue.names]
  | .float x => by simp +decide [ConstValue.listing, ConstValue.names]
  | .char c => by simp [ConstValue.listing, ConstValue.names]
  | .string t => by simp [ConstValue.listing, ConstValue.names]
  | .symbol name => by simp +decide [ConstValue.listing, ConstValue.names]
  | .elements items => by
    simp +decide [ConstValue.listing, ConstValue.names, Operand.oneLine_listingList items]

@[simp] theorem Operand.oneLine_listing :
    ∀ o : Operand, OneLine o.listing ↔ o.Printable
  | .var v => by simp [Operand.listing, Operand.Printable, Operand.names]
  | .const ty value => by
    simp [Operand.listing, Operand.Printable, Operand.names, ConstValue.oneLine_listing ty value]
  | .null => by simp +decide [Operand.Printable]
  | .unit => by simp +decide [Operand.Printable]

@[simp] theorem Operand.oneLine_listingList :
    ∀ os : List Operand, OneLine (Operand.listingList os) ↔ ∀ n ∈ Operand.listNames os, OneLine n
  | [] => by decide
  | [o] => by simp [Operand.listingList, Operand.listNames, Operand.oneLine_listing o, Operand.Printable]
  | o :: o' :: os => by
    rw [Operand.listingList.eq_3 o (o' :: os) (by simp)]
    simp +decide [Operand.listNames, Operand.oneLine_listing o, Operand.oneLine_listingList (o' :: os),
      Operand.Printable, or_imp, forall_and]

end

def Instr.names : Instr → List String
  | .binary _ d l r | .compare _ d l r | .gep d l r => d.name :: (l.names ++ r.names)
  | .load d a _ => d.name :: a.names
  | .store v a _ => v.names ++ a.names
  | .alloc d _ | .landingPad d => [d.name]
  | .call _ d args | .invoke _ d args _ _ => d.toList.map (·.name) ++ Operand.listNames args
  | .cast d v | .trunc d v | .sext d v | .bitcast d v | .mov d v | .typeTest _ d v _ =>
    d.name :: v.names
  | .br _ => []
  | .condBr v _ _ | .ret v => v.names

theorem Instr.name_mem_names {i : Instr} {d : Var} (h : i.dst? = some d) : d.name ∈ i.names := by
  cases i <;> simp_all [Instr.dst?, Instr.names]

def Instr.Printable (i : Instr) : Prop := ∀ n ∈ i.names, OneLine n

/-- A function whose text keeps to its lines: no line feed in its name, the names of its
parameters, the labels of its blocks or the names its instructions write. -/
structure Function.Printable (f : Function) : Prop where
  name : OneLine f.name
  params : ∀ v ∈ f.params, OneLine v.name
  labels : ∀ b ∈ f.blocks, OneLine b.label
  instrs : ∀ b ∈ f.blocks, ∀ i ∈ b.instrs, i.Printable

/-- A class whose line keeps to itself: no line feed in its name or its fields' names. -/
structure Klass.Printable (k : Klass) : Prop where
  name : OneLine k.name
  fields : ∀ fd ∈ k.layout.fields, OneLine fd.1

/-- A program whose listing keeps to its lines. -/
structure Program.Printable (p : Program) : Prop where
  functions : ∀ f ∈ p.functions, f.Printable
  klasses : ∀ k ∈ p.klasses, k.Printable

def Klass.text (k : Klass) : String :=
  let fields := k.layout.fields.map fun (name, offset) => name ++ ": +" ++ toString offset
  "klass " ++ k.name ++ " \x7b" ++ (if fields.isEmpty then "" else " " ++ ", ".intercalate fields) ++
    " \x7d size " ++ toString k.layout.size

def Function.head (f : Function) : String :=
  f.name ++ "(" ++ ", ".intercalate (f.params.map fun v => v.name ++ ": " ++ v.ty.display) ++
    ") -> " ++ f.returnTy.display

theorem Klass.Printable.text {k : Klass} (hk : k.Printable) : OneLine k.text := by
  unfold Klass.text
  have hf : ∀ x ∈ k.layout.fields.map (fun (name, offset) => name ++ ": +" ++ toString offset),
      OneLine x := by
    simp only [List.mem_map]
    rintro x ⟨⟨name, offset⟩, hm, rfl⟩
    simpa +decide using hk.fields _ hm
  have hi := Text.oneLine_intercalate (by decide : OneLine ", ") hf
  dsimp only
  split
  · simp +decide [hk.name]
  · simp +decide [hk.name]
    simpa using hi

theorem Function.Printable.head {f : Function} (hf : f.Printable) : OneLine f.head := by
  have hps : ∀ x ∈ f.params.map (fun v => v.name ++ ": " ++ v.ty.display), OneLine x := by
    simp only [List.mem_map]
    rintro x ⟨v, hv, rfl⟩
    simpa +decide using hf.params v hv
  simpa +decide [Function.head, hf.name] using Text.oneLine_intercalate (by decide : OneLine ", ") hps

namespace Program

variable {p : Program}

theorem Printable.calleeName (hp : p.Printable) (c : Nat) : OneLine (p.calleeName c) := by
  unfold Program.calleeName
  split
  · rename_i f hf
    exact (hp.functions f (List.mem_of_getElem? hf)).name
  · simp +decide

theorem Printable.instrBody (hp : p.Printable) {i : Instr} (hi : i.Printable) :
    OneLine (p.instrBody i) := by
  cases i
  case binary op d l r => cases op <;> simp_all +decide [Program.instrBody, Instr.Printable, Operand.Printable, Instr.names]
  case compare op d l r => cases op <;> simp_all +decide [Program.instrBody, Instr.Printable, Operand.Printable, Instr.names]
  case alloc d k =>
    simp only [Program.instrBody, Text.oneLine_append]
    refine ⟨by decide, ?_⟩
    split
    · rename_i kl hk
      exact (hp.klasses kl (List.mem_of_getElem? hk)).name
    · decide
  case typeTest kind d v t => cases kind <;> simp_all +decide [Program.instrBody, Instr.Printable, Operand.Printable, Instr.names]
  all_goals simp_all +decide [Program.instrBody, Instr.Printable, Operand.Printable, Instr.names, hp.calleeName]

theorem Printable.instrLine (hp : p.Printable) {i : Instr} (hi : i.Printable) :
    OneLine (p.instrLine i) := by
  unfold Program.instrLine
  refine Text.oneLine_append.2 ⟨?_, hp.instrBody hi⟩
  split
  · rename_i d hd
    simpa +decide using hi _ (Instr.name_mem_names hd)
  · decide

/-! ## The lines -/

private theorem mem_intercalate {α : Type} {sep : List α} :
    ∀ {ls : List (List α)} {x : α}, x ∈ sep.intercalate ls → x ∈ sep ∨ ∃ l ∈ ls, x ∈ l
  | [], _, h => by simp at h
  | [l], _, h => .inr ⟨l, List.mem_singleton_self l, by simpa using h⟩
  | l :: l' :: ls, x, h => by
    rw [List.intercalate_cons_cons, List.mem_append, List.mem_append] at h
    rcases h with (h | h) | h
    · exact .inr ⟨l, List.mem_cons_self, h⟩
    · exact .inl h
    · rcases mem_intercalate h with h | ⟨l'', hl, hx⟩
      · exact .inl h
      · exact .inr ⟨l'', List.mem_cons_of_mem l hl, hx⟩

private theorem length_intercalate {α : Type} {sep : List α} :
    ∀ ls : List (List α),
      (sep.intercalate ls).length = (ls.map List.length).sum + sep.length * (ls.length - 1)
  | [] => by simp
  | [l] => by simp
  | l :: l' :: ls => by
    rw [List.intercalate_cons_cons, List.length_append, List.length_append,
      length_intercalate (l' :: ls)]
    simp only [List.map_cons, List.sum_cons, List.length_cons, Nat.add_sub_cancel]
    rw [Nat.mul_succ]
    omega

def blockLines (p : Program) (b : Block) (i : Nat) : List String :=
  (blockName i ++ ":  ; " ++ b.label) :: b.instrs.map fun ins => "    " ++ p.instrLine ins

/-- The lines of a function: a declaration's single line, or a definition's head, the lines of
its blocks and the closing brace. -/
def functionLines (p : Program) (f : Function) : List String :=
  if f.isDeclaration then ["declare " ++ f.head]
  else
    ("fun " ++ f.head ++ " \x7b") :: f.blocks.zipIdx.flatMap (fun x => p.blockLines x.1 x.2) ++
      ["\x7d"]

/-- The lines of a program: its classes, an empty line after them if there are any, and its
functions with an empty line between two. -/
def lines (p : Program) : List String :=
  p.klasses.map Klass.text ++ (if p.klasses.isEmpty then [] else [""]) ++
    [""].intercalate (p.functions.map p.functionLines)

theorem functionText_eq (f : Function) :
    p.functionText f = String.join ((p.functionLines f).map (· ++ "\n")) := by
  apply String.toList_injective
  unfold functionText functionLines Function.head blockLines
  split <;> simp [String.toList_join, String.toList_append, List.flatMap_map, List.flatMap_assoc]

theorem intercalate_functionText :
    ∀ fs : List Function, "\n".intercalate (fs.map p.functionText) =
      String.join (([""].intercalate (fs.map p.functionLines)).map (· ++ "\n"))
  | [] => rfl
  | [f] => by simp [functionText_eq]
  | f :: g :: fs => by
    rw [List.map_cons, List.map_cons, String.intercalate_cons_cons, ← List.map_cons,
      intercalate_functionText (g :: fs)]
    simp only [List.map_cons]
    rw [List.intercalate_cons_cons, List.map_append, List.map_append, String.join_append,
      String.join_append, functionText_eq]
    rfl

theorem listing_eq_lines (p : Program) : p.listing = String.join (p.lines.map (· ++ "\n")) := by
  unfold listing lines
  rw [intercalate_functionText, List.map_append, List.map_append, String.join_append,
    String.join_append]
  congr 2
  · simp only [List.map_map]
    rfl
  · cases p.klasses.isEmpty <;> rfl

theorem Printable.functionLines (hp : p.Printable) {f : Function} (hf : f ∈ p.functions) :
    ∀ l ∈ p.functionLines f, OneLine l := by
  have hf' := hp.functions f hf
  unfold Program.functionLines
  split
  · simpa +decide using hf'.head
  · intro l hl
    simp only [List.mem_cons, List.mem_append, List.mem_flatMap, List.not_mem_nil, or_false] at hl
    rcases hl with (rfl | ⟨⟨b, i⟩, hb, hl⟩) | rfl
    · simpa +decide using hf'.head
    · have hb' := List.fst_mem_of_mem_zipIdx hb
      simp only [blockLines, List.mem_cons, List.mem_map] at hl
      rcases hl with rfl | ⟨ins, hins, rfl⟩
      · simpa +decide using hf'.labels b hb'
      · simpa +decide using hp.instrLine (hf'.instrs b hb' ins hins)
    · decide

theorem Printable.lines (hp : p.Printable) : ∀ l ∈ p.lines, OneLine l := by
  intro l hl
  simp only [Program.lines, List.mem_append, List.mem_map] at hl
  rcases hl with (⟨k, hk, rfl⟩ | hl) | hl
  · exact (hp.klasses k hk).text
  · split at hl
    · simp at hl
    · simp only [List.mem_singleton] at hl
      subst hl
      decide
  · rcases mem_intercalate hl with hl | ⟨ls, hls, hl⟩
    · simp only [List.mem_singleton] at hl
      subst hl
      decide
    · obtain ⟨f, hf, rfl⟩ := List.mem_map.1 hls
      exact hp.functionLines hf l hl

theorem length_functionLines (f : Function) :
    (p.functionLines f).length =
      1 + if f.blocks = [] then 0 else 1 + (f.blocks.map fun b => 1 + b.instrs.length).sum := by
  unfold functionLines
  split
  · rename_i hd
    simp [(List.isEmpty_iff.1 hd : f.blocks = [])]
  · rename_i hd
    have hne : f.blocks ≠ [] := fun h => hd (List.isEmpty_iff.2 h)
    have hz : f.blocks.zipIdx.map (fun x => x.1.instrs.length + 1) =
        f.blocks.map fun b => 1 + b.instrs.length := by
      rw [← List.zipIdx_map_fst 0 f.blocks, List.map_map, List.zipIdx_map_fst]
      simp [Nat.add_comm]
    simp [hne, blockLines, List.length_flatMap, hz]
    omega

/-- The number of lines: one per class, an empty line after the classes if there are any, per
function its head, or the lines of its blocks and its braces, and an empty line between two
functions. -/
theorem length_lines (p : Program) :
    p.lines.length = p.klasses.length + (if p.klasses = [] then 0 else 1) +
      (p.functions.map fun f => 1 + if f.blocks = [] then 0 else
        1 + (f.blocks.map fun b => 1 + b.instrs.length).sum).sum + (p.functions.length - 1) := by
  simp only [lines, List.length_append, List.length_map, length_intercalate, List.map_map]
  have hf : List.length ∘ p.functionLines = fun f => 1 + if f.blocks = [] then 0 else
      1 + (f.blocks.map fun b => 1 + b.instrs.length).sum :=
    funext fun f => p.length_functionLines f
  rw [hf]
  cases p.klasses <;> simp <;> omega

theorem Printable.count_newlines (hp : p.Printable) : p.listing.toList.count '\n' = p.lines.length := by
  rw [listing_eq_lines]
  exact Text.count_unlines hp.lines

theorem Printable.splitOn_listing (hp : p.Printable) :
    p.listing.toList.splitOn '\n' = p.lines.map String.toList ++ [[]] := by
  rw [listing_eq_lines]
  exact Text.splitOn_unlines hp.lines

end Program

end Isel.Graph
