import Isel.Graph.Instr
import Isel.Layout
import Isel.Span

/-!
# Blocks, functions and programs

A function is a list of blocks; a function without blocks is a declaration. A program is a
list of functions, the first of them the global initializer, and a list of classes. Blocks,
functions and classes are named by their positions, so a target or callee past the end names
nothing.

`Function.reachable` marks the blocks that a path from the entry reaches, each step going to
a successor of a block's terminator; `Function.predecessors` lists, for every block and every
target past the end, the blocks that branch to it, once per edge.
-/

namespace Isel.Graph

/-- A basic block: a label for the reader and its instructions. -/
structure Block where
  label : String
  instrs : List Instr
deriving Inhabited

namespace Block

def isTerminal (b : Block) : Bool :=
  match b.instrs.getLast? with
  | some i => i.isTerminal
  | none => false

def successors (b : Block) : List Nat :=
  match b.instrs.getLast? with
  | some i => if i.isTerminal then i.successors else []
  | none => []

end Block

/-- A function. -/
structure Function where
  name : String
  params : List Var
  returnTy : Ty
  blocks : List Block
  span : Span := Span.dummy
  nextVar : Nat := 0
deriving Inhabited

/-- A class: its name and layout. -/
structure Klass where
  name : String
  layout : Layout
deriving Inhabited

/-- A program. -/
structure Program where
  functions : List Function
  klasses : List Klass
  globalInit : Nat := 0
deriving Inhabited

namespace Function

def isDeclaration (f : Function) : Bool := f.blocks.isEmpty

def succs (f : Function) (b : Nat) : List Nat := (f.blocks[b]?.map Block.successors).getD []

theorem count_false_set_true {marks : List Bool} {b : Nat} (h : marks[b]? = some false) :
    (marks.set b true).count false < marks.count false := by
  obtain ⟨hb, hf⟩ := List.getElem?_eq_some_iff.1 h
  have hpos : 0 < marks.count false := List.count_pos_iff.2 (hf ▸ List.getElem_mem hb)
  rw [List.count_set hb, hf]
  show marks.count false - 1 + 0 < marks.count false
  omega

/-- The worklist loop of `reachable`, with the stack's top at its head. It takes the top block:
one that exists and is not marked yet is marked and its successors are pushed, the last of them
on top; any other is dropped. Each round marks a block or shortens the stack, so the loop ends. -/
def visit (f : Function) (marks : List Bool) : List Nat → List Bool
  | [] => marks
  | b :: rest =>
    if _h : marks[b]? = some false then f.visit (marks.set b true) ((f.succs b).reverse ++ rest)
    else f.visit marks rest
termination_by stack => (marks.count false, stack.length)
decreasing_by
  · exact Prod.Lex.left _ _ (count_false_set_true _h)
  · exact Prod.Lex.right _ (Nat.lt_succ_self _)

/-- For each block, whether a path from the entry reaches it: the worklist search from the entry
block, over no marks at first. -/
def reachable (f : Function) : List Bool :=
  let marks := List.replicate f.blocks.length false
  if f.blocks.isEmpty then marks else f.visit marks [0]

def edges (f : Function) : List (Nat × Nat) :=
  f.blocks.zipIdx.flatMap fun (b, i) => b.successors.map fun s => (i, s)

/-- For every block and every target past the end, in ascending order, the blocks that go to
it, once per edge, in block order. -/
def predecessors (f : Function) : List (Nat × List Nat) :=
  let n := f.blocks.length
  let es := f.edges
  let outside := ((es.map (·.2)).filter (n ≤ ·)).mergeSort (· ≤ ·)
  let keys := List.range n ++ outside.eraseDups
  keys.map fun k => (k, (es.filter (·.2 == k)).map (·.1))

end Function

end Isel.Graph
