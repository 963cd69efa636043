import Isel.Graph.Program
import Isel.Diagnostic

/-!
# Well-formed programs

The validator looks at every function with blocks. For each block in order it reports, in
this order: a terminator before the last instruction (the first such position), a block
without terminator (an error if the block is reachable, a warning if not), then for each
instruction every target past the last block and a callee that no function has. After all
blocks, every distinct landing block of an `invoke`, in ascending order, that exists and
does not start with a landing pad. Every finding carries the function's span.
-/

namespace Isel.Graph

/-- The findings of the validator. -/
structure Findings where
  errors : List Diagnostic := []
  warnings : List Diagnostic := []
deriving Inhabited

def Findings.ok (r : Findings) : Bool := r.errors.isEmpty

/-- Findings of one part, then of another. -/
instance : Append Findings := ⟨fun a b => ⟨a.errors ++ b.errors, a.warnings ++ b.warnings⟩⟩

namespace Block

def hasEarlyTerminator (b : Block) : Bool := b.instrs.dropLast.any Instr.isTerminal

end Block

namespace Function

/-! ## The findings, one kind at a time -/

def findingPrefix (f : Function) : String := "function `" ++ f.name ++ "`: "

/-- Block `i` has an instruction after a terminator; the message gives the first terminator's
position. -/
def earlyTerminatorError (f : Function) (i : Nat) (b : Block) : Diagnostic :=
  Diagnostic.coded .error .instructionAfterTerminal
    (f.findingPrefix ++ "bb" ++ toString i ++ " has an instruction after its terminator (position " ++
      toString (b.instrs.dropLast.findIdx Instr.isTerminal) ++ ")") f.span

def unterminatedError (f : Function) (i : Nat) (b : Block) : Diagnostic :=
  Diagnostic.coded .error .unterminatedBlock
    (f.findingPrefix ++ "reachable block bb" ++ toString i ++ " (" ++ b.label ++
      ") has no terminator") f.span

def unreachableWarning (f : Function) (i : Nat) (b : Block) : Diagnostic :=
  Diagnostic.coded .warning .unreachableBlock
    (f.findingPrefix ++ "block bb" ++ toString i ++ " (" ++ b.label ++
      ") is unreachable and unterminated") f.span

def danglingError (f : Function) (i t : Nat) : Diagnostic :=
  Diagnostic.coded .error .danglingBlockReference
    (f.findingPrefix ++ "bb" ++ toString i ++ " references non-existent block bb" ++ toString t ++
      " (function has " ++ toString f.blocks.length ++ " blocks)") f.span

def missingCalleeError (f : Function) (i c : Nat) : Diagnostic :=
  Diagnostic.error (f.findingPrefix ++ "bb" ++ toString i ++ " calls non-existent function fn" ++
    toString c) f.span

def missingPadError (f : Function) (l : Nat) : Diagnostic :=
  Diagnostic.coded .error .missingLandingPad
    (f.findingPrefix ++ "landing block bb" ++ toString l ++ " does not start with a landing pad")
    f.span

/-! ## The validator -/

def checkBlock (p : Program) (f : Function) (reach : List Bool) (i : Nat) (b : Block) :
    Findings :=
  let early := if b.hasEarlyTerminator then [f.earlyTerminatorError i b] else []
  let open_ : Findings :=
    if b.isTerminal then {}
    else if reach.getD i false then { errors := [f.unterminatedError i b] }
    else { warnings := [f.unreachableWarning i b] }
  let perInstr := b.instrs.flatMap fun ins =>
    (ins.successors.filter (f.blocks.length ≤ ·)).map (f.danglingError i) ++
      (ins.callee?.filter (p.functions.length ≤ ·)).toList.map (f.missingCalleeError i)
  { errors := early } ++ open_ ++ { errors := perInstr }

def landings (f : Function) : List Nat := f.blocks.flatMap fun b => b.instrs.filterMap Instr.landing?

def landingBlocks (f : Function) : List Nat := (f.landings.mergeSort (· ≤ ·)).eraseDups

def startsWithPad (b : Block) : Bool :=
  match b.instrs with
  | .landingPad _ :: _ => true
  | _ => false

def check (p : Program) (f : Function) : Findings :=
  let reach := f.reachable
  let perBlock := f.blocks.zipIdx.foldl (fun acc (b, i) => acc ++ f.checkBlock p reach i b) {}
  let pads := f.landingBlocks.filterMap fun l =>
    match f.blocks[l]? with
    | some b => if startsWithPad b then none else some (f.missingPadError l)
    | none => none
  perBlock ++ { errors := pads }

end Function

def Program.check (p : Program) : Findings :=
  p.functions.foldl (fun acc f => if f.isDeclaration then acc else acc ++ f.check p) {}

end Isel.Graph
