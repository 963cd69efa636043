import Isel.Graph.Program
import Isel.Decimal.Notation
import Isel.Text.Quoted

/-!
# The program listing

The text form of a program: one line per class, `klass NAME { f: +0, g: +4 } size N`, and a
blank line after them if there are any; then the functions, a blank line between two. A
declaration is the single line `declare NAME(p: ty, …) -> ty`; a definition opens with
`fun NAME(p: ty, …) -> ty {`, lists each block as a line `bbK:  ; LABEL` followed by its
instructions indented by four spaces, and closes with `}`.

An instruction that defines a variable starts with `NAME: TY = `. A callee or class that does
not exist is written `fnN` or `?`. Constants: integers as `V:ty`, doubles as their shortest
decimal and `:ty` (positional when the leading digit's exponent is from -4 to 15), characters
and strings quoted, symbols as `@name`, element lists in brackets.
-/

namespace Isel.Graph

def listingNotation : Decimal.Notation where
  plainFrom := -4
  plainBelow := 16
  plusExponent := false
  tie := .up
  inf := "inf"
  nan := "NaN"

mutual

def ConstValue.listing (ty : Ty) : ConstValue → String
  | .null => "null"
  | .bool b => if b then "true" else "false"
  | .int v => toString v ++ ":" ++ ty.display
  | .float x => listingNotation.render x ++ ":" ++ ty.display
  | .char c => Text.quoteChar c
  | .string s => Text.quoteString s
  | .symbol name => "@" ++ name
  | .elements items => "[" ++ Operand.listingList items ++ "]"

def Operand.listing : Operand → String
  | .var v => v.name
  | .const ty value => value.listing ty
  | .null => "null"
  | .unit => "unit"

def Operand.listingList : List Operand → String
  | [] => ""
  | [o] => o.listing
  | o :: os => o.listing ++ ", " ++ Operand.listingList os

end

/-- `bbN`. -/
def blockName (b : Nat) : String := "bb" ++ toString b

namespace Program

def calleeName (p : Program) (callee : Nat) : String :=
  match p.functions[callee]? with
  | some f => f.name
  | none => "fn" ++ toString callee

def instrBody (p : Program) : Instr → String
  | .binary op _ lhs rhs =>
    let name := match op with
      | .add => "add" | .sub => "sub" | .mul => "mul" | .sdiv => "sdiv" | .srem => "srem"
    name ++ " " ++ lhs.listing ++ ", " ++ rhs.listing
  | .compare op _ lhs rhs =>
    let name := match op with
      | .icmpEq => "icmp eq" | .icmpNe => "icmp ne" | .fcmpEq => "fcmp eq"
    name ++ " " ++ lhs.listing ++ ", " ++ rhs.listing
  | .load _ address offset => "load " ++ address.listing ++ "+" ++ toString offset
  | .store value address offset =>
    "store " ++ value.listing ++ ", " ++ address.listing ++ "+" ++ toString offset
  | .alloc _ klass =>
    "alloc " ++ (match p.klasses[klass]? with
      | some k => k.name
      | none => "?")
  | .call callee _ args => "call " ++ p.calleeName callee ++ "(" ++ Operand.listingList args ++ ")"
  | .invoke callee _ args normal landing =>
    "invoke " ++ p.calleeName callee ++ "(" ++ Operand.listingList args ++ ") to " ++
      blockName normal ++ " unwind " ++ blockName landing
  | .cast _ v => "cast " ++ v.listing
  | .trunc _ v => "trunc " ++ v.listing
  | .sext _ v => "sext " ++ v.listing
  | .bitcast _ v => "bitcast " ++ v.listing
  | .gep _ base offset => "gep " ++ base.listing ++ ", " ++ offset.listing
  | .br t => "br " ++ blockName t
  | .condBr c t f => "condbr " ++ c.listing ++ ", " ++ blockName t ++ ", " ++ blockName f
  | .ret v => "ret " ++ v.listing
  | .mov _ v => "mov " ++ v.listing
  | .landingPad _ => "landingpad"
  | .typeTest kind _ v ty =>
    (match kind with
     | .isInstance => "instanceof "
     | .notInstance => "!instanceof ") ++ v.listing ++ ", " ++ ty.display

def instrLine (p : Program) (i : Instr) : String :=
  (match i.dst? with
   | some d => d.name ++ ": " ++ d.ty.display ++ " = "
   | none => "") ++ p.instrBody i

def klassLine (k : Klass) : String :=
  let fields := k.layout.fields.map fun (name, offset) => name ++ ": +" ++ toString offset
  "klass " ++ k.name ++ " \x7b" ++ (if fields.isEmpty then "" else " " ++ ", ".intercalate fields) ++
    " \x7d size " ++ toString k.layout.size ++ "\n"

def functionText (p : Program) (f : Function) : String :=
  let params := ", ".intercalate (f.params.map fun v => v.name ++ ": " ++ v.ty.display)
  let head := f.name ++ "(" ++ params ++ ") -> " ++ f.returnTy.display
  if f.isDeclaration then "declare " ++ head ++ "\n"
  else
    "fun " ++ head ++ " \x7b\n" ++
      String.join (f.blocks.zipIdx.map fun (b, i) =>
        blockName i ++ ":  ; " ++ b.label ++ "\n" ++
          String.join (b.instrs.map fun ins => "    " ++ p.instrLine ins ++ "\n")) ++
      "\x7d\n"

def listing (p : Program) : String :=
  String.join (p.klasses.map klassLine) ++ (if p.klasses.isEmpty then "" else "\n") ++
    "\n".intercalate (p.functions.map p.functionText)

end Program

end Isel.Graph
