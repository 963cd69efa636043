import Isel.Graph.Program
import Isel.Json.Write
import Isel.Json.Typed

/-!
# Programs as JSON

`Program.toJson` writes a program with snake-case names: records with their fields in a fixed
order (a function is `id`, `name`, `parameters`, `return_type`, `blocks`), variants tagged by
name, an instruction as an object whose first member `inst` names it. A double that is not
finite is written `null`.

`Program.ofJson?` reads a program written by hand in that form, without the `id` fields:
functions, blocks and classes take their positions as ids. Parameters, blocks, instructions,
arguments, classes, layouts and the global initializer may be left out; a function may carry
a `span`.
-/

namespace Isel.Graph

open Isel.Json

/-! ## Writing -/

def Ty.toJson : Ty → Value
  | .void => .str "void"
  | .boolean => .str "boolean"
  | .byte => .str "byte"
  | .short => .str "short"
  | .int => .str "int"
  | .long => .str "long"
  | .float => .str "float"
  | .double => .str "double"
  | .char => .str "char"
  | .ptr => .str "ptr"
  | .klassPtr k => .obj [("klass_ptr", .nat k)]
  | .string => .str "string"

def Var.toJson (v : Var) : Value := .obj [("ty", v.ty.toJson), ("name", .str v.name)]

mutual

def ConstValue.toJson : ConstValue → Value
  | .null => .str "null"
  | .bool b => .obj [("bool", .bool b)]
  | .int v => .obj [("int", .int v)]
  | .float x => .obj [("float", .ofFloat x)]
  | .char c => .obj [("char", .str (String.singleton c))]
  | .string s => .obj [("string", .str s)]
  | .symbol s => .obj [("symbol", .str s)]
  | .elements items => .obj [("elements", .array (Operand.toJsonList items))]

def Operand.toJson : Operand → Value
  | .var v => .obj [("variable", v.toJson)]
  | .const ty value => .obj [("constant", .obj [("ty", ty.toJson), ("value", value.toJson)])]
  | .null => .str "null"
  | .unit => .str "unit"

def Operand.toJsonList : List Operand → List Value
  | [] => []
  | o :: os => o.toJson :: Operand.toJsonList os

end

def Instr.toJson (i : Instr) : Value :=
  let tagged (tag : String) (fields : List (String × Value)) := Value.obj (("inst", .str tag) :: fields)
  let dst (d : Var) := ("def", d.toJson)
  let args (os : List Operand) := ("args", .array (Operand.toJsonList os))
  match i with
  | .binary op d l r =>
    let name := match op with
      | .add => "add" | .sub => "sub" | .mul => "mul" | .sdiv => "s_div" | .srem => "s_rem"
    tagged "binary" [("op", .str name), dst d, ("lhs", l.toJson), ("rhs", r.toJson)]
  | .compare op d l r =>
    let name := match op with
      | .icmpEq => "icmp_eq" | .icmpNe => "icmp_ne" | .fcmpEq => "fcmp_eq"
    tagged "compare" [("op", .str name), dst d, ("lhs", l.toJson), ("rhs", r.toJson)]
  | .load d a o => tagged "load" [dst d, ("address", a.toJson), ("offset", .nat o)]
  | .store v a o => tagged "store" [("value", v.toJson), ("address", a.toJson), ("offset", .nat o)]
  | .alloc d k => tagged "alloc" [dst d, ("klass", .nat k)]
  | .call c d os => tagged "call" [("callee", .nat c), ("def", .opt Var.toJson d), args os]
  | .invoke c d os n l =>
    tagged "invoke" [("callee", .nat c), ("def", .opt Var.toJson d), args os, ("normal", .nat n),
      ("landing", .nat l)]
  | .cast d v => tagged "cast" [dst d, ("value", v.toJson)]
  | .trunc d v => tagged "trunc" [dst d, ("value", v.toJson)]
  | .sext d v => tagged "sext" [dst d, ("value", v.toJson)]
  | .bitcast d v => tagged "bitcast" [dst d, ("value", v.toJson)]
  | .gep d b o => tagged "gep" [dst d, ("base", b.toJson), ("offset", o.toJson)]
  | .br t => tagged "br" [("target", .nat t)]
  | .condBr c t f => tagged "cond_br" [("cond", c.toJson), ("if_true", .nat t), ("if_false", .nat f)]
  | .ret v => tagged "ret" [("value", v.toJson)]
  | .mov d v => tagged "mov" [dst d, ("value", v.toJson)]
  | .landingPad d => tagged "landing_pad" [dst d]
  | .typeTest k d v ty =>
    let name := match k with
      | .isInstance => "is_instance" | .notInstance => "not_instance"
    tagged "type_test" [("kind", .str name), dst d, ("value", v.toJson), ("ty", ty.toJson)]

def layoutToJson (l : Layout) : Value :=
  .obj [("fields", .list (fun (n, o) => .array [.str n, .nat o]) l.fields), ("size", .nat l.size)]

def Program.toJson (p : Program) : Value :=
  .obj [
    ("functions", .array (p.functions.zipIdx.map fun (f, i) => .obj [
      ("id", .nat i), ("name", .str f.name), ("parameters", .list Var.toJson f.params),
      ("return_type", f.returnTy.toJson),
      ("blocks", .array (f.blocks.zipIdx.map fun (b, j) => .obj [
        ("id", .nat j), ("label", .str b.label), ("instructions", .list Instr.toJson b.instrs)]))])),
    ("klasses", .array (p.klasses.zipIdx.map fun (k, i) => .obj [
      ("id", .nat i), ("name", .str k.name), ("layout", layoutToJson k.layout)])),
    ("global_init", .nat p.globalInit)]

/-! ## Reading

A program is read the way it is written, with these allowances: a record may be an array of
its fields in order, a missing list is empty, a block's missing label is empty, and a class's
layout, a program's initialiser and a function's span have defaults. An instruction is tagged
by its member `inst` and so is read through a buffer (see `openTagged`): everything in it
counts, and out of it an empty object is no content, like `null`.
-/

def readIndex : Value → Option Nat := readU32

def readTy (buffered : Bool) (room : Nat) (v : Value) : Option Ty := do
  match ← openVariant room v with
  | .withContent "klass_ptr" c => Ty.klassPtr <$> readIndex c
  | w =>
    match w.unitNameIn buffered with
    | some "void" => some .void
    | some "boolean" => some .boolean
    | some "byte" => some .byte
    | some "short" => some .short
    | some "int" => some .int
    | some "long" => some .long
    | some "float" => some .float
    | some "double" => some .double
    | some "char" => some .char
    | some "ptr" => some .ptr
    | some "string" => some .string
    | _ => none

def readVar (buffered : Bool) : Nat → Value → Option Var
  | 0, _ => none
  | r + 1, v => do
    let fs ← openRecord ["ty", "name"] (r + 1) v
    pure ⟨← fs.need 0 "ty" (readTy buffered r), ← fs.need 1 "name" readText⟩

mutual

def readConstValue : Nat → Value → Option ConstValue
  | 0, _ => none
  | r + 1, v => do
    match ← openVariant (r + 1) v with
    | .withContent "bool" c => ConstValue.bool <$> readBool c
    | .withContent "int" c => ConstValue.int <$> readSigned 64 c
    | .withContent "float" c => ConstValue.float <$> readFloat c
    | .withContent "char" c => ConstValue.char <$> readChar c
    | .withContent "string" c => ConstValue.string <$> readText c
    | .withContent "symbol" c => ConstValue.symbol <$> readText c
    | .withContent "elements" c => ConstValue.elements <$> readOperandSeq r c
    | w => if w.bufferedUnitName? == some "null" then some .null else none

def readOperand : Nat → Value → Option Operand
  | 0, _ => none
  | 1, v => do
    match (← openVariant 1 v).bufferedUnitName? with
    | some "null" => some .null
    | some "unit" => some .unit
    | _ => none
  | r + 2, v => do
    match ← openVariant (r + 2) v with
    | .withContent "variable" c => Operand.var <$> readVar true (r + 1) c
    | .withContent "constant" c => do
      let fs ← openRecord ["ty", "value"] (r + 1) c
      pure (.const (← fs.need 0 "ty" (readTy true r)) (← fs.need 1 "value" (readConstValue r)))
    | w =>
      match w.bufferedUnitName? with
      | some "null" => some .null
      | some "unit" => some .unit
      | _ => none

def readOperandSeq : Nat → Value → Option (List Operand)
  | 0, _ => none
  | r + 1, v => do (← openSeq (r + 1) v).mapM (readOperand r)

end

def readNamed {α : Type} (table : List (String × α)) (room : Nat) (v : Value) : Option α := do
  let name ← (← openVariant room v).bufferedUnitName?
  table.lookup name

def instrFields : String → Option (List String)
  | "binary" | "compare" => some ["op", "def", "lhs", "rhs"]
  | "load" => some ["def", "address", "offset"]
  | "store" => some ["value", "address", "offset"]
  | "alloc" => some ["def", "klass"]
  | "call" => some ["callee", "def", "args"]
  | "invoke" => some ["callee", "def", "args", "normal", "landing"]
  | "cast" | "trunc" | "sext" | "bitcast" | "mov" => some ["def", "value"]
  | "gep" => some ["def", "base", "offset"]
  | "br" => some ["target"]
  | "cond_br" => some ["cond", "if_true", "if_false"]
  | "ret" => some ["value"]
  | "landing_pad" => some ["def"]
  | "type_test" => some ["kind", "def", "value", "ty"]
  | _ => none

def readInstr (room : Nat) (v : Value) : Option Instr := do
  let (tag, raw) ← openTagged "inst" room v
  let r := room - 1
  let names ← instrFields tag
  let fs ← raw.fit names
  let pos (name : String) : Nat := names.idxOf name
  let need {α : Type} (name : String) (f : Value → Option α) : Option α := fs.need (pos name) name f
  let dst := need "def" (readVar true r)
  let op := fun (name : String) => need name (readOperand r)
  let index := fun (name : String) => need name readIndex
  let args := fs.withDefault (pos "args") "args" [] (readOperandSeq r)
  let optDst := fs.optional (pos "def") "def" (readVar true r)
  match tag with
  | "binary" =>
    let bop ← need "op" (readNamed [("add", BinOp.add), ("sub", .sub), ("mul", .mul),
      ("s_div", .sdiv), ("s_rem", .srem)] r)
    pure (.binary bop (← dst) (← op "lhs") (← op "rhs"))
  | "compare" =>
    let cop ← need "op" (readNamed [("icmp_eq", CmpOp.icmpEq), ("icmp_ne", .icmpNe),
      ("fcmp_eq", .fcmpEq)] r)
    pure (.compare cop (← dst) (← op "lhs") (← op "rhs"))
  | "load" => pure (.load (← dst) (← op "address") (← need "offset" readU32))
  | "store" => pure (.store (← op "value") (← op "address") (← need "offset" readU32))
  | "alloc" => pure (.alloc (← dst) (← index "klass"))
  | "call" => pure (.call (← index "callee") (← optDst) (← args))
  | "invoke" =>
    pure (.invoke (← index "callee") (← optDst) (← args) (← index "normal") (← index "landing"))
  | "cast" => pure (.cast (← dst) (← op "value"))
  | "trunc" => pure (.trunc (← dst) (← op "value"))
  | "sext" => pure (.sext (← dst) (← op "value"))
  | "bitcast" => pure (.bitcast (← dst) (← op "value"))
  | "gep" => pure (.gep (← dst) (← op "base") (← op "offset"))
  | "br" => pure (.br (← index "target"))
  | "cond_br" => pure (.condBr (← op "cond") (← index "if_true") (← index "if_false"))
  | "ret" => pure (.ret (← op "value"))
  | "mov" => pure (.mov (← dst) (← op "value"))
  | "landing_pad" => pure (.landingPad (← dst))
  | "type_test" =>
    let kind ← need "kind" (readNamed [("is_instance", TestKind.isInstance),
      ("not_instance", .notInstance)] r)
    pure (.typeTest kind (← dst) (← op "value") (← need "ty" (readTy true r)))
  | _ => none

def readSeqAt {α : Type} (f : Nat → Value → Option α) : Nat → Value → Option (List α)
  | 0, _ => none
  | r + 1, v => do (← openSeq (r + 1) v).mapM (f r)

def readBlock : Nat → Value → Option Block
  | 0, _ => none
  | r + 1, v => do
    let fs ← openRecord ["label", "instructions"] (r + 1) v
    pure ⟨← fs.withDefault 0 "label" "" readText,
      ← fs.withDefault 1 "instructions" [] (readSeqAt readInstr r)⟩

def readSpan (room : Nat) (v : Value) : Option Span := do
  let fs ← openRecord ["start", "end", "start_line", "start_col"] room v
  pure ⟨← fs.need 0 "start" readU64, ← fs.need 1 "end" readU64,
    ← fs.need 2 "start_line" readU32, ← fs.need 3 "start_col" readU32⟩

def readFunction : Nat → Value → Option Function
  | 0, _ => none
  | r + 1, v => do
    let fs ← openRecord ["name", "parameters", "return_type", "blocks", "span"] (r + 1) v
    pure {
      name := ← fs.need 0 "name" readText
      params := ← fs.withDefault 1 "parameters" [] (readSeqAt (readVar false) r)
      returnTy := ← fs.need 2 "return_type" (readTy false r)
      blocks := ← fs.withDefault 3 "blocks" [] (readSeqAt readBlock r)
      span := ← fs.withDefault 4 "span" Span.dummy (readSpan r) }

def readLayout : Nat → Value → Option Layout
  | 0, _ => none
  | r + 1, v => do
    let fs ← openRecord ["fields", "size"] (r + 1) v
    let entry : Nat → Value → Option (String × Nat)
      | 0, _ => none
      | e + 1, w => do
        match ← openSeq (e + 1) w with
        | [name, offset] => pure (← readText name, ← readU32 offset)
        | _ => none
    pure ⟨← fs.withDefault 0 "fields" [] (readSeqAt entry r), ← fs.withDefault 1 "size" 0 readU32⟩

def readKlass : Nat → Value → Option Klass
  | 0, _ => none
  | r + 1, v => do
    let fs ← openRecord ["name", "layout"] (r + 1) v
    pure ⟨← fs.need 0 "name" readText, ← fs.withDefault 1 "layout" {} (readLayout r)⟩

def Program.ofJson? : Nat → Value → Option Program
  | 0, _ => none
  | r + 1, v => do
    let fs ← openRecord ["functions", "klasses", "global_init"] (r + 1) v
    pure {
      functions := ← fs.withDefault 0 "functions" [] (readSeqAt readFunction r)
      klasses := ← fs.withDefault 1 "klasses" [] (readSeqAt readKlass r)
      globalInit := ← fs.withDefault 2 "global_init" 0 readIndex }

end Isel.Graph
