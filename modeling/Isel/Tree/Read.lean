import Isel.Tree.Module
import Isel.Json.Decode
import Isel.Json.Typed

/-!
# Reading a module from JSON

The JSON form of a module: records with snake-case field names, given as objects or as
sequences in field order; variants named in snake case, alone in quotes or as an object of one
member from the name to the content; ids as 32-bit unsigned numbers, span offsets as 64-bit
ones. Literal integers must fit their width; a float literal is read as a double and rounded
once to single precision. Fields with a default may be left out.

`Module.parse` reads a whole text with the readers of `Isel.Json.Decode`, so a text that is
no module gets the first failure met in reading order. Every reader of a container takes the
room left for it (`topRoom` for the module); a record or sequence reads its parts with one
less, and so does a variant written as an object.
-/

namespace Isel.Tree

open Isel.Json Isel.Json.Decode

def u32Max : Nat := Nat.pow 2 32 - 1

def u64Max : Nat := Nat.pow 2 64 - 1

def readDefId : Decode DefId := DefId.mk <$> natAtMost "u32" u32Max

def readLocalId : Decode LocalId := LocalId.mk <$> natAtMost "u32" u32Max

def readLoopId : Decode LoopId := LoopId.mk <$> natAtMost "u32" u32Max

def readSpan (room : Nat) : Decode Span :=
  record "struct Span" [
    .need "start" (natAtMost "usize" u64Max) fun n s => { s with start := n },
    .need "end" (natAtMost "usize" u64Max) fun n s => { s with finish := n },
    .need "start_line" (natAtMost "u32" u32Max) fun n s => { s with line := n },
    .need "start_col" (natAtMost "u32" u32Max) fun n s => { s with column := n }]
    Span.dummy room

def tyOfName : String → Option Ty
  | "unit" => some .unit
  | "nothing" => some .nothing
  | "boolean" => some .boolean
  | "byte" => some .byte
  | "short" => some .short
  | "int" => some .int
  | "long" => some .long
  | "float" => some .float
  | "double" => some .double
  | "char" => some .char
  | "string" => some .string
  | "native_ptr" => some .nativePtr
  | _ => none

def tyCases : List (String × Shape) :=
  [("unit", .bare), ("nothing", .bare), ("boolean", .bare), ("byte", .bare), ("short", .bare),
    ("int", .bare), ("long", .bare), ("float", .bare), ("double", .bare), ("char", .bare),
    ("string", .bare), ("native_ptr", .bare), ("class", .single), ("array", .single)]

def readTy : Nat → Decode Ty
  | 0 => enum tyCases (fun name => (tyOfName name).elim cut pure) 0
  | r + 1 => enum tyCases (fun name =>
      match tyOfName name with
      | some t => pure t
      | none => if name == "class" then Ty.classRef <$> readDefId else Ty.array <$> readTy r)
      (r + 1)

def literalCases : List (String × Shape) :=
  [("null", .bare), ("boolean", .single), ("byte", .single), ("short", .single),
    ("int", .single), ("long", .single), ("float", .single), ("double", .single),
    ("char", .single), ("string", .single)]

def readLiteral (room : Nat) : Decode Literal :=
  enum literalCases (fun name =>
    match name with
    | "null" => pure .null
    | "boolean" => Literal.boolean <$> bool
    | "byte" => Literal.byte <$> intWithin "i8" (-128) 127
    | "short" => Literal.short <$> intWithin "i16" (-32768) 32767
    | "int" => Literal.int <$> intWithin "i32" (-2147483648) 2147483647
    | "long" => Literal.long <$> intWithin "i64" (-9223372036854775808) 9223372036854775807
    | "float" => Literal.float <$> single
    | "double" => Literal.double <$> double
    | "char" => Literal.char <$> char
    | _ => Literal.string <$> text) room

def typeOpOfName : String → Option TypeOp
  | "cast" => some .cast
  | "safe_cast" => some .safeCast
  | "implicit_cast" => some .implicitCast
  | "implicit_not_null" => some .implicitNotNull
  | "coercion_to_unit" => some .coercionToUnit
  | "integer_coercion" => some .integerCoercion
  | "instance_of" => some .instanceOf
  | "not_instance_of" => some .notInstanceOf
  | _ => none

def typeOpCases : List (String × Shape) :=
  [("cast", .bare), ("safe_cast", .bare), ("implicit_cast", .bare), ("implicit_not_null", .bare),
    ("coercion_to_unit", .bare), ("integer_coercion", .bare), ("instance_of", .bare),
    ("not_instance_of", .bare)]

def readTypeOp (room : Nat) : Decode TypeOp :=
  enum typeOpCases (fun name => (typeOpOfName name).elim cut pure) room

def calleeKindCases : List (String × Shape) :=
  [("function", .bare), ("operator", .bare), ("intrinsic", .bare), ("constructor", .record)]

def readCalleeKind (room : Nat) : Decode CalleeKind :=
  enum calleeKindCases (fun name =>
    match name with
    | "function" => pure .function
    | "operator" => pure .operator
    | "intrinsic" => pure .intrinsic
    | _ => CalleeKind.constructor <$> record "struct variant CalleeKind::Constructor"
        [.need "class" readDefId fun c _ => c] ⟨0⟩ (room - 1)) room

def readCallee (room : Nat) : Decode Callee :=
  record "struct Callee" [
    .need "def_id" readDefId fun d c => { c with defId := d },
    .need "name" text fun n c => { c with name := n },
    .need "kind" (readCalleeKind (room - 1)) fun k c => { c with kind := k }]
    ⟨⟨0⟩, "", .function⟩ room

def readFieldRef (room : Nat) : Decode FieldRef :=
  record "struct FieldRef" [
    .need "def_id" readDefId fun d f => { f with defId := d },
    .need "name" text fun n f => { f with name := n }]
    ⟨⟨0⟩, ""⟩ room

def blankExpr : Expr := .node (.literal .null) .unit Span.dummy

def kindCases : List (String × Shape) :=
  [("literal", .single), ("type_operator", .record), ("call", .single),
    ("delegating_constructor_call", .record), ("instance_initializer_call", .record),
    ("block", .single), ("while", .record), ("do_while", .record), ("break", .record),
    ("continue", .record), ("return", .record), ("when", .record), ("variable", .record),
    ("set_variable", .record), ("get_value", .record), ("vararg", .record), ("throw", .record),
    ("try", .record), ("get_field", .record), ("set_field", .record),
    ("get_object_value", .record), ("string_concat", .record), ("class_reference", .record),
    ("function_reference", .record), ("enum_entry", .record)]

def varargCases : List (String × Shape) := [("expr", .single), ("spread", .single)]

def idKind (variant field : String) (make : DefId → ExprKind) (room : Nat) : Decode ExprKind :=
  make <$> record ("struct variant ExprKind::" ++ variant) [.need field readDefId fun d _ => d]
    ⟨0⟩ room

def loopKind (variant : String) (make : LoopId → ExprKind) (room : Nat) : Decode ExprKind :=
  make <$> record ("struct variant ExprKind::" ++ variant) [.need "loop_id" readLoopId fun l _ => l]
    ⟨0⟩ room

mutual

def readExpr : Nat → Decode Expr
  | 0 => record "struct Expr" [] blankExpr 0
  | r + 1 => record "struct Expr" [
      .need "kind" (readKind r) fun k (.node _ t s) => .node k t s,
      .need "ty" (readTy r) fun t (.node k _ s) => .node k t s,
      .maybe "span" (readSpan r) fun s (.node k t _) => .node k t s]
      blankExpr (r + 1)

def readExprs : Nat → Decode (List Expr)
  | 0 => seq cut 0
  | r + 1 => seq (readExpr r) (r + 1)

def readLoop (variant : String) : Nat → Decode (LoopId × Expr × Option Expr)
  | 0 => record ("struct variant ExprKind::" ++ variant) [] (⟨0⟩, blankExpr, none) 0
  | r + 1 => record ("struct variant ExprKind::" ++ variant) [
      .need "loop_id" readLoopId fun l (_, c, b) => (l, c, b),
      .need "condition" (readExpr r) fun c (l, _, b) => (l, c, b),
      .maybe "body" (option (readExpr r)) fun b (l, c, _) => (l, c, b)]
      (⟨0⟩, blankExpr, none) (r + 1)

def readKind : Nat → Decode ExprKind
  | 0 => enum kindCases (fun _ => cut) 0
  | 1 => enum kindCases (fun _ => cut) 1
  | r + 2 => enum kindCases (fun name =>
      let variant (v : String) := "struct variant ExprKind::" ++ v
      match name with
      | "literal" => ExprKind.literal <$> readLiteral (r + 1)
      | "type_operator" =>
        (fun (o, a, t) => ExprKind.typeOp o a t) <$> record (variant "TypeOperator") [
          .need "operator" (readTypeOp r) fun o (_, a, t) => (o, a, t),
          .need "argument" (readExpr r) fun a (o, _, t) => (o, a, t),
          .need "type_operand" (readTy r) fun t (o, a, _) => (o, a, t)]
          (TypeOp.cast, blankExpr, Ty.unit) (r + 1)
      | "call" =>
        (fun (c, d, e, xs) => ExprKind.call c d e xs) <$> record "struct Call" [
          .need "callee" (readCallee r) fun c (_, d, e, xs) => (c, d, e, xs),
          .maybe "dispatch_receiver" (option (readExpr r)) fun d (c, _, e, xs) => (c, d, e, xs),
          .maybe "extension_receiver" (option (readExpr r)) fun e (c, d, _, xs) => (c, d, e, xs),
          .maybe "args" (readExprs r) fun xs (c, d, e, _) => (c, d, e, xs)]
          (⟨⟨0⟩, "", .function⟩, none, none, []) (r + 1)
      | "delegating_constructor_call" =>
        (fun (c, xs) => ExprKind.delegatingCall c xs) <$>
          record (variant "DelegatingConstructorCall") [
          .need "callee" (readCallee r) fun c (_, xs) => (c, xs),
          .maybe "args" (readExprs r) fun xs (c, _) => (c, xs)]
          (⟨⟨0⟩, "", .function⟩, []) (r + 1)
      | "instance_initializer_call" =>
        idKind "InstanceInitializerCall" "class" .instanceInit (r + 1)
      | "block" => ExprKind.block <$> readExprs (r + 1)
      | "while" => (fun (l, c, b) => ExprKind.whileLoop l c b) <$> readLoop "While" (r + 1)
      | "do_while" => (fun (l, c, b) => ExprKind.doWhile l c b) <$> readLoop "DoWhile" (r + 1)
      | "break" => loopKind "Break" .breakLoop (r + 1)
      | "continue" => loopKind "Continue" .continueLoop (r + 1)
      | "return" =>
        (fun (t, v) => ExprKind.ret t v) <$> record (variant "Return") [
          .need "target" readDefId fun t (_, v) => (t, v),
          .need "value" (readExpr r) fun v (t, _) => (t, v)]
          (⟨0⟩, blankExpr) (r + 1)
      | "when" =>
        ExprKind.whenArms <$> record (variant "When") [
          .need "branches" (readArms r) fun bs _ => bs] [] (r + 1)
      | "variable" =>
        (fun (l, n, t, i) => ExprKind.declare l n t i) <$> record (variant "Variable") [
          .need "local" readLocalId fun l (_, n, t, i) => (l, n, t, i),
          .need "name" text fun n (l, _, t, i) => (l, n, t, i),
          .need "var_type" (readTy r) fun t (l, n, _, i) => (l, n, t, i),
          .maybe "initializer" (option (readExpr r)) fun i (l, n, t, _) => (l, n, t, i)]
          (⟨0⟩, "", Ty.unit, none) (r + 1)
      | "set_variable" =>
        (fun (l, n, v) => ExprKind.assign l n v) <$> record (variant "SetVariable") [
          .need "local" readLocalId fun l (_, n, v) => (l, n, v),
          .need "name" text fun n (l, _, v) => (l, n, v),
          .need "value" (readExpr r) fun v (l, n, _) => (l, n, v)]
          (⟨0⟩, "", blankExpr) (r + 1)
      | "get_value" =>
        (fun (l, n) => ExprKind.read l n) <$> record (variant "GetValue") [
          .need "local" readLocalId fun l (_, n) => (l, n),
          .need "name" text fun n (l, _) => (l, n)]
          (⟨0⟩, "") (r + 1)
      | "vararg" =>
        ExprKind.vararg <$> record (variant "Vararg") [
          .need "elements" (readVarargs r) fun es _ => es] [] (r + 1)
      | "throw" =>
        ExprKind.throw <$> record (variant "Throw") [
          .need "value" (readExpr r) fun v _ => v] blankExpr (r + 1)
      | "try" =>
        (fun (b, cs) => ExprKind.tryCatch b cs) <$> record (variant "Try") [
          .need "body" (readExpr r) fun b (_, cs) => (b, cs),
          .need "catches" (readCatches r) fun cs (b, _) => (b, cs)]
          (blankExpr, []) (r + 1)
      | "get_field" =>
        (fun (f, x) => ExprKind.getField f x) <$> record (variant "GetField") [
          .need "field" (readFieldRef r) fun f (_, x) => (f, x),
          .maybe "receiver" (option (readExpr r)) fun x (f, _) => (f, x)]
          (⟨⟨0⟩, ""⟩, none) (r + 1)
      | "set_field" =>
        (fun (f, x, v) => ExprKind.setField f x v) <$> record (variant "SetField") [
          .need "field" (readFieldRef r) fun f (_, x, v) => (f, x, v),
          .maybe "receiver" (option (readExpr r)) fun x (f, _, v) => (f, x, v),
          .need "value" (readExpr r) fun v (f, x, _) => (f, x, v)]
          (⟨⟨0⟩, ""⟩, none, blankExpr) (r + 1)
      | "get_object_value" => idKind "GetObjectValue" "class" .objectValue (r + 1)
      | "string_concat" =>
        ExprKind.stringConcat <$> record (variant "StringConcat") [
          .need "args" (readExprs r) fun xs _ => xs] [] (r + 1)
      | "class_reference" => idKind "ClassReference" "class" .classReference (r + 1)
      | "function_reference" => idKind "FunctionReference" "function" .functionReference (r + 1)
      | _ =>
        (fun (c, n) => ExprKind.enumEntry c n) <$> record (variant "EnumEntry") [
          .need "class" readDefId fun c (_, n) => (c, n),
          .need "name" text fun n (c, _) => (c, n)]
          (⟨0⟩, "") (r + 1))
      (r + 2)

def readArm : Nat → Decode Arm
  | 0 => record "struct Branch" [] (.mk blankExpr blankExpr) 0
  | r + 1 => record "struct Branch" [
      .need "condition" (readExpr r) fun c (.mk _ x) => .mk c x,
      .need "result" (readExpr r) fun x (.mk c _) => .mk c x]
      (.mk blankExpr blankExpr) (r + 1)

def readArms : Nat → Decode (List Arm)
  | 0 => seq cut 0
  | r + 1 => seq (readArm r) (r + 1)

def readCatch : Nat → Decode Catch
  | 0 => record "struct Catch" [] (.mk ⟨0⟩ "" .unit blankExpr) 0
  | r + 1 => record "struct Catch" [
      .need "parameter" readLocalId fun p (.mk _ n t x) => .mk p n t x,
      .need "name" text fun n (.mk p _ t x) => .mk p n t x,
      .need "ty" (readTy r) fun t (.mk p n _ x) => .mk p n t x,
      .need "result" (readExpr r) fun x (.mk p n t _) => .mk p n t x]
      (.mk ⟨0⟩ "" .unit blankExpr) (r + 1)

def readCatches : Nat → Decode (List Catch)
  | 0 => seq cut 0
  | r + 1 => seq (readCatch r) (r + 1)

def readVararg : Nat → Decode VarargElem
  | 0 => enum varargCases (fun _ => cut) 0
  | r + 1 => enum varargCases (fun name =>
      if name == "expr" then VarargElem.value <$> readExpr r else VarargElem.spread <$> readExpr r)
      (r + 1)

def readVarargs : Nat → Decode (List VarargElem)
  | 0 => seq cut 0
  | r + 1 => seq (readVararg r) (r + 1)

end

def readLayout (room : Nat) : Decode Layout :=
  record "struct FieldLayout" [
    .maybe "fields" (seq (pair text (natAtMost "u32" u32Max) (room - 2)) (room - 1))
      fun fs l => { l with fields := fs },
    .maybe "size" (natAtMost "u32" u32Max) fun n l => { l with size := n }]
    {} room

def readParam (room : Nat) : Decode Param :=
  record "struct Param" [
    .need "local" readLocalId fun l p => { p with var := l },
    .need "name" text fun n p => { p with name := n },
    .need "ty" (readTy (room - 1)) fun t p => { p with ty := t }]
    ⟨⟨0⟩, "", .unit⟩ room

def bodyCases : List (String × Shape) :=
  [("expression", .single), ("block", .single), ("synthetic", .bare)]

def readBody (room : Nat) : Decode Body :=
  enum bodyCases (fun name =>
    match name with
    | "expression" => Body.expression <$> readExpr (room - 1)
    | "block" => Body.block <$> readExprs (room - 1)
    | _ => pure .synthetic) room

def readOrigin (room : Nat) : Decode Origin :=
  enum [("defined", .bare), ("fake_override", .bare)]
    (fun name => pure (if name == "defined" then .defined else .fakeOverride)) room

def readFunction (room : Nat) : Decode FunctionDecl :=
  let inner := room - 1
  record "struct FunctionDecl" [
    .need "def_id" readDefId fun d f => { f with defId := d },
    .need "name" text fun n f => { f with name := n },
    .maybe "params" (seq (readParam (inner - 1)) inner) fun ps f => { f with params := ps },
    .need "return_type" (readTy inner) fun t f => { f with returnTy := t },
    .maybe "body" (option (readBody inner)) fun b f => { f with body := b },
    .maybe "origin" (readOrigin inner) fun o f => { f with origin := o },
    .maybe "is_constructor" bool fun b f => { f with isConstructor := b },
    .maybe "constructed_class" (option readDefId) fun c f => { f with constructedClass := c },
    .maybe "span" (readSpan inner) fun s f => { f with span := s }]
    { defId := ⟨0⟩, name := "", params := [], returnTy := .unit, body := none,
      origin := .defined, isConstructor := false, constructedClass := none, span := Span.dummy }
    room

def readField (room : Nat) : Decode FieldDecl :=
  let inner := room - 1
  record "struct FieldDecl" [
    .need "def_id" readDefId fun d f => { f with defId := d },
    .need "name" text fun n f => { f with name := n },
    .need "ty" (readTy inner) fun t f => { f with ty := t },
    .maybe "containing_class" (option readDefId) fun c f => { f with containingClass := c },
    .maybe "initializer" (option (readExpr inner)) fun i f => { f with init := i },
    .maybe "span" (readSpan inner) fun s f => { f with span := s }]
    { defId := ⟨0⟩, name := "", ty := .unit, containingClass := none, init := none,
      span := Span.dummy }
    room

def declCases : List (String × Shape) :=
  [("class", .single), ("function", .single), ("field", .single)]

def blankClass : ClassInfo × List Decl := (⟨⟨0⟩, "", {}, false, Span.dummy⟩, [])

mutual

def readDecl : Nat → Decode Decl
  | 0 => enum declCases (fun _ => cut) 0
  | 1 => enum declCases (fun _ => cut) 1
  | r + 2 => enum declCases (fun name =>
      match name with
      | "class" =>
        (fun (c, ms) => Decl.klass c ms) <$> record "struct ClassDecl" [
          .need "def_id" readDefId fun d (c, ms) => ({ c with defId := d }, ms),
          .need "name" text fun n (c, ms) => ({ c with name := n }, ms),
          .maybe "layout" (readLayout r) fun l (c, ms) => ({ c with layout := l }, ms),
          .maybe "is_unit_singleton" bool fun b (c, ms) => ({ c with isSingleton := b }, ms),
          .maybe "members" (readDecls r) fun ms (c, _) => (c, ms),
          .maybe "span" (readSpan r) fun s (c, ms) => ({ c with span := s }, ms)]
          blankClass (r + 1)
      | "function" => Decl.function <$> readFunction (r + 1)
      | _ => Decl.field <$> readField (r + 1))
      (r + 2)

def readDecls : Nat → Decode (List Decl)
  | 0 => seq cut 0
  | r + 1 => seq (readDecl r) (r + 1)

end

def readModule (room : Nat) : Decode Module :=
  record "struct Module" [
    .maybe "name" text fun n m => { m with name := n },
    .maybe "declarations" (readDecls (room - 1)) fun ds m => { m with decls := ds }]
    ⟨"", []⟩ room

def Module.parse (text : String) : Except String Module :=
  decodeText (readModule topRoom) text

end Isel.Tree
