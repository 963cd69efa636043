import Isel.Tree.Expr
import Isel.Layout

/-!
# Declarations and modules

A module is a list of declarations: classes (with member declarations), functions and fields.
`Module.lookup?` finds a declaration, members included, by its `DefId`; when two share one, the
later in a depth-first walk (a class before its members) wins.
-/

namespace Isel.Tree

/-- Where a function declaration came from. -/
inductive Origin where
  /-- Written in the source, or synthesized with a body of its own. -/
  | defined
  /-- An inherited member copied into a subclass; it has no code of its own. -/
  | fakeOverride
deriving Repr, DecidableEq, Inhabited

/-- A function parameter. -/
structure Param where
  var : LocalId
  name : String
  ty : Ty
deriving Repr, Inhabited

/-- A function body. -/
inductive Body where
  /-- `fun f() = e`. -/
  | expression (e : Expr)
  /-- `fun f() { stmts }`. -/
  | block (stmts : List Expr)
  /-- A body a compiler plugin produced; it must be lowered earlier. -/
  | synthetic

/-- A function or constructor declaration. -/
structure FunctionDecl where
  defId : DefId
  name : String
  params : List Param
  returnTy : Ty
  body : Option Body
  origin : Origin
  isConstructor : Bool
  /-- For a constructor, the class it initializes. -/
  constructedClass : Option DefId
  span : Span

/-- A field declaration. -/
structure FieldDecl where
  defId : DefId
  name : String
  ty : Ty
  /-- The class of an instance field; `none` for a global. -/
  containingClass : Option DefId
  init : Option Expr
  span : Span

/-- What a class declaration says besides its members. -/
structure ClassInfo where
  defId : DefId
  name : String
  layout : Layout
  /-- Whether the class is the always-empty `Unit` singleton, whose instance never needs
  loading. -/
  isSingleton : Bool
  span : Span

/-- A declaration. -/
inductive Decl where
  | klass (info : ClassInfo) (members : List Decl)
  | function (f : FunctionDecl)
  | field (f : FieldDecl)

def Decl.defId : Decl → DefId
  | .klass c _ => c.defId
  | .function f => f.defId
  | .field f => f.defId

/-- A module: a name and its declarations. -/
structure Module where
  name : String
  decls : List Decl

mutual

def Decl.flatten : List Decl → List Decl
  | [] => []
  | d :: ds => d.flattenOne ++ Decl.flatten ds

def Decl.flattenOne : Decl → List Decl
  | .klass c members => .klass c members :: Decl.flatten members
  | d => [d]

end

def Module.lookup? (m : Module) (id : DefId) : Option Decl :=
  (Decl.flatten m.decls).reverse.find? (·.defId == id)

def Module.function? (m : Module) (id : DefId) : Option FunctionDecl :=
  match m.lookup? id with
  | some (.function f) => some f
  | _ => none

def Module.class? (m : Module) (id : DefId) : Option ClassInfo :=
  match m.lookup? id with
  | some (.klass c _) => some c
  | _ => none

end Isel.Tree
