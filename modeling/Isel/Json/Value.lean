/-!
# JSON values

A JSON value as read from text. A number keeps its written parts: whether it is an integer,
and which one, is for the reader that consumes it to decide. An object keeps its members in
order, repeats included: a repeated key is an error only for a reader that looks at that
key. A string whose escapes spell an unpaired UTF-16 surrogate is no text: it is kept apart,
since it may only be skipped.
-/

namespace Isel.Json

/-- A number as written: `-`, the digits before the point, those after it, the exponent. -/
structure Numeral where
  negative : Bool
  whole : List Nat
  fraction : Option (List Nat)
  exponent : Option (Bool × List Nat)
deriving Repr, DecidableEq, Inhabited

/-- The content of a JSON string. -/
inductive Str where
  | text (s : String)
  | unpaired
deriving Repr, DecidableEq, Inhabited

/-- A JSON value. -/
inductive Value where
  | null
  | bool (b : Bool)
  | number (n : Numeral)
  | string (s : Str)
  | array (items : List Value)
  | object (members : List (Str × Value))
deriving Repr, Inhabited

def Numeral.ofNat (n : Nat) : Numeral :=
  ⟨false, (Nat.toDigits 10 n).map (fun c => c.toNat - '0'.toNat), none, none⟩

def Numeral.ofInt (i : Int) : Numeral := { Numeral.ofNat i.natAbs with negative := i < 0 }

namespace Value

def str (s : String) : Value := .string (.text s)

def nat (n : Nat) : Value := .number (.ofNat n)

def int (i : Int) : Value := .number (.ofInt i)

def obj (members : List (String × Value)) : Value :=
  .object (members.map fun (k, v) => (.text k, v))

def list {α : Type} (f : α → Value) (xs : List α) : Value := .array (xs.map f)

def opt {α : Type} (f : α → Value) : Option α → Value
  | some a => f a
  | none => .null

end Value

end Isel.Json
