import Isel.Json.Read
import Isel.Decimal.Notation

/-!
# Writing JSON text

Strings are written between quotes with the quote, the backslash and the control characters
escaped: `\b`, `\t`, `\n`, `\f`, `\r` by name, the others as `\u00XX` with lowercase hex; every
other character stands for itself. `Value.compact` writes a value on one line without
blanks; `Value.pretty` puts each item and member on its own line, indented by two spaces per
level, with `": "` after a key and `[]` and `{}` for empty containers.

A double is written as its shortest decimal, positionally when its leading digit has an
exponent from -5 to 15, else with a signed exponent (`1e+16`, `1e-7`): `Value.ofFloat`.
-/

namespace Isel.Json

def hexDigit (n : Nat) : Char := if n < 10 then Char.ofNat (48 + n) else Char.ofNat (87 + n)

def escapeChar (c : Char) : String :=
  match c with
  | '"' => "\\\""
  | '\\' => "\\\\"
  | '\x08' => "\\b"
  | '\t' => "\\t"
  | '\n' => "\\n"
  | '\x0c' => "\\f"
  | '\r' => "\\r"
  | c =>
    if c.toNat < 0x20 then "\\u00" ++ String.ofList [hexDigit (c.toNat / 16), hexDigit (c.toNat % 16)]
    else String.singleton c

def quote (s : String) : String := "\"" ++ String.join (s.toList.map escapeChar) ++ "\""

def Numeral.text (n : Numeral) : String :=
  let digits (ds : List Nat) := String.ofList (ds.map fun d => Char.ofNat (48 + d))
  (if n.negative then "-" else "") ++ digits n.whole ++
    (match n.fraction with
     | some ds => "." ++ digits ds
     | none => "") ++
    (match n.exponent with
     | some (neg, ds) => "e" ++ (if neg then "-" else "+") ++ digits ds
     | none => "")

/-- The text of a string value. A string with an unpaired surrogate has no text: it is
written empty. -/
def Str.content : Str → String
  | .text s => s
  | .unpaired => ""

def jsonNotation : Decimal.Notation where
  plainFrom := -5
  plainBelow := 16
  plusExponent := true
  tie := .toEven
  inf := "inf"
  nan := "NaN"

def Value.ofFloat (x : Float) : Value :=
  if x.isNaN || x.isInf then .null
  else
    match readNumeral (jsonNotation.render x).toList with
    | some (n, _) => .number n
    | none => .null

mutual

def Value.compact : Value → String
  | .null => "null"
  | .bool b => if b then "true" else "false"
  | .number n => n.text
  | .string s => quote s.content
  | .array items => "[" ++ compactItems items ++ "]"
  | .object members => "\x7b" ++ compactMembers members ++ "\x7d"

def compactItems : List Value → String
  | [] => ""
  | [v] => v.compact
  | v :: vs => v.compact ++ "," ++ compactItems vs

def compactMembers : List (Str × Value) → String
  | [] => ""
  | [(k, v)] => quote k.content ++ ":" ++ v.compact
  | (k, v) :: ms => quote k.content ++ ":" ++ v.compact ++ "," ++ compactMembers ms

end

def indent (level : Nat) : String := String.ofList (List.replicate (2 * level) ' ')

mutual

def Value.prettyAt (level : Nat) : Value → String
  | .array [] => "[]"
  | .object [] => "\x7b\x7d"
  | .array items => "[\n" ++ prettyItems (level + 1) items ++ "\n" ++ indent level ++ "]"
  | .object members => "\x7b\n" ++ prettyMembers (level + 1) members ++ "\n" ++ indent level ++ "\x7d"
  | v => v.compact

def prettyItems (level : Nat) : List Value → String
  | [] => ""
  | [v] => indent level ++ v.prettyAt level
  | v :: vs => indent level ++ v.prettyAt level ++ ",\n" ++ prettyItems level vs

def prettyMembers (level : Nat) : List (Str × Value) → String
  | [] => ""
  | [(k, v)] => indent level ++ quote k.content ++ ": " ++ v.prettyAt level
  | (k, v) :: ms => indent level ++ quote k.content ++ ": " ++ v.prettyAt level ++ ",\n" ++ prettyMembers level ms

end

def Value.pretty (v : Value) : String := v.prettyAt 0

end Isel.Json
