import Isel.Json.Value

/-!
# Reading JSON text

The grammar is that of RFC 8259: blanks are space, tab, line feed and carriage return; a
number has no leading zero, and a point or an exponent mark must be followed by a digit; a
string holds no raw control character, and its escapes are `\"`, `\\`, `\/`, `\b`, `\f`, `\n`,
`\r`, `\t` and `\u` with four hex digits. Two `\u` escapes spelling a surrogate pair stand
for one character; a surrogate escape outside such a pair makes the string `Str.unpaired`.

`parse` reads a whole text, blanks allowed around the one value. `parseObjectRaw` reads a
text holding one object and also gives the exact text of each member's value.
-/

namespace Isel.Json

def isBlank (c : Char) : Bool := c == ' ' || c == '\t' || c == '\n' || c == '\r'

def skipBlanks : List Char → List Char
  | [] => []
  | c :: cs => if isBlank c then skipBlanks cs else c :: cs

def spanDigits : List Char → List Nat × List Char
  | [] => ([], [])
  | c :: cs =>
    if c.isDigit then
      let (ds, r) := spanDigits cs
      ((c.toNat - '0'.toNat) :: ds, r)
    else ([], c :: cs)

def hexValue? (c : Char) : Option Nat :=
  if c.isDigit then some (c.toNat - '0'.toNat)
  else if 'a' ≤ c ∧ c ≤ 'f' then some (c.toNat - 'a'.toNat + 10)
  else if 'A' ≤ c ∧ c ≤ 'F' then some (c.toNat - 'A'.toNat + 10)
  else none

def hexQuad? (a b c d : Char) : Option Nat := do
  pure ((← hexValue? a) * 4096 + (← hexValue? b) * 256 + (← hexValue? c) * 16 + (← hexValue? d))

def isLeadingSurrogate (n : Nat) : Bool := 0xD800 ≤ n && n ≤ 0xDBFF

def isTrailingSurrogate (n : Nat) : Bool := 0xDC00 ≤ n && n ≤ 0xDFFF

/-- The body of a string read so far: its characters, whether every escape spelled text, and
what follows the closing quote. -/
abbrev StrBody := List Char × Bool × List Char

def StrBody.push (c : Char) : Option StrBody → Option StrBody
  | some (cs, ok, r) => some (c :: cs, ok, r)
  | none => none

def StrBody.spoil : Option StrBody → Option StrBody
  | some (cs, _, r) => some (cs, false, r)
  | none => none

def readStringBody : List Char → Option StrBody
  | [] => none
  | '"' :: r => some ([], true, r)
  | '\\' :: '"' :: r => StrBody.push '"' (readStringBody r)
  | '\\' :: '\\' :: r => StrBody.push '\\' (readStringBody r)
  | '\\' :: '/' :: r => StrBody.push '/' (readStringBody r)
  | '\\' :: 'b' :: r => StrBody.push '\x08' (readStringBody r)
  | '\\' :: 'f' :: r => StrBody.push '\x0c' (readStringBody r)
  | '\\' :: 'n' :: r => StrBody.push '\n' (readStringBody r)
  | '\\' :: 'r' :: r => StrBody.push '\r' (readStringBody r)
  | '\\' :: 't' :: r => StrBody.push '\t' (readStringBody r)
  | '\\' :: 'u' :: a :: b :: c :: d :: r =>
    match hexQuad? a b c d with
    | none => none
    | some n =>
      if isTrailingSurrogate n then StrBody.spoil (readStringBody r)
      else if isLeadingSurrogate n then
        match r with
        | '\\' :: 'u' :: e :: f :: g :: h :: r2 =>
          match hexQuad? e f g h with
          | none => none
          | some n2 =>
            if isTrailingSurrogate n2 then
              StrBody.push (Char.ofNat (0x10000 + (n - 0xD800) * 0x400 + (n2 - 0xDC00))) (readStringBody r2)
            else StrBody.spoil (readStringBody ('\\' :: 'u' :: e :: f :: g :: h :: r2))
        | r => StrBody.spoil (readStringBody r)
      else StrBody.push (Char.ofNat n) (readStringBody r)
  | '\\' :: _ => none
  | c :: r => if c.toNat < 0x20 then none else StrBody.push c (readStringBody r)
termination_by cs => cs.length

def StrBody.str : StrBody → Str
  | (cs, true, _) => .text (String.ofList cs)
  | (_, false, _) => .unpaired

def readFraction : List Char → Option (Option (List Nat) × List Char)
  | '.' :: r =>
    match spanDigits r with
    | ([], _) => none
    | (ds, r) => some (some ds, r)
  | r => some (none, r)

def readExponent : List Char → Option (Option (Bool × List Nat) × List Char)
  | c :: r =>
    if c == 'e' || c == 'E' then
      let (neg, r) := match r with
        | '-' :: r => (true, r)
        | '+' :: r => (false, r)
        | r => (false, r)
      match spanDigits r with
      | ([], _) => none
      | (ds, r) => some (some (neg, ds), r)
    else some (none, c :: r)
  | [] => some (none, [])

def readNumeral (cs : List Char) : Option (Numeral × List Char) := do
  let (neg, cs) := match cs with
    | '-' :: r => (true, r)
    | r => (false, r)
  let (whole, r) ← match cs with
    | '0' :: r => some ([0], r)
    | c :: r =>
      if '1' ≤ c ∧ c ≤ '9' then
        let (ds, r) := spanDigits r
        some ((c.toNat - '0'.toNat) :: ds, r)
      else none
    | [] => none
  let (fraction, r) ← readFraction r
  let (exponent, r) ← readExponent r
  pure (⟨neg, whole, fraction, exponent⟩, r)

mutual

/-- Reads one value after optional blanks. `fuel` bounds the depth of the calls: twice the
length of the text, plus two, is always enough, since every second call consumes a character. -/
def readValue : Nat → List Char → Option (Value × List Char)
  | 0, _ => none
  | fuel + 1, cs =>
    match skipBlanks cs with
    | 'n' :: 'u' :: 'l' :: 'l' :: r => some (.null, r)
    | 't' :: 'r' :: 'u' :: 'e' :: r => some (.bool true, r)
    | 'f' :: 'a' :: 'l' :: 's' :: 'e' :: r => some (.bool false, r)
    | '"' :: r => (readStringBody r).map fun b => (.string b.str, b.2.2)
    | '[' :: r =>
      match skipBlanks r with
      | ']' :: r => some (.array [], r)
      | r => readItems fuel r []
    | '{' :: r =>
      match skipBlanks r with
      | '}' :: r => some (.object [], r)
      | r => readMembers fuel r []
    | cs => (readNumeral cs).map fun (n, r) => (.number n, r)

def readItems : Nat → List Char → List Value → Option (Value × List Char)
  | 0, _, _ => none
  | fuel + 1, cs, acc =>
    match readValue fuel cs with
    | none => none
    | some (v, r) =>
      match skipBlanks r with
      | ',' :: r => readItems fuel r (v :: acc)
      | ']' :: r => some (.array (v :: acc).reverse, r)
      | _ => none

def readMembers : Nat → List Char → List (Str × Value) → Option (Value × List Char)
  | 0, _, _ => none
  | fuel + 1, cs, acc =>
    match skipBlanks cs with
    | '"' :: r =>
      match readStringBody r with
      | none => none
      | some b =>
        match skipBlanks b.2.2 with
        | ':' :: r =>
          match readValue fuel r with
          | none => none
          | some (v, r) =>
            match skipBlanks r with
            | ',' :: r => readMembers fuel r ((b.str, v) :: acc)
            | '}' :: r => some (.object ((b.str, v) :: acc).reverse, r)
            | _ => none
        | _ => none
    | _ => none

end

def fuelFor (cs : List Char) : Nat := 2 * cs.length + 2

def parse (s : String) : Option Value :=
  let cs := s.toList
  match readValue (fuelFor cs) cs with
  | some (v, r) => if skipBlanks r = [] then some v else none
  | none => none

def consumed (cs rest : List Char) : String := String.ofList (cs.take (cs.length - rest.length))

/-- Reads the members of an object after its first blanks, each with the exact text of its
value. -/
def readRawMembers : Nat → List Char → List (Str × Value × String) →
    Option (List (Str × Value × String) × List Char)
  | 0, _, _ => none
  | fuel + 1, cs, acc =>
    match skipBlanks cs with
    | '"' :: r =>
      match readStringBody r with
      | none => none
      | some b =>
        match skipBlanks b.2.2 with
        | ':' :: r =>
          let r := skipBlanks r
          match readValue (fuelFor r) r with
          | none => none
          | some (v, rest) =>
            let m := (b.str, v, consumed r rest)
            match skipBlanks rest with
            | ',' :: rest => readRawMembers fuel rest (m :: acc)
            | '}' :: rest => some ((m :: acc).reverse, rest)
            | _ => none
        | _ => none
    | _ => none

/-- Reads a whole text holding one object: its members in order, each with its value and the
exact text of that value. -/
def parseObjectRaw (s : String) : Option (List (Str × Value × String)) :=
  let cs := s.toList
  match skipBlanks cs with
  | '{' :: r =>
    let r := skipBlanks r
    let members := match r with
      | '}' :: rest => some ([], rest)
      | r => readRawMembers (fuelFor r) r []
    match members with
    | some (ms, rest) => if skipBlanks rest = [] then some ms else none
    | none => none
  | _ => none

end Isel.Json
