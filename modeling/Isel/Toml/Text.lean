import Isel.Toml.Layout

/-!
# Strings

TOML has four kinds of strings:

* basic strings between quotes, with escapes: `\b \t \n \f \r \" \\`, `\u` with four hex
  digits and `\U` with eight, which must spell a Unicode scalar value;
* literal strings between apostrophes, taken as written;
* multi-line basic strings between three quotes, where a backslash at the end of a line drops
  the line break and the blanks and breaks after it;
* multi-line literal strings between three apostrophes.

A line break right after the opening of a multi-line string is dropped, and a carriage return
and line feed in one reads as a line feed. One or two quotes may stand inside a multi-line
string, and right before its closing three. Control characters other than tab may stand in
none, apart from the line breaks of multi-line strings.

Once a string is open, the text is no TOML if it does not go on as a string: such failures
are final.
-/

namespace Isel.Toml

open Reader

/-- The characters a basic string holds as they are: blanks, printable ASCII but the quote
and the backslash, and all non-ASCII characters. -/
def isBasicChar (c : Char) : Bool :=
  isBlank c || c.toNat == 0x21 || (0x23 ≤ c.toNat ∧ c.toNat ≤ 0x5B) ||
    (0x5D ≤ c.toNat ∧ c.toNat ≤ 0x7E) || 0x80 ≤ c.toNat

/-- The characters of a literal string: tab, printable ASCII but the apostrophe, and all
non-ASCII characters. -/
def isLiteralChar (c : Char) : Bool :=
  c == '\t' || (0x20 ≤ c.toNat ∧ c.toNat ≤ 0x26) || (0x28 ≤ c.toNat ∧ c.toNat ≤ 0x7E) ||
    0x80 ≤ c.toNat

def hexValue? (c : Char) : Option Nat :=
  if '0' ≤ c ∧ c ≤ '9' then some (c.toNat - '0'.toNat)
  else if 'a' ≤ c ∧ c ≤ 'f' then some (c.toNat - 'a'.toNat + 10)
  else if 'A' ≤ c ∧ c ≤ 'F' then some (c.toNat - 'A'.toNat + 10)
  else none

def isHexDigit (c : Char) : Bool := (hexValue? c).isSome

def baseValue (base : Nat) (ds : List Char) : Nat :=
  ds.foldl (fun acc d => acc * base + (hexValue? d).getD 0) 0

def isScalarValue (n : Nat) : Bool := n < 0xD800 || (0xDFFF < n && n ≤ 0x10FFFF)

/-- The character that `n` hex digits spell: exactly `n` must stand here, and they must spell
a Unicode scalar value. -/
def hexEscape (n : Nat) : Reader Char :=
  convert false (ensure false (takeBetween 0 n isHexDigit) (·.length == n)) fun ds =>
    let v := baseValue 16 ds
    if isScalarValue v then .ok (Char.ofNat v) else .error .outOfRange

def escapeLetters : List Char := ['b', 'f', 'n', 'r', 't', 'u', 'U', '\\', '"']

def escape : Reader Char := do
  match ← next with
  | 'b' => pure '\x08'
  | 'f' => pure '\x0c'
  | 'n' => pure '\n'
  | 'r' => pure '\r'
  | 't' => pure '\t'
  | 'u' => commit (label "unicode 4-digit hex code" (hexEscape 4))
  | 'U' => commit (label "unicode 8-digit hex code" (hexEscape 8))
  | '\\' => pure '\\'
  | '"' => pure '"'
  | _ => commit (escapeLetters.foldl (fun p c => expecting (.char c) p) (label "escape sequence" stop))

def escaped : Reader String := do
  char '\\'
  pure (← escape).toString

def basicString : Reader String := do
  char '"'
  let parts ← many (orElse (String.ofList <$> takeWhile1 isBasicChar) escaped)
  commit (label "basic string" (char '"'))
  pure (String.join parts)

def literalString : Reader String := label "literal string" do
  char '\''
  let s ← takeWhile isLiteralChar
  commit (char '\'')
  pure (String.ofList s)

def quotes (q : Char) (follows : List Char → Bool) : Reader (List Char) := fun cs =>
  match cs with
  | a :: b :: r =>
    if a == q && b == q && follows r then .ok ([q, q], r)
    else if a == q && follows (b :: r) then .ok ([q], b :: r)
    else .error (Trouble.plain cs)
  | [a] => if a == q && follows [] then .ok ([q], []) else .error (Trouble.plain cs)
  | [] => .error (Trouble.plain cs)

def startsOtherThan (q : Char) : List Char → Bool
  | c :: _ => c != q
  | [] => false

def startsTriple (q : Char) : List Char → Bool
  | a :: b :: c :: _ => a == q && b == q && c == q
  | _ => false

/-- A backslash that ends a line of a multi-line basic string, with the blanks and line breaks
it drops. -/
def escapedBreak : Reader Unit := do
  char '\\'
  blanks
  newline
  let _ ← many (orElse newline (do let _ ← takeWhile1 isBlank))

/-- A piece of a multi-line basic string without quotes: characters as they are, line-ending
backslashes, escapes and line breaks. -/
def mlBasicPiece : Reader String :=
  orElse (String.ofList <$> takeWhile1 isBasicChar)
    (orElse (do let _ ← many1 escapedBreak; pure "")
      (orElse escaped (do newline; pure "\n")))

/-- The runs of a multi-line basic string that start with one or two quotes, each followed by
at least one piece. Quotes that no piece follows stay read and end the runs. -/
def mlBasicRuns (cs : List Char) : Except Trouble (List String × List Char) :=
  match quotes '"' (startsOtherThan '"') cs with
  | .error t => if t.final then .error t else .ok ([], cs)
  | .ok (q, r) =>
    match many1 mlBasicPiece r with
    | .error t => if t.final then .error t else .ok ([], r)
    | .ok (pieces, r') =>
      if r'.length < cs.length then
        match mlBasicRuns r' with
        | .ok (runs, r'') => .ok ((String.ofList q ++ String.join pieces) :: runs, r'')
        | .error t => .error t
      else .ok ([String.ofList q ++ String.join pieces], r')
termination_by cs.length

def mlBasicBody : Reader String := do
  let first ← many mlBasicPiece
  let runs ← mlBasicRuns
  let last ← optional (quotes '"' (startsTriple '"'))
  pure (String.join first ++ String.join runs ++ String.ofList (last.getD []))

def mlBasicString : Reader String := label "multiline basic string" do
  word ['"', '"', '"']
  let _ ← optional newline
  let body ← commit mlBasicBody
  commit (word ['"', '"', '"'])
  pure body

def mlLiteralPiece : Reader Unit := orElse (do let _ ← satisfy isLiteralChar) newline

def mlLiteralBody : Reader (List Char) := recognize do
  let _ ← many mlLiteralPiece
  let _ ← many (do
    let _ ← quotes '\'' (startsOtherThan '\'')
    let _ ← many1 mlLiteralPiece)
  let _ ← optional (quotes '\'' (startsTriple '\''))

def unixBreaks : List Char → List Char
  | '\r' :: '\n' :: r => '\n' :: unixBreaks r
  | c :: r => c :: unixBreaks r
  | [] => []

def mlLiteralString : Reader String := label "multiline literal string" do
  word ['\'', '\'', '\'']
  let _ ← optional newline
  let body ← commit mlLiteralBody
  commit (word ['\'', '\'', '\''])
  pure (String.ofList (unixBreaks body))

def string : Reader String := fun cs =>
  match cs with
  | '"' :: '"' :: '"' :: _ => mlBasicString cs
  | '"' :: _ => basicString cs
  | '\'' :: '\'' :: '\'' :: _ => mlLiteralString cs
  | _ => literalString cs

end Isel.Toml
