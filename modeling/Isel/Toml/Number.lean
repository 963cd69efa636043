import Isel.Toml.Text
import Isel.Decimal.Binary

/-!
# Integers and floats

An integer is decimal, with a sign and no leading zero, or hexadecimal (`0x`), octal (`0o`)
or binary (`0b`) without a sign; single underscores may stand between digits. It must lie in
the 64-bit range.

A float has a decimal integer part and then an exponent, or a fraction and perhaps an
exponent; digits after the point and in the exponent may have leading zeros. `inf` and `nan`
take a sign. A float whose value rounds to positive infinity is refused.

Numbers are read as the reader of values tries them: the readers here may fail without
committing, so that another reading can be tried; an underscore not followed by a digit, a
point or exponent mark without digits, and a prefix without digits are final failures.
-/

namespace Isel.Toml

open Reader

def isDecDigit (c : Char) : Bool := '0' ≤ c ∧ c ≤ '9'

def isSign (c : Char) : Bool := c == '+' || c == '-'

def decValue (ds : List Char) : Nat := baseValue 10 ds

def splitSign : List Char → Bool × List Char
  | '-' :: r => (true, r)
  | '+' :: r => (false, r)
  | r => (false, r)

def int64Max : Int := 9223372036854775807

/-- Digits after a first one, with single underscores between them: an underscore must be
followed by a digit. -/
def moreDigits (isDigit : Char → Bool) : Reader Unit := do
  let _ ← many (orElse (do let _ ← satisfy isDigit)
    (do char '_'; let _ ← commit (expecting (.kind "digit") (satisfy isDigit))))

def decInt : Reader (List Char) := label "integer" (recognize do
  let _ ← optional (satisfy isSign)
  orElse (do let _ ← satisfy (fun c => '1' ≤ c ∧ c ≤ '9'); moreDigits isDecDigit)
    (do let _ ← satisfy isDecDigit))

def radixInt (pre : Char) (isDigit : Char → Bool) (name : String) : Reader (List Char) :=
  label name do
    word ['0', pre]
    commit (recognize do let _ ← satisfy isDigit; moreDigits isDigit)

def decIntValue (text : List Char) : Except Cause Int :=
  let (neg, ds) := splitSign (text.filter (· != '_'))
  let n : Int := decValue ds
  let v := if neg then -n else n
  if int64Max < v then .error .tooLarge
  else if v < -int64Max - 1 then .error .tooSmall
  else .ok v

def radixValue (base : Nat) (ds : List Char) : Except Cause Int :=
  let n : Int := baseValue base (ds.filter (· != '_'))
  if int64Max < n then .error .tooLarge else .ok n

def isOctDigit (c : Char) : Bool := '0' ≤ c ∧ c ≤ '7'

def isBinDigit (c : Char) : Bool := c == '0' || c == '1'

def integer : Reader Int := fun cs =>
  match cs with
  | '0' :: 'x' :: _ => commit (convert false (radixInt 'x' isHexDigit "hexadecimal integer") (radixValue 16)) cs
  | '0' :: 'o' :: _ => commit (convert false (radixInt 'o' isOctDigit "octal integer") (radixValue 8)) cs
  | '0' :: 'b' :: _ => commit (convert false (radixInt 'b' isBinDigit "binary integer") (radixValue 2)) cs
  | _ => convert true decInt decIntValue cs

def zeroPrefixable : Reader Unit := do
  let _ ← satisfy isDecDigit
  moreDigits isDecDigit

def fraction : Reader Unit := do
  char '.'
  commit (expecting (.kind "digit") zeroPrefixable)

def exponent : Reader Unit := do
  let _ ← satisfy (fun c => c == 'e' || c == 'E')
  let _ ← optional (satisfy isSign)
  commit zeroPrefixable

def floatText : Reader (List Char) := recognize do
  let _ ← decInt
  orElse exponent (do fraction; let _ ← optional exponent)

def specialFloat : Reader (List Char) := recognize do
  let _ ← optional (satisfy isSign)
  orElse (word ['i', 'n', 'f']) (word ['n', 'a', 'n'])

def exponentValue (cs : List Char) : Int :=
  let (neg, ds) := splitSign cs
  let n : Int := decValue ds
  if neg then -n else n

/-- The sign of a float's text, and its value as digits and an exponent of ten; no value for
`inf` and `nan`. -/
def decimalOf (cs : List Char) : Bool × Option (Nat × Int) :=
  let (neg, r) := splitSign (cs.filter (· != '_'))
  match r with
  | c :: _ =>
    if isDecDigit c then
      let whole := r.takeWhile isDecDigit
      let (frac, rest) := match r.dropWhile isDecDigit with
        | '.' :: more => (more.takeWhile isDecDigit, more.dropWhile isDecDigit)
        | more => ([], more)
      let e := match rest with
        | _ :: more => exponentValue more
        | [] => 0
      (neg, some (decValue (whole ++ frac), e - frac.length))
    else (neg, none)
  | [] => (neg, none)

/-- Whether `m · 10^e` is at least the smallest value that rounds to infinity as a double,
`2^1024 - 2^970`. -/
def roundsToInfinity (m : Nat) (e : Int) : Bool :=
  if m = 0 then false
  else if e + (toString m).length > 400 then true
  else if e + (toString m).length < 300 then false
  else if 0 ≤ e then m * Nat.pow 10 e.toNat ≥ Nat.pow 2 1024 - Nat.pow 2 970
  else m ≥ (Nat.pow 2 1024 - Nat.pow 2 970) * Nat.pow 10 (-e).toNat

def overflowsUp (text : List Char) : Bool :=
  match decimalOf text with
  | (false, some (m, e)) => roundsToInfinity m e
  | _ => false

def float : Reader (List Char) :=
  label "floating-point number"
    (orElse (ensure true floatText (fun t => !overflowsUp t)) specialFloat)

def floatNumber (text : String) : Float :=
  match decimalOf text.toList with
  | (neg, some (m, e)) =>
    let digits : Int := (toString m).length
    let x :=
      if m = 0 then 0.0
      else if 0 ≤ e then
        if e + digits > 400 then Float.ofBits 0x7FF0000000000000
        else Decimal.nearestOfNat (m * Nat.pow 10 e.toNat)
      else if e + digits < -400 then 0.0
      else Decimal.nearestOfRatio m (Nat.pow 10 (-e).toNat)
    if neg then -x else x
  | (neg, none) =>
    let x := if text.contains 'a' then Float.ofBits 0x7FF8000000000000
      else Float.ofBits 0x7FF0000000000000
    if neg then -x else x

end Isel.Toml
