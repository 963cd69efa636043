import Isel.Decimal.Shortest

/-!
# Writing a double in decimal

A `Notation` records the decisions of one output format: which leading-digit exponents are
written positionally, how ties between two nearest shortest decimals go, and the texts of
the special values. `Notation.render` writes the sign, then the shortest decimal of the
magnitude: positionally with at least one digit after the point, or as digits with an
exponent mark `e` and the exponent's sign: always, or only when it is negative.
-/

namespace Isel.Decimal

/-- The decisions of one decimal output format. -/
structure Notation where
  plainFrom : Int
  plainBelow : Int
  plusExponent : Bool
  tie : Tie
  inf : String
  nan : String

def decimalDigits (n : Nat) : String := String.ofList (Nat.toDigits 10 n)

/-- `n` zeros. -/
def zeros (n : Nat) : String := String.ofList (List.replicate n '0')

def Notation.layout (f : Notation) (d : Dec) : String :=
  if d.digits = 0 then "0.0"
  else
    let ds := decimalDigits d.digits
    let n := ds.length
    -- the exponent of the leading digit
    let lead : Int := d.exp + n - 1
    if f.plainFrom ≤ lead ∧ lead < f.plainBelow then
      -- the number of digits before the point
      let p : Int := lead + 1
      if n ≤ p then ds ++ zeros (p - n).toNat ++ ".0"
      else if 0 < p then
        String.ofList (ds.toList.take p.toNat) ++ "." ++ String.ofList (ds.toList.drop p.toNat)
      else "0." ++ zeros (-p).toNat ++ ds
    else
      let body :=
        if n = 1 then ds
        else String.ofList (ds.toList.take 1) ++ "." ++ String.ofList (ds.toList.drop 1)
      let sign := if lead < 0 then "-" else if f.plusExponent then "+" else ""
      body ++ "e" ++ sign ++ decimalDigits lead.natAbs

/-- Writes a double: a minus sign for a negative sign bit, then the special text or the
laid-out shortest decimal. -/
def Notation.render (f : Notation) (x : Float) : String :=
  if x.isNaN then f.nan
  else
    let sign := if signBit x then "-" else ""
    if x.isInf then sign ++ f.inf
    else sign ++ f.layout ((Binary.ofBits x.toBits).shortest f.tie)

end Isel.Decimal
