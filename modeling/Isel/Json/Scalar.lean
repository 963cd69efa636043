import Isel.Json.Value
import Isel.Decimal.Binary

/-!
# What a written number reads as

A numeral without point or exponent whose value fits 64 bits reads as an integer: a natural
number below `2^64`, or a negative integer down to `-2^63`. Every other numeral, `-0`
included, reads as a double, computed the way a streaming reader does it: the digits are
gathered into a 64-bit significand (digits that no longer fit only move the exponent), the
significand becomes the nearest double, and that is multiplied or divided by the nearest
double of the power of ten. A product past the largest double is out of range, and so is an
exponent past the table of powers unless the significand is zero; a very negative exponent
divides by `1e308` until it is in the table.
-/

namespace Isel.Json

open Isel.Decimal

/-- What a numeral reads as. -/
inductive Scalar where
  | nat (n : Nat)
  | neg (i : Int)
  | float (x : Float)
deriving Inhabited

def sigMax : Nat := Nat.pow 2 64 - 1

def expMax : Int := Int.pow 2 31 - 1

/-- Gathers the digits before the point: a digit that no longer fits the significand, and
every digit after it, adds one to the exponent instead. -/
def gatherWhole (ds : List Nat) : Nat × Int × Bool :=
  ds.foldl (fun (sig, exp, full) d =>
    if full || sig * 10 + d > sigMax then (sig, exp + 1, true) else (sig * 10 + d, exp, false))
    (0, 0, false)

/-- Gathers the digits after the point: each that fits takes one from the exponent; the first
that does not fit ends the gathering. -/
def gatherFraction (sig : Nat) (exp : Int) : List Nat → Nat × Int
  | [] => (sig, exp)
  | d :: ds => if sig * 10 + d > sigMax then (sig, exp) else gatherFraction (sig * 10 + d) (exp - 1) ds

def gatherExponent : List Nat → Option Int
  | [] => some 0
  | d :: ds =>
    ds.foldl (fun (acc : Option Int) (d : Nat) =>
      acc.bind fun e => if e * 10 + d > expMax then none else some (e * 10 + d)) (some (d : Int))

/-- `i32` arithmetic that stops at the bounds instead of wrapping. -/
def saturate (e : Int) : Int := max (-Int.pow 2 31) (min expMax e)

def pow10 (k : Nat) : Float := nearestOfNat (Nat.pow 10 k)

/-- Scales the double of the significand by `10^exp`; `none` when the result is out of range.
`steps` bounds the divisions by `1e308`: one per 308 of a negative exponent. -/
def scale (f : Float) (exp : Int) : Nat → Option Float
  | 0 => some f
  | steps + 1 =>
    if exp.natAbs ≤ 308 then
      if exp ≥ 0 then
        let g := f * pow10 exp.natAbs
        if g.isInf then none else some g
      else some (f / pow10 exp.natAbs)
    else if f == 0.0 then some f
    else if exp ≥ 0 then none
    else scale (f / pow10 308) (exp + 308) steps

def fromParts (negative : Bool) (sig : Nat) (exp : Int) : Option Float :=
  (scale (nearestOfNat sig) exp (exp.natAbs / 308 + 2)).map fun f => if negative then -f else f

def Numeral.read (n : Numeral) : Option Scalar :=
  let (sig, exp, full) := gatherWhole n.whole
  match n.fraction, n.exponent with
  | none, none =>
    if full then (fromParts n.negative sig exp).map .float
    else if !n.negative then some (.nat sig)
    else if sig = 0 ∨ sig > Nat.pow 2 63 then some (.float (-(nearestOfNat sig)))
    else some (.neg (-(sig : Int)))
  | fraction, exponent =>
    let (sig, exp) := match fraction with
      | some ds => gatherFraction sig exp ds
      | none => (sig, exp)
    match exponent with
    | none => (fromParts n.negative sig exp).map .float
    | some (negExp, ds) =>
      match gatherExponent ds with
      | none =>
        -- an exponent past `2^31 - 1`: zero, or out of range
        if sig ≠ 0 ∧ !negExp then none
        else some (.float (if n.negative then -0.0 else 0.0))
      | some e =>
        (fromParts n.negative sig (saturate (if negExp then exp - e else exp + e))).map .float

namespace Scalar

def toIntIn (lo hi : Int) : Scalar → Option Int
  | .nat n => if (n : Int) ≤ hi then some n else none
  | .neg i => if lo ≤ i then some i else none
  | .float _ => none

def toNatTo (hi : Nat) : Scalar → Option Nat
  | .nat n => if n ≤ hi then some n else none
  | _ => none

def toFloat : Scalar → Float
  | .nat n => nearestOfNat n
  | .neg i => -(nearestOfNat i.natAbs)
  | .float x => x

def toFloat32 : Scalar → Float32
  | .nat n => n.toUInt64.toFloat32
  | .neg i => -(i.natAbs.toUInt64.toFloat32)
  | .float x => x.toFloat32

end Scalar

end Isel.Json
