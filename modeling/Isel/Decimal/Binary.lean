/-!
# Doubles as integers times powers of two

A finite binary64 value is `m * 2^q` with a 53-bit mantissa `m` (fewer bits below the
normal range). `Binary.ofBits` reads that pair off the bits, and `nearestOfNat` goes the
other way for a natural number: it picks the double nearest to it, a tie going to the even
mantissa, and infinity past the largest double. `nearestOfRatio` does the same for a
quotient of natural numbers, down into the subnormal range.
-/

namespace Isel.Decimal

/-- A finite non-negative binary64 value, `m * 2^q`. -/
structure Binary where
  m : Nat
  q : Int
  narrowBelow : Bool

/-- The magnitude of a finite value, from its bits. NaN and the infinities are no such value:
test for them first. -/
def Binary.ofBits (b : UInt64) : Binary :=
  let e := ((b >>> 52) &&& 0x7FF).toNat
  let f := (b &&& 0xFFFFFFFFFFFFF).toNat
  if e == 0 then ⟨f, -1074, false⟩ else ⟨Nat.pow 2 52 + f, (e : Int) - 1075, f == 0 && e > 1⟩

def signBit (x : Float) : Bool := x.toBits >>> 63 == 1

/-- The bits of the double `mant * 2^(biased - 1075)` for a 53-bit `mant` (`2^52 ≤ mant < 2^53`),
or of infinity when the biased exponent is past the largest one. -/
def normalBits (mant biased : Nat) : UInt64 :=
  if biased ≥ 2047 then 0x7FF0000000000000
  else (biased * Nat.pow 2 52 + (mant - Nat.pow 2 52)).toUInt64

def roundShift (n s : Nat) : Nat :=
  if s = 0 then n
  else
    let q := n / Nat.pow 2 s
    let r := n % Nat.pow 2 s
    let half := Nat.pow 2 (s - 1)
    if r > half ∨ (r = half ∧ q % 2 = 1) then q + 1 else q

/-- The double nearest to a natural number: ties go to the even mantissa, and a number past
the largest double gives infinity. -/
def nearestOfNat (n : Nat) : Float :=
  if n = 0 then Float.ofBits 0
  else
    let e := n.log2
    if e ≤ 52 then Float.ofBits (normalBits (n * Nat.pow 2 (52 - e)) (e + 1023))
    else
      let r := roundShift n (e - 52)
      -- rounding up may carry into a 54th bit
      if r = Nat.pow 2 53 then Float.ofBits (normalBits (Nat.pow 2 52) (e + 1 + 1023))
      else Float.ofBits (normalBits r (e + 1023))

/-- The double nearest to `num / den` (`den > 0`): ties go to the even mantissa, a quotient
past the largest double gives infinity, and one below the least subnormal rounds to it or to
zero. The binary exponent `e` is the one with `2^e ≤ num / den < 2^(e+1)`; the mantissa
keeps 53 bits from there, or fewer below `2^-1022`. -/
def nearestOfRatio (num den : Nat) : Float :=
  if num = 0 ∨ den = 0 then Float.ofBits 0
  else
    let guess : Int := (num.log2 : Int) - den.log2
    -- `2^guess` is at most twice the quotient and more than a quarter of it
    let atLeast (k : Int) : Bool :=
      if 0 ≤ k then num ≥ den * Nat.pow 2 k.toNat else num * Nat.pow 2 (-k).toNat ≥ den
    let e : Int := if atLeast guess then guess else guess - 1
    if e > 1023 then Float.ofBits 0x7FF0000000000000
    else
      -- the power of two the quotient is scaled by before rounding to an integer
      let s : Int := if e < -1022 then 1074 else 52 - e
      let (n, d) := if 0 ≤ s then (num * Nat.pow 2 s.toNat, den) else (num, den * Nat.pow 2 (-s).toNat)
      let q := n / d
      let r := n % d
      let m := if 2 * r > d ∨ (2 * r = d ∧ q % 2 = 1) then q + 1 else q
      if e < -1022 then Float.ofBits m.toUInt64
      else if m = Nat.pow 2 53 then Float.ofBits (normalBits (Nat.pow 2 52) (e + 1 + 1023).toNat)
      else Float.ofBits (normalBits m (e + 1023).toNat)

end Isel.Decimal
