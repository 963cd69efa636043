import Isel.Decimal.Binary

/-!
# The fewest decimal digits that read back

The reals that round to a double form an interval: from halfway to the neighbour below to
halfway to the neighbour above, both ends included exactly when the mantissa is even.
`Binary.shortest` returns a decimal of that interval with as few significant digits as
possible and, among those, the one nearest to the value; a tie between two nearest ones
goes as the caller's `Tie` says.
-/

namespace Isel.Decimal

/-- `digits * 10^exp`. -/
structure Dec where
  digits : Nat
  exp : Int
deriving Repr, DecidableEq

/-- Which of two equally near candidates is taken. -/
inductive Tie where
  | toEven
  | up
deriving Repr, DecidableEq

def cmpScaled (a : Nat) (i : Int) (n : Nat) (j : Int) : Ordering :=
  compare (a * Nat.pow 10 i.toNat * Nat.pow 2 (-j).toNat) (n * Nat.pow 2 j.toNat * Nat.pow 10 (-i).toNat)

def Binary.readsBack (x : Binary) (d : Dec) : Bool :=
  let lo := if x.narrowBelow then 4 * x.m - 1 else 4 * x.m - 2
  let hi := 4 * x.m + 2
  let incl := x.m % 2 == 0
  let cl := cmpScaled d.digits d.exp lo (x.q - 2)
  let ch := cmpScaled d.digits d.exp hi (x.q - 2)
  (cl == .gt || (incl && cl == .eq)) && (ch == .lt || (incl && ch == .eq))

def digitCount (n : Nat) : Nat := (Nat.toDigits 10 n).length

/-- The exponent of the leading decimal digit of `m * 2^q`, for `m > 0`: the `e` with
`10^e ≤ m * 2^q < 10^(e+1)`. -/
def Binary.leadExp (x : Binary) : Int :=
  let num := x.m * Nat.pow 2 x.q.toNat
  let den := Nat.pow 2 (-x.q).toNat
  let guess : Int := (digitCount num : Int) - (digitCount den : Int)
  -- `guess - 1 ≤ e ≤ guess`: test the upper one exactly
  if cmpScaled 1 guess x.m x.q != .gt then guess else guess - 1

/-- `⌊m * 2^q / 10^s⌋`. -/
def Binary.floorScaled (x : Binary) (s : Int) : Nat :=
  (x.m * Nat.pow 2 x.q.toNat * Nat.pow 10 (-s).toNat) / (Nat.pow 2 (-x.q).toNat * Nat.pow 10 s.toNat)

/-- Of the two neighbours `c * 10^s` and `(c + 1) * 10^s` of the value on the grid `10^s`,
the ones that read back; of two, the nearer, and on a tie the one `t` picks. -/
def Binary.onGrid (x : Binary) (t : Tie) (s : Int) : Option Dec :=
  let c := x.floorScaled s
  let lo : Dec := ⟨c, s⟩
  let hi : Dec := ⟨c + 1, s⟩
  match x.readsBack lo, x.readsBack hi with
  | false, false => none
  | true, false => some lo
  | false, true => some hi
  | true, true =>
    -- compare twice the value with the sum of the two candidates
    match cmpScaled (2 * c + 1) s (2 * x.m) x.q with
    | .lt => some hi
    | .gt => some lo
    | .eq =>
      match t with
      | .up => some hi
      | .toEven => if c % 2 == 0 then some lo else some hi

def Dec.strip (d : Dec) : Dec :=
  go d.digits d.exp d.digits
where
  go (digits : Nat) (exp : Int) : Nat → Dec
    | 0 => ⟨digits, exp⟩
    | fuel + 1 =>
      if digits ≠ 0 ∧ digits % 10 = 0 then go (digits / 10) (exp + 1) fuel else ⟨digits, exp⟩

def Binary.search (x : Binary) (t : Tie) (lead : Int) : List Nat → Option Dec
  | [] => none
  | n :: ns =>
    match x.onGrid t (lead + 1 - n) with
    | some d => some d
    | none => x.search t lead ns

def Binary.exact (x : Binary) : Dec :=
  if x.q ≥ 0 then ⟨x.m * Nat.pow 2 x.q.toNat, 0⟩ else ⟨x.m * Nat.pow 5 (-x.q).toNat, x.q⟩

/-- The shortest decimal that reads back as `x`, nearest among the shortest, with trailing
zeros moved into the exponent. Zero is `⟨0, 0⟩`. -/
def Binary.shortest (x : Binary) (t : Tie) : Dec :=
  if x.m = 0 then ⟨0, 0⟩
  else
    match x.search t x.leadExp (List.range' 1 17) with
    | some d => d.strip
    | none => x.exact.strip

end Isel.Decimal
