/-!
# Similar names

When a word on the command line is not a known subcommand, flag or value, the known names
that look like it are offered instead. Two words look alike when their Jaro similarity is
above `0.7`.

The Jaro similarity of `a` and `b` counts the characters of `a` that match an unmatched equal
character of `b` no farther away than `max |a| |b| / 2 - 1` positions (`m` of them, taken from
left to right, each with the leftmost free partner), and the transpositions `t`: half the
number of places where the matched characters of `a` and of `b`, in order, differ, rounded
down. It is `(m / |a| + m / |b| + (m - t) / m) / 3`, and `0` without matches, computed in
double precision in that order: the rounding decides close cases, such as a similarity that
is `7/10` exactly but comes out just above the double nearest `0.7`.
-/

namespace Isel.Cli

/-- Matches the characters of `a`, left to right, with free equal characters of `b` in the
window around their position; which characters of `a` and of `b` are matched. -/
def jaroMatches (a b : List Char) : List Bool × List Bool :=
  let range := max a.length b.length / 2 - 1
  let step := fun (acc : List Bool × List Bool) (ci : Char × Nat) =>
    let (af, bf) := acc
    let (c, i) := ci
    let lo := i - range
    let hi := min b.length (i + range + 1)
    match (List.range hi).find? (fun j => lo ≤ j && b[j]? == some c && !bf.getD j true) with
    | some j => (af ++ [true], bf.set j true)
    | none => (af ++ [false], bf)
  a.zipIdx.foldl step ([], List.replicate b.length false)

def marked (cs : List Char) (marks : List Bool) : List Char :=
  (cs.zip marks).filterMap fun (c, m) => if m then some c else none

def jaro (a b : List Char) : Float :=
  if a.isEmpty && b.isEmpty then 1
  else if a.isEmpty || b.isEmpty then 0
  else
    let (af, bf) := jaroMatches a b
    let am := marked a af
    let bm := marked b bf
    let m := am.length
    let t := ((am.zip bm).filter fun (x, y) => x != y).length / 2
    if m = 0 then 0
    else (m.toFloat / a.length.toFloat + m.toFloat / b.length.toFloat +
      (m - t).toFloat / m.toFloat) / 3

def alikeAbove : Float := 7 / 10

/-- The names that look like `word`, the most alike last (of equally alike ones, the later
name last). -/
def similarNames (word : String) (names : List String) : List String :=
  let scored := (names.map fun n => (jaro word.toList n.toList, n)).filter
    fun (r, _) => r > alikeAbove
  (scored.mergeSort fun p q => p.1 ≤ q.1).map (·.2)

def mostSimilar? (word : String) (names : List String) : Option String :=
  (similarNames word names).getLast?

end Isel.Cli
