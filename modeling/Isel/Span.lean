/-!
# Source spans

A span is a byte range of the source with the line and column of its start, cached. A span
whose start line is `0` stands for code that no source text produced. `Span.merge` covers
both of two spans and keeps the start position of the one that starts first, the first of
the two on a tie.
-/

namespace Isel

/-- A range of source bytes, `[start, finish)`, with the 1-based line and column of its
start; line `0` marks synthesized code. -/
structure Span where
  start : Nat
  finish : Nat
  line : Nat
  column : Nat
deriving Repr, DecidableEq, Inhabited

namespace Span

def dummy : Span := ⟨0, 0, 0, 0⟩

def isDummy (s : Span) : Bool := s.line == 0

def merge (a b : Span) : Span :=
  let (line, column) := if a.start ≤ b.start then (a.line, a.column) else (b.line, b.column)
  ⟨min a.start b.start, max a.finish b.finish, line, column⟩

/-- `line:column`, or `<synthetic>`. -/
def display (s : Span) : String :=
  if s.isDummy then "<synthetic>" else toString s.line ++ ":" ++ toString s.column

end Span

end Isel
