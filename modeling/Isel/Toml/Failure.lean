import Isel.Toml.Reader

/-!
# Showing a failure

A failure is shown with its place in the text: `TOML parse error at line L, column C`, the
line, marks under the place, and the message. Lines and columns count from 1; a column counts
characters, except that at a character of more than one byte it counts the bytes before it
on its line. The marks cover the bytes of what is pointed at, at least one and not past the
end of the line: a failure in the text points at one character, a refused part of a
document at all of it.
-/

namespace Isel.Toml

/-- Why a text is no TOML, or a document not what its reader asks for: the place, as the
number of characters from it to the end of the text, what is wrong there, and how many bytes
from the place on are marked. -/
structure Failure where
  left : Nat
  message : String
  width : Nat
deriving Repr, Inhabited

def utf8Size (cs : List Char) : Nat := (cs.map Char.utf8Size).foldr (· + ·) 0

def Trouble.toFailure (t : Trouble) (text : List Char) : Failure :=
  ⟨t.left, t.message, (((text.drop (text.length - t.left)).head?).map Char.utf8Size).getD 1⟩

/-- The line (from 0) and column of the place `index` characters into a text. The column
counts characters from the line's start; past the end of the text it goes on from the last
character. When the place is a character of more than one byte, the column counts the bytes
before it on its line instead. -/
def lineAndColumn (cs : List Char) (index : Nat) : Nat × Nat :=
  if cs.isEmpty then (0, index)
  else
    let safe := min index (cs.length - 1)
    let past := index - safe
    let before := cs.take safe
    let lineStart := before.length - (before.reverse.takeWhile (· != '\n')).length
    let line := ((cs.take lineStart).filter (· == '\n')).length
    let onLine := (cs.take safe).drop lineStart
    let column := match cs[safe]? with
      | some c => if c.utf8Size > 1 then utf8Size onLine else onLine.length
      | none => onLine.length
    (line, column + past)

def splitLines (cs : List Char) : List (List Char) :=
  cs.splitOn '\n'

/-- A failure as the reader shows it: where, the line with marks under the place, and the
message. The marks cover the failure's width in bytes but stop at the line's end; there is
always one. -/
def Failure.render (f : Failure) (text : String) : String :=
  let cs := text.toList
  let (line, column) := lineAndColumn cs (cs.length - f.left)
  let lineNum := toString (line + 1)
  let gutter := String.ofList (List.replicate (lineNum.length + 1) ' ')
  let content := (splitLines cs)[line]?.getD []
  let marks := max 1 (min f.width (utf8Size content - column))
  "TOML parse error at line " ++ lineNum ++ ", column " ++ toString (column + 1) ++ "\n" ++
    gutter ++ "|\n" ++
    lineNum ++ " | " ++ String.ofList content ++ "\n" ++
    gutter ++ "|" ++ String.ofList (List.replicate (column + 1) ' ') ++
    String.ofList (List.replicate marks '^') ++ "\n" ++
    f.message ++ "\n"

def Failure.spanning (text : String) (place : Place) (message : String) : Failure :=
  let cs := text.toList
  let spanned := (cs.drop (cs.length - place.start)).take (place.start - place.stop)
  ⟨place.start, message, utf8Size spanned⟩

end Isel.Toml
