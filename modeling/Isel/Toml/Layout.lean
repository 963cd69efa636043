import Isel.Toml.Reader

/-!
# Blanks, comments and line ends

Blanks are space and tab. A line ends with a line feed, a carriage return and line feed, or
the end of the text. A comment runs from `#` up to the first character it may not hold: a
control character other than tab. After a key and value or a header, a line holds blanks and
perhaps a comment before its end. Between the items of an array, blanks, line ends and
comments may stand in any number.
-/

namespace Isel.Toml

open Reader

def isBlank (c : Char) : Bool := c == ' ' || c == '\t'

def isCommentChar (c : Char) : Bool :=
  c == '\t' || (0x20 ≤ c.toNat ∧ c.toNat ≤ 0x7E) || 0x80 ≤ c.toNat

def blanks : Reader Unit := do
  let _ ← takeWhile isBlank

def comment : Reader Unit := do
  char '#'
  let _ ← takeWhile isCommentChar

def newline : Reader Unit := orElse (char '\n') (word ['\r', '\n'])

def lineEnding : Reader Unit := orElse newline atEnd

/-- The rest of a line after a key and value or a header: blanks, perhaps a comment, and the
line's end. -/
def lineTrailing : Reader Unit := do
  blanks
  let _ ← optional comment
  lineEnding

def gaps : Reader Unit := do
  let _ ← many (orElse (do let _ ← takeWhile1 isBlank) (orElse newline comment))

end Isel.Toml
