import Isel.Text.GraphemeExtend

/-!
# Quoted characters and strings

The listing writes a character between single quotes and a string between double quotes.
Inside the quotes, NUL, tab, carriage return, line feed and the backslash are written `\0`,
`\t`, `\r`, `\n`, `\\`; the quote of the enclosing kind is written after a backslash, the other
kind as itself. A character that extends a grapheme, or is not printable, is written
`\u{h}` with its code point in lowercase hex without leading zeros. Every other character
stands for itself.
-/

namespace Isel.Text

def hexDigits (n : Nat) : String := String.ofList (Nat.toDigits 16 n)

def escapeIn (quote : Char) (c : Char) : String :=
  match c with
  | '\x00' => "\\0"
  | '\t' => "\\t"
  | '\r' => "\\r"
  | '\n' => "\\n"
  | '\\' => "\\\\"
  | c =>
    if c == quote then "\\" ++ String.singleton c
    else if isGraphemeExtend c || !isPrintable c then "\\u" ++ "\x7b" ++ hexDigits c.toNat ++ "\x7d"
    else String.singleton c

def quoteChar (c : Char) : String := "'" ++ escapeIn '\'' c ++ "'"

def quoteString (s : String) : String := "\"" ++ String.join (s.toList.map (escapeIn '"')) ++ "\""

end Isel.Text
