import Isel.Toml.DateTime
import Isel.Toml.Failure

/-!
# Reading TOML text

A document is a sequence of lines after an optional byte order mark; blanks may stand before
anything on a line. A line holds nothing, a comment, a key and value, or a table header
(`[a.b]`, or `[[a.b]]` for a new table of an array of tables), with blanks and a comment
allowed after the value or header.

A key is one or more parts joined by dots, with blanks around each part: a bare part
(`A-Z a-z 0-9 _ -`), a basic string or a literal string. A dot not followed by a part is not
part of the key. A key has fewer than 80 parts.

A value is told by its first character: a quote or apostrophe starts a string, `[` an array,
`{` an inline table; a sign or digit starts a date-time, a float or an integer, tried in that
order; `true`, `false`, `inf` and `nan` are words. Anything else is reported as a failed
string. Arrays may span lines and hold comments between items and a trailing comma; inline
tables stay on one line, without a trailing comma. Fewer than 80 arrays and inline tables
may be open around a value.

The keys and values of an inline table follow the rules of tables (`Isel.Toml.Tree`); a
conflict is reported right after its opening brace. A key and value against the rules of the
document is reported where its line's key starts, a header where its bracket stands.

`parse` gives the document as one table, or the failure that shows it is no TOML.
-/

namespace Isel.Toml

open Reader

/-- The most parts a key may have, plus one; and the most arrays and inline tables that may
be open around a value, plus one. -/
def nestingLimit : Nat := 80

/-! ## Keys -/

def unquotedKey : Reader String := String.ofList <$> takeWhile1 isBareKeyChar

def simpleKey : Reader KeyPart := withPlace fun cs =>
  match cs with
  | '"' :: _ => basicString cs
  | '\'' :: _ => literalString cs
  | _ => unquotedKey cs

def keyPart : Reader KeyPart := do
  blanks
  let k ← simpleKey
  blanks
  pure k

def DottedKey.ofParts (first : KeyPart) : List KeyPart → DottedKey
  | [] => ⟨[], first⟩
  | k :: ks =>
    let d := DottedKey.ofParts k ks
    ⟨first :: d.init, d.last⟩

def key : Reader DottedKey :=
  convert false
    (label "key" do
      let first ← keyPart
      let rest ← sepRest keyPart (char '.')
      pure (first, rest))
    fun (first, rest) =>
      if rest.length + 1 < nestingLimit then .ok (DottedKey.ofParts first rest) else .error .tooDeep

/-! ## Values -/

def asString {α : Type} (p : Reader α) : Reader α :=
  expecting (.char '\'') (expecting (.char '"') (label "string" p))

/-- A value that starts with a sign or a digit: a date-time, a float or an integer, the first
of them that reads. -/
def numberOrDate : Reader Value :=
  orElse (do let t ← recognize dateTime; pure (.datetime (String.ofList t)))
    (orElse (do let t ← float; pure (.float (String.ofList t))) (Value.integer <$> integer))

def floatValue : Reader Value := do
  let t ← float
  pure (.float (String.ofList t))

def array (item : Reader (Value × Place)) : Reader Value := do
  char '['
  let items ← commit do
    let items ← optional do
      let xs ← sepBy1 (do gaps; let (v, p) ← item; gaps; pure (Item.mk v (some p))) (char ',')
      let _ ← optional (char ',')
      pure xs
    gaps
    pure (items.getD [])
  commit (expecting (.char ']') (label "array" (char ']')))
  pure (.array items)

def inlineKeyval (item : Reader (Value × Place)) : Reader (DottedKey × Value × Place) := do
  let k ← key
  commit do
    expecting (.char '=') (expecting (.char '.') (char '='))
    blanks
    let (v, p) ← item
    blanks
    pure (k, v, p)

def inlineTable (item : Reader (Value × Place)) : Reader Value := do
  char '{'
  let es ← commit (convert false
    (do
      let pairs ← sepBy (inlineKeyval item) (char ',')
      blanks
      pure pairs)
    fun pairs => match inlineEntries pairs with
      | .ok es => .ok es
      | .error c => .error (.conflict c))
  commit (expecting (.char '\x7d') (label "inline table" (char '\x7d')))
  pure (.table (entriesValue es))

/-- A value, by its first character; `nested` reads the values inside an array or inline
table, if one may still be opened here. -/
def valueWith (nested : Option (Reader (Value × Place))) : Reader Value := fun cs =>
  match cs with
  | [] => .error (Trouble.plain cs)
  | c :: _ =>
    if c == '"' || c == '\'' then (Value.string <$> string) cs
    else if c == '[' || c == '\x7b' then
      match nested with
      | some item => (if c == '[' then array item else inlineTable item) cs
      | none => refuseAt cs .tooDeep cs
    else if isSign c || isDecDigit c then numberOrDate cs
    else if c == '_' then expecting (.kind "leading digit") (Value.integer <$> integer) cs
    else if c == '.' then expecting (.kind "leading digit") floatValue cs
    else if c == 't' then asString (do commit (word ['t', 'r', 'u', 'e']); pure (.boolean true)) cs
    else if c == 'f' then
      asString (do commit (word ['f', 'a', 'l', 's', 'e']); pure (.boolean false)) cs
    else if c == 'i' then asString (do word ['i', 'n', 'f']; pure (.float "inf")) cs
    else if c == 'n' then asString (do word ['n', 'a', 'n']; pure (.float "nan")) cs
    else asString stop cs

def value : Nat → Reader (Value × Place)
  | 0 => withPlace (valueWith none)
  | room + 1 => withPlace (valueWith (some (value room)))

/-! ## Lines -/

def keyval : Reader (DottedKey × Value × Place) := do
  let k ← key
  commit do
    expecting (.char '=') (expecting (.char '.') (char '='))
    blanks
    let (v, p) ← value (nestingLimit - 1)
    expecting (.char '#') (expecting (.char '\n') lineTrailing)
    pure (k, v, p)

def headerWith (opening closing : List Char) : Reader (DottedKey × Place) := do
  let r ← withPlace do
    word opening
    let k ← commit key
    commit (expecting (.text (String.ofList closing)) (expecting (.char '.') (word closing)))
    pure k
  commit (expecting (.char '#') (expecting (.char '\n') lineTrailing))
  pure r

def header : Reader (Bool × DottedKey × Place) :=
  label "table header" fun cs =>
    match cs with
    | '[' :: '[' :: _ => ((fun (k, p) => (true, k, p)) <$> headerWith ['[', '['] [']', ']']) cs
    | _ :: _ :: _ => ((fun (k, p) => (false, k, p)) <$> headerWith ['['] [']']) cs
    | _ => .error (Trouble.plain cs)

/-- One line's content, added to the document: a comment, a header, a line break, or a key
and value. -/
def statement (b : Builder) : Reader Builder := fun cs =>
  match cs with
  | [] => .error (Trouble.plain cs)
  | '#' :: _ => commit (do comment; lineEnding; pure b) cs
  | '[' :: _ =>
    commit (do
      let (many, k, place) ← header
      match b.openHeader many k place with
      | .ok b' => pure b'
      | .error c => label "table header" (refuseAt cs (.conflict c))) cs
  | '\n' :: _ | '\r' :: _ => (do newline; pure b) cs
  | _ =>
    commit (do
      let (k, v, place) ← keyval
      match b.addKeyval k v place with
      | .ok b' => pure b'
      | .error c => refuseAt cs (.conflict c)) cs

def statements (b : Builder) (cs : List Char) : Except Trouble (Builder × List Char) :=
  match (do let b' ← statement b; blanks; pure b') cs with
  | .error t => if t.final then .error t else .ok (b, cs)
  | .ok (b', r) => if r.length < cs.length then statements b' r else .ok (b', r)
termination_by cs.length

def document : Reader Builder := do
  blanks
  let b ← statements Builder.empty
  atEnd
  pure b

/-- The document a text holds, as its root table, or why it is no TOML. A byte order mark at
the start is dropped. -/
def parse (text : String) : Except Failure Value :=
  let all := text.toList
  let cs := match all with
    | '\uFEFF' :: r => r
    | r => r
  match document cs with
  | .error t => .error (t.toFailure all)
  | .ok (b, _) =>
    match b.close with
    | .ok root => .ok (.table (entriesValue root))
    | .error c => .error ⟨0, c.message, 1⟩

end Isel.Toml
