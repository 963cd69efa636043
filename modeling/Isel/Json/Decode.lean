import Isel.Json.Scalar
import Isel.Json.Write
import Isel.Complaint

/-!
# Reading typed data straight from JSON text

A typed value is read from the text left to right, in one pass: each reader takes the bytes of
its value and stops at the first place where they are not JSON, or not the value it asks for.
So a text gets the first failure met in reading order, whether it breaks the grammar or the
data; a value that is only skipped (the value of an unknown field) is checked for its grammar
alone, and more loosely.

A failure of the grammar is placed where it is found: where the reading stands, or one past
the byte it looked at. A failure of the data (a wrong type, a missing field) is placed by the
reader of the record, sequence or scalar it is in, where that reader has got to. A failure is
shown as `MESSAGE at line L column C`, where `C` counts the bytes before the place on its line.

Containers nest within a room that the caller gives the whole value: a container is opened
only when the room is at least two, and its parts have one less. What is skipped is not
counted.
-/

namespace Isel.Json

variable {α β σ : Type}

/-! ## Failures -/

/-- The ways a text can break the grammar, or the reader's limits. -/
inductive Fault where
  | eofInList
  | eofInObject
  | eofInString
  | eofInValue
  | expectedColon
  | expectedListCommaOrEnd
  | expectedObjectCommaOrEnd
  | expectedIdent
  | expectedValue
  | invalidEscape
  | invalidNumber
  | numberOutOfRange
  | controlCharacter
  | keyMustBeString
  | loneLeadingSurrogate
  | trailingComma
  | trailingCharacters
  | unexpectedEndOfHexEscape
  | tooDeep
deriving Repr, DecidableEq, Inhabited

def Fault.message : Fault → String
  | .eofInList => "EOF while parsing a list"
  | .eofInObject => "EOF while parsing an object"
  | .eofInString => "EOF while parsing a string"
  | .eofInValue => "EOF while parsing a value"
  | .expectedColon => "expected `:`"
  | .expectedListCommaOrEnd => "expected `,` or `]`"
  | .expectedObjectCommaOrEnd => "expected `,` or `\x7d`"
  | .expectedIdent => "expected ident"
  | .expectedValue => "expected value"
  | .invalidEscape => "invalid escape"
  | .invalidNumber => "invalid number"
  | .numberOutOfRange => "number out of range"
  | .controlCharacter => "control character (\\u0000-\\u001F) found while parsing a string"
  | .keyMustBeString => "key must be a string"
  | .loneLeadingSurrogate => "lone leading surrogate in hex escape"
  | .trailingComma => "trailing comma"
  | .trailingCharacters => "trailing characters"
  | .unexpectedEndOfHexEscape => "unexpected end of hex escape"
  | .tooDeep => "recursion limit exceeded"

/-- A failure of reading: what went wrong and, once known, where, as the number of bytes from
that place to the end of the text. -/
structure DecodeError where
  message : String
  left : Option Nat
deriving Repr, Inhabited

def Fault.here (f : Fault) (rest : List UInt8) : DecodeError := ⟨f.message, some rest.length⟩

/-- A fault found at the byte that starts `rest`: it is placed one past that byte, or at the
end of the text when there is none. -/
def Fault.past (f : Fault) (rest : List UInt8) : DecodeError :=
  ⟨f.message, some (rest.length - 1)⟩

def DecodeError.render (e : DecodeError) (bytes : List UInt8) : String :=
  match e.left with
  | none => e.message
  | some left =>
    let before := bytes.take (bytes.length - left)
    let line := (before.filter (· == 10)).length + 1
    let column := (before.reverse.takeWhile (· != 10)).length
    e.message ++ " at line " ++ toString line ++ " column " ++ toString column

def Scalar.unexpected : Scalar → Unexpected
  | .nat n => .unsigned n
  | .neg i => .signed i
  | .float x => .float x

/-! ## Scanning the text

Scanners are pure: each takes the bytes left and gives what it read with the bytes after it.
Those that loop take a fuel bound, the length of the whole text being enough. -/

def isGap (b : UInt8) : Bool := b == 32 || b == 10 || b == 9 || b == 13

def isDecimal (b : UInt8) : Bool := 48 ≤ b && b ≤ 57

def dropGaps : List UInt8 → List UInt8
  | b :: r => if isGap b then dropGaps r else b :: r
  | [] => []

def hexOf (b : UInt8) : Option Nat :=
  if 48 ≤ b && b ≤ 57 then some (b.toNat - 48)
  else if 97 ≤ b && b ≤ 102 then some (b.toNat - 87)
  else if 65 ≤ b && b ≤ 70 then some (b.toNat - 55)
  else none

def takeDigits (acc : List Nat) : List UInt8 → List Nat × List UInt8
  | b :: r => if isDecimal b then takeDigits ((b.toNat - 48) :: acc) r else (acc.reverse, b :: r)
  | [] => (acc.reverse, [])

def dropDigits : List UInt8 → List UInt8
  | b :: r => if isDecimal b then dropDigits r else b :: r
  | [] => []

def ident : List UInt8 → List UInt8 → Except DecodeError (Unit × List UInt8)
  | [], rest => .ok ((), rest)
  | _ :: _, [] => .error (Fault.eofInValue.here [])
  | c :: cs, b :: r => if b == c then ident cs r else .error (Fault.expectedIdent.here r)

def hexQuad : List UInt8 → Except DecodeError (Nat × List UInt8)
  | a :: b :: c :: d :: rest =>
    match hexOf a, hexOf b, hexOf c, hexOf d with
    | some w, some x, some y, some z => .ok (((w * 16 + x) * 16 + y) * 16 + z, rest)
    | _, _, _, _ => .error (Fault.invalidEscape.here rest)
  | _ => .error (Fault.eofInString.here [])

def codeBytes (n : Nat) : List UInt8 := (String.singleton (Char.ofNat n)).toUTF8.toList

/-- A `\u` escape after the `u`: a code point outside the surrogates, or a leading surrogate
followed by `\u` and a trailing one. -/
def unicodeEscape (rest : List UInt8) : Except DecodeError (List UInt8 × List UInt8) := do
  let (n, r) ← hexQuad rest
  if 0xDC00 ≤ n ∧ n ≤ 0xDFFF then throw (Fault.loneLeadingSurrogate.here r)
  if n < 0xD800 ∨ 0xDBFF < n then return (codeBytes n, r)
  let r ← match r with
    | 92 :: r' => pure r'
    | _ :: r' => throw (Fault.unexpectedEndOfHexEscape.here r')
    | [] => throw (Fault.eofInString.here [])
  let r ← match r with
    | 117 :: r' => pure r'
    | _ :: r' => throw (Fault.unexpectedEndOfHexEscape.here r')
    | [] => throw (Fault.eofInString.here [])
  let (m, r) ← hexQuad r
  if m < 0xDC00 ∨ 0xDFFF < m then throw (Fault.loneLeadingSurrogate.here r)
  return (codeBytes ((n - 0xD800) * 1024 + (m - 0xDC00) + 0x10000), r)

def escapeOf : List UInt8 → Except DecodeError (List UInt8 × List UInt8)
  | [] => .error (Fault.eofInString.here [])
  | c :: r =>
    if c == 34 || c == 92 || c == 47 then .ok ([c], r)
    else if c == 98 then .ok ([8], r)
    else if c == 102 then .ok ([12], r)
    else if c == 110 then .ok ([10], r)
    else if c == 114 then .ok ([13], r)
    else if c == 116 then .ok ([9], r)
    else if c == 117 then unicodeEscape r
    else .error (Fault.invalidEscape.here r)

/-- The bytes of a string after its opening quote, up to the closing one; `acc` holds those
read, reversed. A control character is refused once passed. -/
def stringBytes : Nat → List UInt8 → List UInt8 → Except DecodeError (List UInt8 × List UInt8)
  | 0, _, _ => .error (Fault.eofInString.here [])
  | fuel + 1, acc, rest =>
    match rest with
    | [] => .error (Fault.eofInString.here [])
    | b :: r =>
      if b == 34 then .ok (acc.reverse, r)
      else if b == 92 then
        match escapeOf r with
        | .ok (bs, r') => stringBytes fuel (bs.reverse ++ acc) r'
        | .error e => .error e
      else if b < 32 then .error (Fault.controlCharacter.here r)
      else stringBytes fuel (b :: acc) r

def scanText (fuel : Nat) (rest : List UInt8) : Except DecodeError (String × List UInt8) := do
  let (bs, r) ← stringBytes fuel [] rest
  pure ((String.fromUTF8? (ByteArray.mk bs.toArray)).getD "", r)

/-- Passes a string after its opening quote, checking only its grammar: escapes must be
well formed, and a control character is refused before it is passed. -/
def skipText : Nat → List UInt8 → Except DecodeError (List UInt8)
  | 0, _ => .error (Fault.eofInString.here [])
  | fuel + 1, rest =>
    match rest with
    | [] => .error (Fault.eofInString.here [])
    | b :: r =>
      if b == 34 then .ok r
      else if b == 92 then
        match r with
        | [] => .error (Fault.eofInString.here [])
        | c :: r' =>
          if c == 34 || c == 92 || c == 47 || c == 98 || c == 102 || c == 110 || c == 114 ||
              c == 116 then skipText fuel r'
          else if c == 117 then
            match hexQuad r' with
            | .ok (_, r'') => skipText fuel r''
            | .error e => .error e
          else .error (Fault.invalidEscape.here r')
      else if b < 32 then .error (Fault.controlCharacter.here rest)
      else skipText fuel r

def exponentOverflow : Nat → Nat → List Nat → Option Nat
  | _, _, [] => none
  | e, k, d :: ds =>
    if e * 10 + d > 2147483647 then some (k + 1) else exponentOverflow (e * 10 + d) (k + 1) ds

/-- The exponent of a number, if one starts `rest`; the digits before it are given. An exponent
too large for a nonzero number stops the reading at the digit where it grows too large. -/
def exponentPart (n : Numeral) (rest : List UInt8) :
    Except DecodeError (Numeral × List UInt8) :=
  match rest with
  | e :: r =>
    if e == 101 || e == 69 then
      let (negExp, r) := match r with
        | 43 :: r' => (false, r')
        | 45 :: r' => (true, r')
        | _ => (false, r)
      match r with
      | [] => .error (Fault.eofInValue.here [])
      | d :: r' =>
        if isDecimal d then
          let (ds, r'') := takeDigits [] r'
          let digits := (d.toNat - 48) :: ds
          let zero := n.whole.all (· == 0) && (n.fraction.getD []).all (· == 0)
          match exponentOverflow 0 0 digits with
          | some k =>
            if !zero && !negExp then .error (Fault.numberOutOfRange.here ((d :: r').drop k))
            else .ok ({ n with exponent := some (negExp, digits) }, r'')
          | none => .ok ({ n with exponent := some (negExp, digits) }, r'')
        else .error (Fault.invalidNumber.here r')
    else .ok (n, rest)
  | [] => .ok (n, [])

def fractionPart (n : Numeral) (rest : List UInt8) : Except DecodeError (Numeral × List UInt8) :=
  match rest with
  | 46 :: r =>
    match takeDigits [] r with
    | ([], []) => .error (Fault.eofInValue.past [])
    | ([], r') => .error (Fault.invalidNumber.past r')
    | (ds, r') => exponentPart { n with fraction := some ds } r'
  | _ => exponentPart n rest

def numeral (negative : Bool) (rest : List UInt8) : Except DecodeError (Numeral × List UInt8) :=
  let start : List Nat → Numeral := fun whole => ⟨negative, whole, none, none⟩
  match rest with
  | [] => .error (Fault.eofInValue.here [])
  | 48 :: r =>
    match r with
    | c :: _ => if isDecimal c then .error (Fault.invalidNumber.past r) else fractionPart (start [0]) r
    | [] => fractionPart (start [0]) []
  | b :: r =>
    if isDecimal b then
      let (ds, r') := takeDigits [] r
      fractionPart (start ((b.toNat - 48) :: ds)) r'
    else .error (Fault.invalidNumber.here r)

/-- A number after its sign, if any, and what it reads as; a number past the doubles is out of
range. -/
def scanNumber (negative : Bool) (rest : List UInt8) : Except DecodeError (Scalar × List UInt8) := do
  let (n, r) ← numeral negative rest
  match n.read with
  | some s => pure (s, r)
  | none => throw (Fault.numberOutOfRange.here r)

def skipExponent (rest : List UInt8) : Except DecodeError (List UInt8) :=
  match rest with
  | e :: r =>
    if e == 101 || e == 69 then
      let r := match r with
        | 43 :: r' => r'
        | 45 :: r' => r'
        | _ => r
      match r with
      | d :: r' => if isDecimal d then .ok (dropDigits r') else .error (Fault.invalidNumber.here r')
      | [] => .error (Fault.invalidNumber.here [])
    else .ok rest
  | [] => .ok []

def skipNumber (rest : List UInt8) : Except DecodeError (List UInt8) :=
  let afterWhole (r : List UInt8) : Except DecodeError (List UInt8) :=
    match r with
    | 46 :: r' =>
      let r'' := dropDigits r'
      if r''.length == r'.length then .error (Fault.invalidNumber.past r'') else skipExponent r''
    | _ => skipExponent r
  match rest with
  | [] => .error (Fault.invalidNumber.here [])
  | 48 :: r =>
    match r with
    | c :: _ => if isDecimal c then .error (Fault.invalidNumber.past r) else afterWhole r
    | [] => .ok []
  | b :: r => if isDecimal b then afterWhole (dropDigits r) else .error (Fault.invalidNumber.here r)

/-- Where a value being skipped stands: at a value, or after one or an opening bracket of a
container (`accept` after a value, when a comma may come), or at a container's next member. -/
inductive SkipAt where
  | value
  | close (isObject : Bool) (accept : Bool)
  | member (isObject : Bool)

/-- The containers being skipped, innermost first, each `true` for an object. -/
abbrev SkipStack := List Bool

/-- Passes one value, checking only its grammar. `stack` holds the containers around the
place, innermost first. -/
def skipValue : Nat → SkipAt → SkipStack → List UInt8 → Except DecodeError (List UInt8)
  | 0, _, _, rest => .error (Fault.eofInValue.here rest)
  | fuel + 1, .value, stack, rest =>
    let rest := dropGaps rest
    let after (r : List UInt8) : Except DecodeError (List UInt8) :=
      match stack with
      | [] => .ok r
      | f :: outer => skipValue fuel (.close f true) outer r
    match rest with
    | [] => .error (Fault.eofInValue.past [])
    | b :: r =>
      if b == 110 then (ident [117, 108, 108] r).bind fun (_, r) => after r
      else if b == 116 then (ident [114, 117, 101] r).bind fun (_, r) => after r
      else if b == 102 then (ident [97, 108, 115, 101] r).bind fun (_, r) => after r
      else if b == 45 then (skipNumber r).bind after
      else if isDecimal b then (skipNumber rest).bind after
      else if b == 34 then (skipText (fuel + 1) r).bind after
      else if b == 91 then skipValue fuel (.close false false) stack r
      else if b == 123 then skipValue fuel (.close true false) stack r
      else .error (Fault.expectedValue.past rest)
  | fuel + 1, .close isObject accept, stack, rest =>
    let rest := dropGaps rest
    match rest with
    | [] => .error ((if isObject then Fault.eofInObject else Fault.eofInList).past [])
    | b :: r =>
      if b == 44 && accept then skipValue fuel (.member isObject) stack r
      else if (b == 93 && !isObject) || (b == 125 && isObject) then
        match stack with
        | [] => .ok r
        | f :: outer => skipValue fuel (.close f true) outer r
      else if accept then
        .error ((if isObject then Fault.expectedObjectCommaOrEnd
          else Fault.expectedListCommaOrEnd).past rest)
      else skipValue fuel (.member isObject) stack rest
  | fuel + 1, .member isObject, stack, rest =>
    if isObject then
      match dropGaps rest with
      | 34 :: r =>
        match skipText (fuel + 1) r with
        | .error e => .error e
        | .ok r' =>
          match dropGaps r' with
          | 58 :: r'' => skipValue fuel .value (true :: stack) r''
          | [] => .error (Fault.eofInObject.past [])
          | r'' => .error (Fault.expectedColon.past r'')
      | [] => .error (Fault.eofInObject.past [])
      | r => .error (Fault.keyMustBeString.past r)
    else skipValue fuel .value (false :: stack) rest

/-! ## Readers -/

/-- A reader of typed data: it may look at the length of the whole text (a bound for every
loop), reads from the bytes left, and may fail; the bytes it got past stay passed when it
fails. -/
abbrev Decode := ReaderT Nat (ExceptT DecodeError (StateM (List UInt8)))

namespace Decode

def peek : Decode (Option UInt8) := do
  let rest := dropGaps (← get)
  set rest
  pure rest.head?

def bump : Decode Unit := modify List.tail

def faultHere (f : Fault) : Decode α := do throw (f.here (← get))

def faultPast (f : Fault) : Decode α := do throw (f.past (← get))

def refuse (message : String) : Decode α := throw ⟨message, none⟩

/-- A reader for a place no text reaches: a container at the least room stops before its
parts are read. -/
def cut : Decode α := faultPast .tooDeep

def scan (f : Nat → List UInt8 → Except DecodeError (α × List UInt8)) : Decode α := do
  match f ((← read) + 1) (← get) with
  | .ok (a, rest) => set rest; pure a
  | .error e => throw e

def placed (d : Decode α) : Decode α :=
  tryCatch d fun e => do
    match e.left with
    | some _ => throw e
    | none => throw { e with left := some (← get).length }

/-- Reads a container's inside, then its closing: a failure inside comes first, and either is
placed where the closing got to. -/
def enclosed (inside : Decode α) (close : Decode Unit) : Decode α := placed do
  let r ← tryCatch (Except.ok <$> inside : Decode (Except DecodeError α))
    fun e => pure (.error e)
  let c ← tryCatch (Except.ok <$> close : Decode (Except DecodeError Unit))
    fun e => pure (.error e)
  match r, c with
  | .ok a, .ok _ => pure a
  | .error e, _ => throw e
  | .ok _, .error e => throw e

/-- Opens the container whose bracket is at hand, within a room: it fits only when the room
is at least two. -/
def openBracket (room : Nat) : Decode Unit := if room ≤ 1 then faultPast .tooDeep else bump

/-- The value at hand, read only to be named in the complaint that it is not what `expected`
asks for; the complaint is placed after it. -/
def wrongType (expected : String) : Decode α := do
  let found : Unexpected ← match (← get) with
    | 110 :: _ => do bump; scan (fun _ => ident [117, 108, 108]); pure .null
    | 116 :: _ => do bump; scan (fun _ => ident [114, 117, 101]); pure (.bool true)
    | 102 :: _ => do bump; scan (fun _ => ident [97, 108, 115, 101]); pure (.bool false)
    | 45 :: _ => do bump; pure (← scan (fun _ => scanNumber true)).unexpected
    | 34 :: _ => do bump; pure (.text (← scan scanText))
    | 91 :: _ => pure .seq
    | 123 :: _ => pure .map
    | b :: _ =>
      if isDecimal b then do pure (← scan (fun _ => scanNumber false)).unexpected
      else faultPast .expectedValue
    | [] => faultPast .expectedValue
  throw ⟨invalidType jsonNotation found expected, some (← get).length⟩

def scalar (expected : String) : Decode Scalar := do
  match ← peek with
  | none => faultPast .eofInValue
  | some 45 => do bump; scan (fun _ => scanNumber true)
  | some b => if isDecimal b then scan (fun _ => scanNumber false) else wrongType expected

def natAtMost (expected : String) (hi : Nat) : Decode Nat := placed do
  match ← scalar expected with
  | .nat n => if n ≤ hi then pure n else refuse (invalidValue jsonNotation (.unsigned n) expected)
  | .neg i => refuse (invalidValue jsonNotation (.signed i) expected)
  | .float x => refuse (invalidType jsonNotation (.float x) expected)

def intWithin (expected : String) (lo hi : Int) : Decode Int := placed do
  match ← scalar expected with
  | .nat n => if (n : Int) ≤ hi then pure n else refuse (invalidValue jsonNotation (.unsigned n) expected)
  | .neg i => if lo ≤ i then pure i else refuse (invalidValue jsonNotation (.signed i) expected)
  | .float x => refuse (invalidType jsonNotation (.float x) expected)

def double : Decode Float := placed do pure (← scalar "f64").toFloat

def single : Decode Float32 := placed do pure (← scalar "f32").toFloat32

def textAs (expected : String) : Decode String := placed do
  match ← peek with
  | none => faultPast .eofInValue
  | some 34 => do bump; scan scanText
  | some _ => wrongType expected

def text : Decode String := textAs "a string"

def char : Decode Char := placed do
  let s ← textAs "a character"
  match s.toList with
  | [c] => pure c
  | _ => refuse (invalidValue jsonNotation (.text s) "a character")

def bool : Decode Bool := placed do
  match ← peek with
  | none => faultPast .eofInValue
  | some 116 => do bump; scan (fun _ => ident [114, 117, 101]); pure true
  | some 102 => do bump; scan (fun _ => ident [97, 108, 115, 101]); pure false
  | some _ => wrongType "a boolean"

def unit : Decode Unit := placed do
  match ← peek with
  | none => faultPast .eofInValue
  | some 110 => do bump; scan (fun _ => ident [117, 108, 108])
  | some _ => wrongType "unit"

/-- `null` for nothing, or a value. -/
def option (d : Decode α) : Decode (Option α) := do
  match ← peek with
  | some 110 => do bump; scan (fun _ => ident [117, 108, 108]); pure none
  | _ => some <$> d

def skip : Decode Unit := do
  let fuel := 3 * (← read) + 3
  match skipValue fuel .value [] (← get) with
  | .ok rest => set rest
  | .error e => throw e

/-! ## Sequences -/

def nextItem (first : Bool) : Decode Bool := do
  match ← peek with
  | none => faultPast .eofInList
  | some 93 => pure false
  | some b =>
    if first then pure true
    else if b == 44 then do
      bump
      match ← peek with
      | some 93 => faultPast .trailingComma
      | some _ => pure true
      | none => faultPast .eofInValue
    else faultPast .expectedListCommaOrEnd

def closeList : Decode Unit := do
  match ← peek with
  | some 93 => bump
  | some 44 => do
    bump
    match ← peek with
    | some 93 => faultPast .trailingComma
    | _ => faultPast .trailingCharacters
  | some _ => faultPast .trailingCharacters
  | none => faultPast .eofInList

def items (item : Decode α) : Nat → Bool → List α → Decode (List α)
  | 0, _, acc => pure acc.reverse
  | fuel + 1, first, acc => do
    if (← nextItem first) then
      let x ← item
      items item fuel false (x :: acc)
    else pure acc.reverse

def seq (item : Decode α) (room : Nat) : Decode (List α) := placed do
  match ← peek with
  | none => faultPast .eofInValue
  | some 91 => do
    openBracket room
    let fuel := (← read) + 1
    enclosed (items item fuel true []) closeList
  | some _ => wrongType "a sequence"

def pair (first : Decode α) (second : Decode β) (room : Nat) : Decode (α × β) := placed do
  match ← peek with
  | none => faultPast .eofInValue
  | some 91 => do
    openBracket room
    enclosed (do
      if !(← nextItem true) then refuse (invalidLength 0 "a tuple of size 2")
      let a ← first
      if !(← nextItem false) then refuse (invalidLength 1 "a tuple of size 2")
      let b ← second
      pure (a, b)) closeList
  | some _ => wrongType "a tuple of size 2"

/-! ## Records -/

/-- A field of a record read into a `σ`: its name, whether it may be left out (it then keeps
the value the record starts with), and the reader of its value, which gives how it sets it. -/
structure Field (σ : Type) where
  name : String
  optional : Bool
  take : Decode (σ → σ)

def Field.need (name : String) (d : Decode α) (put : α → σ → σ) : Field σ := ⟨name, false, put <$> d⟩

def Field.maybe (name : String) (d : Decode α) (put : α → σ → σ) : Field σ := ⟨name, true, put <$> d⟩

/-- The fields of a record given as a sequence, in order: a field the sequence is too short
for keeps its start value if it may be left out, and otherwise the sequence is too short for
what `expecting` names. -/
def byPosition (expecting : String) : List (Field σ) → Nat → Bool → σ → Decode σ
  | [], _, _, acc => pure acc
  | f :: fs, i, first, acc => do
    if (← nextItem first) then
      let put ← f.take
      byPosition expecting fs (i + 1) false (put acc)
    else if f.optional then byPosition expecting fs (i + 1) first acc
    else refuse (invalidLength i expecting)

def nextKey (first : Bool) : Decode (Option String) := do
  let keyAt : Option UInt8 → Decode (Option String)
    | some 34 => do bump; some <$> scan scanText
    | some 125 => faultPast .trailingComma
    | some _ => faultPast .keyMustBeString
    | none => faultPast .eofInValue
  match ← peek with
  | some 125 => pure none
  | some b =>
    if b == 44 && !first then do bump; keyAt (← peek)
    else if first then keyAt (some b)
    else faultPast .expectedObjectCommaOrEnd
  | none => faultPast .eofInObject

def colon : Decode Unit := do
  match ← peek with
  | some 58 => bump
  | some _ => faultPast .expectedColon
  | none => faultPast .eofInObject

def closeObject : Decode Unit := do
  match ← peek with
  | some 125 => bump
  | some 44 => faultPast .trailingComma
  | some _ => faultPast .trailingCharacters
  | none => faultPast .eofInObject

def fieldNamed (fields : List (Field σ)) (name : String) : Option (Nat × Field σ) :=
  (fields.zipIdx.find? fun (f, _) => f.name == name).map fun (f, i) => (i, f)

/-- The fields of a record given as an object, by name, up to its closing brace: a field
given twice is refused at its second key, an unknown one is skipped, and the first field not
given that must be is missing. `seen` marks the fields given. -/
def byName (fields : List (Field σ)) : Nat → Bool → List Bool → σ → Decode σ
  | 0, _, _, acc => pure acc
  | fuel + 1, first, seen, acc => do
    match ← nextKey first with
    | none =>
      match (fields.zip seen).find? fun (f, given) => !given && !f.optional with
      | some (f, _) => refuse (missingField f.name)
      | none => pure acc
    | some k =>
      match fieldNamed fields k with
      | some (i, f) =>
        if seen.getD i false then refuse (duplicateField k)
        else do
          colon
          let put ← f.take
          byName fields fuel false (seen.set i true) (put acc)
      | none => do
        colon
        skip
        byName fields fuel false seen acc

def withElements (expecting : String) (n : Nat) : String :=
  expecting ++ " with " ++ toString n ++ (if n == 1 then " element" else " elements")

/-- A record within a room, given as an object or as a sequence, starting from `start`;
`expecting` names it. -/
def record (expecting : String) (fields : List (Field σ)) (start : σ) (room : Nat) :
    Decode σ := placed do
  match ← peek with
  | none => faultPast .eofInValue
  | some 91 => do
    openBracket room
    enclosed (byPosition (withElements expecting fields.length) fields 0 true start) closeList
  | some 123 => do
    openBracket room
    let fuel := (← read) + 1
    enclosed (byName fields fuel true (fields.map fun _ => false) start) closeObject
  | some _ => wrongType expecting

/-! ## Enumerations -/

/-- How a variant is written: its name alone, or its name with content, which is one value or
a record. -/
inductive Shape where
  | bare
  | single
  | record
deriving DecidableEq, Repr, Inhabited

def variantNamed (cases : List (String × Shape)) : Decode (String × Shape) := placed do
  match ← peek with
  | none => faultPast .eofInValue
  | some 34 => do
    bump
    let s ← scan scanText
    match cases.find? (·.1 == s) with
    | some c => pure c
    | none => refuse (unknownVariant s (cases.map Prod.fst))
  | some _ => wrongType "variant identifier"

/-- A value of an enumeration within a room: a variant name in quotes, or an object of one
member from the name to the content, which `content` reads; a variant of the name alone
has `null` for content there. -/
def enum (cases : List (String × Shape)) (content : String → Decode α) (room : Nat) :
    Decode α := do
  match ← peek with
  | some 123 => do
    openBracket room
    let (name, shape) ← variantNamed cases
    colon
    if shape == .bare then unit
    let a ← content name
    match ← peek with
    | some 125 => do bump; pure a
    | some _ => faultHere .expectedValue
    | none => faultHere .eofInObject
  | some 34 => do
    let (name, shape) ← variantNamed cases
    match shape with
    | .bare => content name
    | .single => refuse (invalidType jsonNotation .unitVariant "newtype variant")
    | .record => refuse (invalidType jsonNotation .unitVariant "struct variant")
  | some _ => faultPast .expectedValue
  | none => faultPast .eofInValue

end Decode

/-- Reads a whole text with `d`: only blanks may follow the value. A failure is shown with its
place. -/
def decodeText (d : Decode α) (text : String) : Except String α :=
  let bytes := text.toUTF8.toList
  let whole : Decode α := do
    let a ← d
    match ← Decode.peek with
    | some _ => Decode.faultPast .trailingCharacters
    | none => pure a
  match (Id.run (((whole.run bytes.length).run).run bytes)).1 with
  | .ok a => .ok a
  | .error e => .error (e.render bytes)

end Isel.Json
