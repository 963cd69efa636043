import Isel.Json.Scalar

/-!
# Reading typed data out of JSON values

A record is read from an object, by field name, or from an array, by position. In an object
the unknown keys are skipped, and a known key given twice is an error; in an array a missing
trailing field takes its default if it has one, and an extra item is an error. A variant is
either its name, as a string, for a variant without content, or an object with exactly one
member, the name and the content; a variant without content may also be written with
`null` as its content. A variant may also be tagged by one of its members; it is then read
through a buffer (see below).

Containers nest at most 127 deep along what is read: every reader takes the *room*, the
number of levels left plus one, and a record, variant object or sequence needs a room of at
least two and leaves one less to its parts. What is skipped is not counted.
-/

namespace Isel.Json

def topRoom : Nat := 128

def enter (room : Nat) : Option Nat := if 2 ≤ room then some (room - 1) else none

def readText : Value → Option String
  | .string (.text s) => some s
  | _ => none

/-- `true` or `false`. -/
def readBool : Value → Option Bool
  | .bool b => some b
  | _ => none

def readNat (hi : Nat) : Value → Option Nat
  | .number n => n.read >>= Scalar.toNatTo hi
  | _ => none

def readInt (lo hi : Int) : Value → Option Int
  | .number n => n.read >>= Scalar.toIntIn lo hi
  | _ => none

def readU32 : Value → Option Nat := readNat (Nat.pow 2 32 - 1)

def readU64 : Value → Option Nat := readNat (Nat.pow 2 64 - 1)

def readSigned (bits : Nat) : Value → Option Int :=
  readInt (-Int.pow 2 (bits - 1)) (Int.pow 2 (bits - 1) - 1)

def readFloat : Value → Option Float
  | .number n => n.read.map Scalar.toFloat
  | _ => none

def readChar : Value → Option Char
  | .string (.text s) =>
    match s.toList with
    | [c] => some c
    | _ => none
  | _ => none

/-- `null` gives `none`; anything else is read by `f`. -/
def readOption {α : Type} (f : Value → Option α) : Value → Option (Option α)
  | .null => some none
  | v => (f v).map some

def openSeq (room : Nat) : Value → Option (List Value)
  | .array items => if 2 ≤ room then some items else none
  | _ => none

/-- The fields of a record: by name, or by position. -/
inductive Fields where
  | byName (members : List (String × Value))
  | byPosition (items : List Value)

def textKeys (members : List (Str × Value)) : Option (List (String × Value)) :=
  members.mapM fun
    | (.text k, v) => some (k, v)
    | (.unpaired, _) => none

def repeatsKnown (names : List String) (members : List (String × Value)) : Bool :=
  names.any fun n => (members.filter (·.1 == n)).length ≥ 2

def openRecord (names : List String) (room : Nat) : Value → Option Fields
  | .object members => do
    let _ ← enter room
    let ms ← textKeys members
    if repeatsKnown names ms then none else some (.byName ms)
  | .array items => do
    let _ ← enter room
    if items.length ≤ names.length then some (.byPosition items) else none
  | _ => none

def Fields.get? (fs : Fields) (i : Nat) (name : String) : Option Value :=
  match fs with
  | .byName ms => (ms.find? (·.1 == name)).map (·.2)
  | .byPosition items => items[i]?

def Fields.need {α : Type} (fs : Fields) (i : Nat) (name : String) (f : Value → Option α) :
    Option α :=
  fs.get? i name >>= f

def Fields.withDefault {α : Type} (fs : Fields) (i : Nat) (name : String) (dflt : α)
    (f : Value → Option α) : Option α :=
  match fs.get? i name with
  | some v => f v
  | none => some dflt

def Fields.optional {α : Type} (fs : Fields) (i : Nat) (name : String) (f : Value → Option α) :
    Option (Option α) :=
  fs.withDefault i name none (readOption f)

/-- A variant as written. -/
inductive Variant where
  | bare (name : String)
  | withContent (name : String) (content : Value)

def openVariant (room : Nat) : Value → Option Variant
  | .string (.text s) => some (.bare s)
  | .object [(.text k, v)] => (enter room).map fun _ => .withContent k v
  | _ => none

def Variant.unitName? : Variant → Option String
  | .bare n => some n
  | .withContent n .null => some n
  | _ => none

/-! ## Reading through a buffer

A variant tagged by one of its members is read in two steps: its other members are first
held whole in a buffer, and the variant is then read out of the buffer. So all of such a
value counts, also what the second step skips: its containers must nest within the room, its
keys and strings must be text and its numbers must be in range. Out of a buffer, an empty
object is also no content, like `null`. A tagged variant may also be written as a sequence:
its tag, then its fields in order.
-/

def buffers : Nat → Value → Bool
  | _, .null => true
  | _, .bool _ => true
  | _, .number n => n.read.isSome
  | _, .string (.text _) => true
  | _, .string .unpaired => false
  | r + 2, .array items => items.all (buffers (r + 1))
  | r + 2, .object members => members.all fun
      | (.text _, x) => buffers (r + 1) x
      | (.unpaired, _) => false
  | _, _ => false

/-- A variant without content, read out of a buffer: its name, alone or with `null` or an
empty object. -/
def Variant.bufferedUnitName? : Variant → Option String
  | .withContent n (.object []) => some n
  | w => w.unitName?

def Variant.unitNameIn (buffered : Bool) (w : Variant) : Option String :=
  if buffered then w.bufferedUnitName? else w.unitName?

/-- Opens a variant tagged by its member `tag`, or written as its tag followed by its fields,
at this room; the fields are held in a buffer and read with one less. The tag must be given
once and be a string. -/
def openTagged (tag : String) (room : Nat) (v : Value) : Option (String × Fields) := do
  let inner ← enter room
  match v with
  | .object members =>
    let ms ← textKeys members
    let (tags, rest) := ms.partition (·.1 == tag)
    let [(_, t)] := tags | none
    if rest.all (fun (_, x) => buffers inner x) then pure (← readText t, .byName rest) else none
  | .array (t :: items) =>
    if items.all (buffers inner) then pure (← readText t, .byPosition items) else none
  | _ => none

/-- The fields of a record with these names: no known name given twice, and no more items
than names. -/
def Fields.fit (names : List String) : Fields → Option Fields
  | .byName ms => if repeatsKnown names ms then none else some (.byName ms)
  | .byPosition items => if items.length ≤ names.length then some (.byPosition items) else none

end Isel.Json
