import Isel.Toml.Value

/-!
# Building a TOML document

While a document is read, every table remembers how it came to be, because that decides what
may still be added to it:

* a table named by a `[header]` is defined once; a second header for it is a conflict;
* a table made on the way to a deeper header (`[a.b]` makes `a`) may get its own header
  later, once, and dotted keys may go through it;
* a table made by a dotted key (`a.b = 1` makes `a`) may get more dotted keys;
* a value, inline tables and arrays included, is never extended.

A dotted key goes through tables that were not named by headers, or into the last table of an
array of tables, and the table it ends in must have been made by dotted keys. An array of
tables (`[[a]]`) gets a new table at each such header.

The table that keys and values go to is held apart from the root while it is filled, and
goes into the root when the next header comes or the text ends: a header table at the end of
its parent (or where its implicit table stood), a new table of an array at the end of the
array. A header table's place is its header, stretched to the end of each value written
under it.

Conflicts are named as the reader reports them: a key given twice, in a table named by its
path or in none, or a dotted key that goes through a value. A key in a header is named as it
would be written: bare when it may be, else quoted.
-/

namespace Isel.Toml

/-- How a table came to be. -/
inductive Origin where
  | implicit
  | header
  | dotted
deriving Repr, DecidableEq, Inhabited

/-- A part of a document being read. -/
inductive Node where
  | leaf (v : Value) (place : Place)
  | table (origin : Origin) (place : Option Place) (entries : List (String × Place × Node))
  | tables (last : Place × List (String × Place × Node))
      (earlier : List (Place × List (String × Place × Node)))

/-- The entries of a table: each key with the place it was first written. -/
abbrev Entries := List (String × Place × Node)

/-- A key of a path with the place it is written at. -/
abbrev KeyPart := String × Place

/-- A key of one or more parts joined by dots. -/
structure DottedKey where
  init : List KeyPart
  last : KeyPart

def DottedKey.names (k : DottedKey) : List String := k.init.map (·.1) ++ [k.last.1]

/-- Why a key or header may not go where it is written. -/
inductive Conflict where
  | duplicate (key : String) (table : Option (List String))
  | extendsValue (path : List String) (kind : String)

def Conflict.message : Conflict → String
  | .duplicate key none => "duplicate key `" ++ key ++ "`"
  | .duplicate key (some []) => "duplicate key `" ++ key ++ "` in document root"
  | .duplicate key (some path) =>
    "duplicate key `" ++ key ++ "` in table `" ++ ".".intercalate path ++ "`"
  | .extendsValue path kind =>
    "dotted key `" ++ ".".intercalate path ++ "` attempted to extend non-table type (" ++
      kind ++ ")"

/-! ## Keys as written -/

def isBareKeyChar (c : Char) : Bool :=
  ('A' ≤ c ∧ c ≤ 'Z') || ('a' ≤ c ∧ c ≤ 'z') || ('0' ≤ c ∧ c ≤ '9') || c == '_' || c == '-'

def hexUpper (n : Nat) : Char := if n < 10 then Char.ofNat (48 + n) else Char.ofNat (55 + n)

def isEscapedControl (c : Char) : Bool := c.toNat ≤ 0x1F || c.toNat == 0x7F

def basicChar (c : Char) : String :=
  match c with
  | '\x08' => "\\b"
  | '\t' => "\\t"
  | '\n' => "\\n"
  | '\x0c' => "\\f"
  | '\r' => "\\r"
  | '"' => "\\\""
  | '\\' => "\\\\"
  | c =>
    if isEscapedControl c then
      "\\u" ++ String.ofList ((List.range 4).reverse.map fun i => hexUpper (c.toNat / Nat.pow 16 i % 16))
    else c.toString

def hasThreeApostrophes : List Char → Bool
  | '\'' :: '\'' :: '\'' :: _ => true
  | _ :: rest => hasThreeApostrophes rest
  | [] => false

/-- Whether a quoted key is written as a literal string: it holds a backslash, no control
character but tab and line feed, no three apostrophes in a row, and does not end with one. -/
def quotesLiterally (cs : List Char) : Bool :=
  cs.contains '\\' && cs.all (fun c => c == '\t' || c == '\n' || !isEscapedControl c) &&
    !hasThreeApostrophes cs && cs.getLast? != some '\''

def keyRepr (k : String) : String :=
  let cs := k.toList
  if !cs.isEmpty && cs.all isBareKeyChar then k
  else if quotesLiterally cs then "'" ++ k ++ "'"
  else "\"" ++ String.join (cs.map basicChar) ++ "\""

/-! ## Entries -/

def Entries.node? (es : Entries) (k : String) : Option Node := (es.find? (·.1 == k)).map (·.2.2)

def Entries.put (es : Entries) (k : String) (n : Node) : Entries :=
  es.map fun e => if e.1 == k then (e.1, e.2.1, n) else e

def Entries.push (es : Entries) (k : KeyPart) (n : Node) : Entries := es ++ [(k.1, k.2, n)]

def Entries.erase (es : Entries) (k : String) : Entries := es.filter (·.1 != k)

/-- Changes, with `act`, the table that a path of keys leads to below a table; `act` also
learns whether that table was made by dotted keys (`here` says it of the first table).
Missing tables on the way are made: by dotted keys if `dotted`, else on the way to a header.
An array of tables is entered at its last table. A value on the way is a conflict, and so is,
on a dotted path, a table that a header named. `passed` is the path before the first part. -/
def descend {β : Type} (dotted : Bool) (act : Bool → Entries → Except Conflict (Entries × β))
    (passed : List String) (here : Bool) : List KeyPart → Entries → Except Conflict (Entries × β)
  | [], es => act here es
  | k :: ks, es =>
    let path := passed ++ [k.1]
    match es.node? k.1 with
    | none => do
      let (inner, b) ← descend dotted act path dotted ks []
      pure (es.push k (.table (if dotted then .dotted else .implicit) none inner), b)
    | some (.leaf v _) => .error (.extendsValue path v.kindName)
    | some (.tables (p, last) earlier) => do
      let (inner, b) ← descend dotted act path false ks last
      pure (es.put k.1 (.tables (p, inner) earlier), b)
    | some (.table o p inner) =>
      if dotted && o == .header then .error (.duplicate k.1 none)
      else do
        let (inner', b) ← descend dotted act path (o == .dotted) ks inner
        pure (es.put k.1 (.table o p inner'), b)

/-- Sets a dotted key to a value written at `place`, below a table not made by dotted keys.
The table the key ends in must be that table or one made by dotted keys, and must not have
the key yet; `table` is the path a complaint about a key given twice names, if any. -/
def Entries.setDotted (table : Option (List String)) (key : DottedKey) (v : Value) (place : Place)
    (es : Entries) : Except Conflict Entries :=
  (·.1) <$> descend true (fun dottedHere inner =>
      if dottedHere == key.init.isEmpty then .error (.duplicate key.last.1 none)
      else match inner.node? key.last.1 with
        | some _ => .error (.duplicate key.last.1 table)
        | none => .ok (inner.push key.last (.leaf v place), ())) [] false key.init es

def headerTaken (key : DottedKey) : Conflict :=
  .duplicate (keyRepr key.last.1) (some (key.init.map (·.1)))

/-- Opens the table a `[header]` names below the root: the root without it, and the entries
it already has, which only a table made on the way to a deeper header may have. -/
def Entries.openTable (key : DottedKey) (root : Entries) : Except Conflict (Entries × Entries) :=
  descend false (fun _ parent =>
    match parent.node? key.last.1 with
    | none => .ok (parent, [])
    | some (.table .implicit _ inner) => .ok (parent.erase key.last.1, inner)
    | some _ => .error (headerTaken key)) [] false key.init root

/-- Checks that a `[[header]]` may add a table to its array below the root: its key is new
or names an array of tables. -/
def Entries.openArrayTable (key : DottedKey) (root : Entries) : Except Conflict Entries :=
  (·.1) <$> descend false (fun _ parent =>
    match parent.node? key.last.1 with
    | none | some (.tables _ _) => .ok (parent, ())
    | some _ => .error (headerTaken key)) [] false key.init root

/-- Puts a filled header table into the root: at the end of its parent, or in place of a
table that was made for it on the way. -/
def Entries.closeTable (root : Entries) (key : DottedKey) (place : Place) (table : Entries) :
    Except Conflict Entries :=
  (·.1) <$> descend false (fun _ parent =>
    match parent.node? key.last.1 with
    | none => .ok (parent.push key.last (.table .header (some place) table), ())
    | some (.table .header _ _) => .error (headerTaken key)
    | some (.table _ _ _) => .ok (parent.put key.last.1 (.table .header (some place) table), ())
    | some _ => .error (headerTaken key)) [] false key.init root

def Entries.closeArrayTable (root : Entries) (key : DottedKey) (place : Place)
    (table : Entries) : Except Conflict Entries :=
  (·.1) <$> descend false (fun _ parent =>
    match parent.node? key.last.1 with
    | none => .ok (parent.push key.last (.tables (place, table) []), ())
    | some (.tables last earlier) =>
      .ok (parent.put key.last.1 (.tables (place, table) (last :: earlier)), ())
    | some _ => .error (headerTaken key)) [] false key.init root

/-! ## The document being read -/

/-- The table that keys and values go to: the root before any header, else the table of a
header with its place so far. -/
inductive Filling where
  | root
  | table (key : DottedKey) (place : Place)
  | arrayTable (key : DottedKey) (place : Place)

def Filling.names : Filling → List String
  | .root => []
  | .table k _ => k.names
  | .arrayTable k _ => k.names

def Filling.reach (stop : Nat) : Filling → Filling
  | .root => .root
  | .table k p => .table k ⟨p.start, stop⟩
  | .arrayTable k p => .arrayTable k ⟨p.start, stop⟩

/-- A document being read: the tables done so far, and the table being filled, held apart. At
the root level the root itself is filled, and the tables done are none. -/
structure Builder where
  root : Entries
  current : Entries
  filling : Filling

def Builder.empty : Builder := ⟨[], [], .root⟩

def Builder.addKeyval (b : Builder) (key : DottedKey) (v : Value) (place : Place) :
    Except Conflict Builder := do
  let current ← b.current.setDotted (some b.filling.names) key v place
  pure { b with current, filling := b.filling.reach place.stop }

def Builder.close (b : Builder) : Except Conflict Entries :=
  match b.filling with
  | .root => .ok b.current
  | .table k p => b.root.closeTable k p b.current
  | .arrayTable k p => b.root.closeArrayTable k p b.current

def Builder.openHeader (b : Builder) (many : Bool) (key : DottedKey) (place : Place) :
    Except Conflict Builder := do
  let root ← b.close
  if many then
    let root ← root.openArrayTable key
    pure ⟨root, [], .arrayTable key place⟩
  else
    let (root, current) ← root.openTable key
    pure ⟨root, current, .table key place⟩

def inlineEntries (pairs : List (DottedKey × Value × Place)) : Except Conflict Entries :=
  pairs.foldlM (fun es (k, v, p) => es.setDotted none k v p) []

/-! ## The finished document -/

def spanOf (last : Place × Entries) (earlier : List (Place × Entries)) : Place :=
  ⟨((earlier.getLast?.map (·.1)).getD last.1).start, last.1.stop⟩

mutual

def Node.toItem : Node → Item
  | .leaf v p => .mk v (some p)
  | .table _ p es => .mk (.table (entriesValue es)) p
  | .tables (p, es) earlier =>
    .mk (.array ((tablesValue earlier).reverse ++ [.mk (.table (entriesValue es)) (some p)]))
      (some (spanOf (p, es) earlier))

def entriesValue : Entries → List Entry
  | [] => []
  | (k, p, n) :: rest => .mk k p n.toItem :: entriesValue rest

def tablesValue : List (Place × Entries) → List Item
  | [] => []
  | (p, es) :: rest => .mk (.table (entriesValue es)) (some p) :: tablesValue rest

end

end Isel.Toml
