import Isel.Config
import Isel.Toml.Read
import Isel.Complaint

/-!
# Settings from TOML

The settings file has two tables, both optional: `[target]` with `pointer_size` (an integer
from 0 to 2³² - 1) and `[selection]` with `validate` (a boolean) and `global_init_name` (a
string). A missing key keeps its default and an unknown key is ignored. A table may also be
written as an array that gives its keys in that order, missing ones at the end keeping their
defaults.

Loading fails on text that is no TOML, or on the first value, in the order the document is
written, that is not of its setting's kind, pointing at that value; and then on the first
rule the settings break (`Config.check`). A table given where a scalar setting is asked for
is pointed at by its header, or by its key when only keys made it.
-/

namespace Isel

/-- Why settings could not be loaded from text. -/
inductive LoadError where
  | malformed (detail : String)
  | invalid (e : ConfigError)
deriving Repr, DecidableEq, Inhabited

namespace Settings

open Isel.Toml (Value Item Entry Place Failure)

/-- A complaint about the settings, with the place of what it is about once known. -/
abbrev Refusal := String × Option Place

def within {α : Type} (place : Option Place) : Except Refusal α → Except Refusal α
  | .error (m, none) => .error (m, place)
  | r => r

def unexpectedOf : Value → Unexpected
  | .string s => .text s
  | .integer i => .signed i
  | .float t => .float (Toml.floatNumber t)
  | .boolean b => .bool b
  | .datetime _ => .map
  | .array _ => .seq
  | .table _ => .map

def wrongType {α : Type} (v : Value) (expected : String) : Except Refusal α :=
  .error (invalidType plainNotation (unexpectedOf v) expected, none)

def readU32 : Value → Except Refusal Nat
  | .integer i =>
    if 0 ≤ i ∧ i < Int.pow 2 32 then .ok i.toNat else .error (invalidValue plainNotation (.signed i) "u32", none)
  | v => wrongType v "u32"

def readBool : Value → Except Refusal Bool
  | .boolean b => .ok b
  | v => wrongType v "a boolean"

def readString : Value → Except Refusal String
  | .string s => .ok s
  | v => wrongType v "a string"

/-- A field of a settings record read into a `σ`: its key, and the reader of its value,
which gives how it sets it. -/
structure Field (σ : Type) where
  key : String
  read : Item → Except Refusal (σ → σ)

def Field.scalar {σ α : Type} (key : String) (f : Value → Except Refusal α) (put : α → σ → σ) :
    Field σ :=
  ⟨key, fun (.mk v _) => put <$> f v⟩

/-- A settings record read from an item, starting from `start` where fields are missing: a
table gives its fields by key, in the order they are written, and unknown keys are skipped;
an array gives them by position, and items past the fields are skipped; a date-time is read
as a table whose one key is no field. A complaint about a field is placed at its value, or
at its key if the value has no place; any other at the item. -/
def readRecord {σ : Type} (expecting : String) (fields : List (Field σ)) (start : σ) :
    Item → Except Refusal σ
  | .mk v place => within place <|
    match v with
    | .table entries =>
      entries.foldlM (fun acc (e : Entry) =>
        match e with
        | .mk k keyPlace item@(.mk _ p) =>
          match fields.find? (·.key == k) with
          | some f => (· acc) <$> within (some (p.getD keyPlace)) (f.read item)
          | none => pure acc) start
    | .array items =>
      (fields.zip items).foldlM (fun acc (f, item@(.mk _ p)) =>
        (· acc) <$> within p (f.read item)) start
    | .datetime _ => pure start
    | v => wrongType v expecting

def readTarget : Item → Except Refusal Nat :=
  readRecord "struct TargetConfig" [.scalar "pointer_size" readU32 fun n _ => n] 8

def readSelection : Item → Except Refusal (Bool × String) :=
  readRecord "struct SelectionConfig" [
    .scalar "validate" readBool fun b (_, n) => (b, n),
    .scalar "global_init_name" readString fun n (b, _) => (b, n)]
    (true, "global-init")

def readSettings (doc : Value) : Except Refusal Config :=
  readRecord "struct SelectorConfig" [
    ⟨"target", fun item => (fun n (c : Config) => { c with pointerSize := n }) <$> readTarget item⟩,
    ⟨"selection", fun item => (fun (v, n) (c : Config) =>
      { c with validate := v, globalInitName := n }) <$> readSelection item⟩]
    {} (.mk doc none)

end Settings

def Config.load (text : String) : Except LoadError Config :=
  match Toml.parse text with
  | .error f => .error (.malformed (f.render text))
  | .ok doc =>
    match Settings.readSettings doc with
    | .error (message, some place) =>
      .error (.malformed ((Toml.Failure.spanning text place message).render text))
    | .error (message, none) => .error (.malformed (message ++ "\n"))
    | .ok c =>
      match c.check with
      | some e => .error (.invalid e)
      | none => .ok c

end Isel
