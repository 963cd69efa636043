import Isel.Toml.Tree

/-!
# Readers of TOML text

A reader takes the characters left and gives what it read with the characters after it, or
the trouble it met. Trouble records its place (as the number of characters left there), what
was being read (innermost first), what could have come next, and why a text of the right
shape is refused. A failure is *final* once the text is known to be no TOML there; until
then an alternative, an optional part or a repetition may take its place, and the reader
goes on as if the failed attempt had not been made.

The message of a failure says what was being read (`invalid integer`), what was expected
(`expected digit`), and the cause, each on its own line and each only when there is one.

Repetitions stop at the first failure that is not final, and also when a round reads nothing,
which keeps them total: every round that goes on reads at least one character.
-/

namespace Isel.Toml

/-- Something a reader expected where it stopped. -/
inductive Expectation where
  | char (c : Char)
  | text (s : String)
  | kind (name : String)

def Expectation.render : Expectation → String
  | .char '\n' => "newline"
  | .char c => "`" ++ c.toString ++ "`"
  | .text s => "`" ++ s ++ "`"
  | .kind name => name

/-- Why a text of the right shape is refused. -/
inductive Cause where
  | outOfRange
  | tooDeep
  | tooLarge
  | tooSmall
  | conflict (c : Conflict)

def Cause.message : Cause → String
  | .outOfRange => "value is out of range"
  | .tooDeep => "recursion limit exceeded"
  | .tooLarge => "number too large to fit in target type"
  | .tooSmall => "number too small to fit in target type"
  | .conflict c => c.message

/-- Where and why reading stopped. -/
structure Trouble where
  left : Nat
  labels : List String
  expected : List Expectation
  cause : Option Cause
  final : Bool

def Trouble.plain (cs : List Char) : Trouble := ⟨cs.length, [], [], none, false⟩

def Trouble.message (t : Trouble) : String :=
  let expected := if t.expected.isEmpty then []
    else ["expected " ++ ", ".intercalate (t.expected.map Expectation.render)]
  "\n".intercalate ((t.labels.head?.map ("invalid " ++ ·)).toList ++ expected ++
    (t.cause.map Cause.message).toList)

/-- A reader of TOML text. -/
abbrev Reader (α : Type) := StateT (List Char) (Except Trouble) α

namespace Reader

def stop {α : Type} : Reader α := fun cs => .error (Trouble.plain cs)

def refuseAt {α : Type} (cs : List Char) (cause : Cause) : Reader α :=
  fun _ => .error { Trouble.plain cs with cause := some cause, final := true }

def mapTrouble {α : Type} (f : Trouble → Trouble) (p : Reader α) : Reader α := fun cs =>
  match p cs with
  | .error t => .error (f t)
  | ok => ok

def commit {α : Type} (p : Reader α) : Reader α := mapTrouble (fun t => { t with final := true }) p

def label {α : Type} (name : String) (p : Reader α) : Reader α :=
  mapTrouble (fun t => { t with labels := t.labels ++ [name] }) p

def expecting {α : Type} (e : Expectation) (p : Reader α) : Reader α :=
  mapTrouble (fun t => { t with expected := t.expected ++ [e] }) p

def orElse {α : Type} (p q : Reader α) : Reader α := fun cs =>
  match p cs with
  | .error t => if t.final then .error t else q cs
  | ok => ok

def optional {α : Type} (p : Reader α) : Reader (Option α) := fun cs =>
  match p cs with
  | .ok (a, r) => .ok (some a, r)
  | .error t => if t.final then .error t else .ok (none, cs)

/-- Reads with `p` as often as it can, stopping at a failure that is not final or a round
that reads nothing. -/
def many {α : Type} (p : Reader α) : Reader (List α) := go
where
  go (cs : List Char) : Except Trouble (List α × List Char) :=
    match p cs with
    | .error t => if t.final then .error t else .ok ([], cs)
    | .ok (a, r) =>
      if r.length < cs.length then
        match go r with
        | .ok (as, r') => .ok (a :: as, r')
        | .error t => .error t
      else .ok ([a], r)
  termination_by cs.length

def many1 {α : Type} (p : Reader α) : Reader (List α) := do
  let a ← p
  let as ← many p
  pure (a :: as)

/-- Reads items with `p` after a first one, each after a `sep`; a separator that is not
followed by an item is left unread. -/
def sepRest {α : Type} (p : Reader α) (sep : Reader Unit) (cs : List Char) :
    Except Trouble (List α × List Char) :=
  match sep cs with
  | .error t => if t.final then .error t else .ok ([], cs)
  | .ok ((), r) =>
    match p r with
    | .error t => if t.final then .error t else .ok ([], cs)
    | .ok (a, r') =>
      if r'.length < cs.length then
        match sepRest p sep r' with
        | .ok (as, r'') => .ok (a :: as, r'')
        | .error t => .error t
      else .ok ([a], r')
termination_by cs.length

def sepBy1 {α : Type} (p : Reader α) (sep : Reader Unit) : Reader (List α) := do
  let a ← p
  let as ← sepRest p sep
  pure (a :: as)

def sepBy {α : Type} (p : Reader α) (sep : Reader Unit) : Reader (List α) :=
  fun cs => match sepBy1 p sep cs with
  | .error t => if t.final then .error t else .ok ([], cs)
  | ok => ok

def next : Reader Char := fun cs =>
  match cs with
  | c :: r => .ok (c, r)
  | [] => .error (Trouble.plain cs)

def satisfy (f : Char → Bool) : Reader Char := fun cs =>
  match cs with
  | c :: r => if f c then .ok (c, r) else .error (Trouble.plain cs)
  | [] => .error (Trouble.plain cs)

def char (c : Char) : Reader Unit := fun cs =>
  match cs with
  | d :: r => if d == c then .ok ((), r) else .error (Trouble.plain cs)
  | [] => .error (Trouble.plain cs)

def word (w : List Char) : Reader Unit := fun cs =>
  if w.isPrefixOf cs then .ok ((), cs.drop w.length) else .error (Trouble.plain cs)

def takeWhile (f : Char → Bool) : Reader (List Char) := fun cs =>
  .ok (cs.takeWhile f, cs.dropWhile f)

def takeWhile1 (f : Char → Bool) : Reader (List Char) := fun cs =>
  match cs.takeWhile f with
  | [] => .error (Trouble.plain cs)
  | run => .ok (run, cs.dropWhile f)

def takeBetween (lo hi : Nat) (f : Char → Bool) : Reader (List Char) := fun cs =>
  let run := (cs.takeWhile f).take hi
  if lo ≤ run.length then .ok (run, cs.drop run.length) else .error (Trouble.plain cs)

def atEnd : Reader Unit := fun cs =>
  match cs with
  | [] => .ok ((), [])
  | _ => .error (Trouble.plain cs)

def recognize {α : Type} (p : Reader α) : Reader (List Char) := fun cs =>
  match p cs with
  | .ok (_, r) => .ok (cs.take (cs.length - r.length), r)
  | .error t => .error t

def withPlace {α : Type} (p : Reader α) : Reader (α × Place) := fun cs =>
  match p cs with
  | .ok (a, r) => .ok ((a, ⟨cs.length, r.length⟩), r)
  | .error t => .error t

/-- Reads with `p` and converts what it read with `f`. A refused conversion fails where `p`
started, for `f`'s cause; `final` says whether the failure is final. -/
def convert {α β : Type} (final : Bool) (p : Reader α) (f : α → Except Cause β) : Reader β :=
  fun cs => match p cs with
  | .ok (a, r) =>
    match f a with
    | .ok b => .ok (b, r)
    | .error c => .error { Trouble.plain cs with cause := some c, final }
  | .error t => .error t

/-- Reads with `p` and checks what it read with `f`. A refusal fails where `p` started, with
nothing said; `final` says whether the failure is final. -/
def ensure {α : Type} (final : Bool) (p : Reader α) (f : α → Bool) : Reader α :=
  fun cs => match p cs with
  | .ok (a, r) => if f a then .ok (a, r) else .error { Trouble.plain cs with final }
  | .error t => .error t

end Reader

end Isel.Toml
