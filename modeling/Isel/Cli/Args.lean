import Isel.Cli.Given

/-!
# The command line

`cfgsel [-v…] [-q] <select|validate|help> …` with, after `select` or `validate`, a module file,
`--config PATH`, and for `select` `--emit text|json`. The words are read left to right, one
level at a time (see `Given` for the record each level keeps):

* on the top level, `select` and `validate` start the subcommand, which reads the rest of the
  words, and `help NAME…` prints a help;
* `--name` and `--name=value` are long flags, `-abc` is a cluster of short flags, `--` makes
  every later word a plain value, and any other word is a value: of the option waiting for
  one, or else the module file;
* a value waits to be settled until the next flag or positional argument, or the end; a flag
  settles it first and fails if it is refused, while an error found at the flag itself (an
  unknown flag, a value attached to a flag) ignores what settling it finds;
* `-h`/`--help` and `-V`/`--version` stop reading and print; `-h` gives the short help,
  `--help` the long one;
* after a level's words: `-q` together with `-v` on that level is an error, and so is a missing
  module file; the top level is checked after its subcommand.

Every error is a usage error with status 2.
-/

namespace Isel.Cli

/-- A command to run. -/
inductive Command where
  | select (file : String) (config : Option String) (emit : Emit)
  | validate (file : String) (config : Option String)
deriving Repr, DecidableEq, Inhabited

/-- A command line that runs a command. -/
structure Invocation where
  verbose : Nat
  quiet : Bool
  command : Command
deriving Repr, DecidableEq, Inhabited

def splitValue (body : String) : String × Option String :=
  match body.toList.span (· != '=') with
  | (name, []) => (String.ofList name, none)
  | (name, _ :: value) => (String.ofList name, some (String.ofList value))

/-! ## Reading one level -/

/-- An argument whose value waits to be settled, with the value read for it, if any. -/
structure Pending where
  param : Param
  value : Option String
deriving Repr, Inhabited

/-- What has been read on a level. -/
structure Scan where
  given : Given := {}
  pending : Option Pending := none
  waiting : Bool := false
  trailing : Bool := false
  fileTaken : Bool := false
deriving Repr, Inhabited

/-- Settles the pending value: its argument is taken with it. The record is kept also when
this fails. -/
def Scan.settle (lv : Level) (s : Scan) : Scan × Option Stop :=
  match s.pending with
  | none => (s, none)
  | some pd =>
    let (g, err) := s.given.take lv pd.param pd.value
    ({ s with given := g, pending := none }, err)

def Scan.settled (lv : Level) (s : Scan) : Except Stop Scan :=
  match s.settle lv with
  | (s, none) => .ok s
  | (_, some e) => .error e

def Scan.flag (lv : Level) (s : Scan) (p : Param) (long : Bool) : Except Stop Scan := do
  let s ← s.settled lv
  match p with
  | .help => throw (.show (lv.helpText long))
  | .version => throw (.show lv.version)
  | _ =>
    match s.given.take lv p none with
    | (g, none) => pure { s with given := g, waiting := false }
    | (_, some e) => throw e

def Scan.long (lv : Level) (s : Scan) (body : String) (rest : List String) : Except Stop Scan :=
  let (name, value) := splitValue body
  match lv.longs.lookup name, value with
  | some p, some v =>
    if p.takesValue then do
      let s ← s.settled lv
      match s.given.take lv p (some v) with
      | (g, none) => pure { s with given := g, waiting := false }
      | (_, some e) => throw e
    else .error (s.given.attachedValue lv p v)
  | some p, none =>
    if p.takesValue then do
      let s ← s.settled lv
      pure { s with pending := some ⟨p, none⟩, waiting := true }
    else s.flag lv p true
  | none, _ => .error ((s.settle lv).1.given.unknownLong lv name rest)

def Scan.shorts (lv : Level) : Scan → List Char → Except Stop Scan
  | s, [] => .ok s
  | s, c :: cs =>
    match shortParam? c with
    | some p => do
      let s ← s.flag lv p false
      Scan.shorts lv s cs
    | none =>
      let word := "-" ++ c.toString
      .error (unexpectedArgument word (if lv.hasPositional then [asValueTip word] else [])
        lv.usage)

def Scan.plain (lv : Level) (s : Scan) (w : String) : Except Stop Scan :=
  if s.waiting && !s.trailing then
    pure { s with pending := s.pending.map ({ · with value := some w }), waiting := false }
  else if s.fileTaken then .error (unexpectedArgument w [] lv.usage)
  else do
    let s ← s.settled lv
    pure { s with pending := some ⟨.file, some w⟩, fileTaken := true, waiting := false }

def Scan.word (lv : Level) (s : Scan) (w : String) (rest : List String) : Except Stop Scan :=
  if s.trailing then s.plain lv w
  else if w == "--" then pure { s with trailing := true }
  else if w.startsWith "--" then s.long lv (w.drop 2).toString rest
  else if w.startsWith "-" && w.length > 1 then Scan.shorts lv s (w.drop 1).toString.toList
  else s.plain lv w

def Scan.words (lv : Level) : Scan → List String → Except Stop Scan
  | s, [] => .ok s
  | s, w :: rest => do
    let s ← s.word lv w rest
    Scan.words lv s rest

/-- Reads a subcommand's words, then checks them: the last value settles, `-q` and `-v` are not
both given, and the module file is. -/
def Subcommand.scan (sub : Subcommand) (words : List String) : Except Stop Given := do
  let lv := Level.sub sub
  let s ← Scan.words lv {} words
  let s ← s.settled lv
  if let some e := s.given.conflict? lv then throw e
  if let some e := s.given.missing? lv then throw e
  pure s.given

/-! ## The top level -/

def unknownCommand (word : String) (trailing : Bool) : Stop :=
  if trailing && (word == "select" || word == "validate" || word == "help") then
    unexpectedArgument word
      ["subcommand '" ++ word ++ "' exists; to use it, remove the '--' before it"] topUsage
  else
    let tips := match similarNames word ["select", "validate", "help"] with
      | [] => []
      | names => [similarTip "subcommand" names]
    .usage (errorText ("unrecognized subcommand '" ++ word ++ "'") tips (some topUsage))

/-- The help that `help NAME…` asks for. A name that is no subcommand of the one before it is
an error; the help subcommand has no help flag, so its error says nothing more. -/
def helpFor : List String → Stop
  | [] => .show topHelp
  | n :: more =>
    let within (text usage : String) : Stop :=
      match more with
      | [] => .show text
      | m :: _ => .usage (errorText ("unrecognized subcommand '" ++ m ++ "'") [] (some usage))
    match n with
    | "select" => within Subcommand.select.longHelp Subcommand.select.usage
    | "validate" => within Subcommand.validate.longHelp Subcommand.validate.usage
    | "help" =>
      match more with
      | [] => .show helpHelp
      | m :: _ =>
        .usage (errorBody ("unrecognized subcommand '" ++ m ++ "'") [] (some helpUsage) ++ "\n")
    | _ => .usage (errorText ("unrecognized subcommand '" ++ n ++ "'") [] (some topUsage))

def subcommandOf? (w : String) : Option Subcommand :=
  if w == "select" then some .select else if w == "validate" then some .validate else none

def runSubcommand (top : Given) (sub : Subcommand) (words : List String) :
    Except Stop Invocation := do
  let g ← sub.scan words
  if let some e := top.conflict? .top then throw e
  let file := g.file.getD ""
  let command := match sub with
    | .select => Command.select file g.config (g.emit.getD .text)
    | .validate => Command.validate file g.config
  pure ⟨if g.verbose > 0 then g.verbose else top.verbose, top.quiet || g.quiet, command⟩

def Given.finishTop (g : Given) : Stop :=
  if g.entries.isEmpty then .usage topHelp
  else .usage (errorText
    "'cfgsel' requires a subcommand but one was not provided\n  [subcommands: select, validate, help]"
    [] (some topUsage))

def readTop (s : Scan) : List String → Except Stop Invocation
  | [] => .error s.given.finishTop
  | w :: rest =>
    if s.trailing then .error (unknownCommand w true)
    else match subcommandOf? w with
    | some sub => runSubcommand s.given sub rest
    | none =>
      if w == "help" then .error (helpFor rest)
      else if w == "--" then readTop { s with trailing := true } rest
      else if w.startsWith "--" then do
        let s ← s.long .top (w.drop 2).toString rest
        readTop s rest
      else if w.startsWith "-" && w.length > 1 then do
        let s ← Scan.shorts .top s (w.drop 1).toString.toList
        readTop s rest
      else .error (unknownCommand w false)

def parseArgs (args : List String) : Except Stop Invocation := readTop {} args

end Isel.Cli
