import Isel.Cli.Help
import Isel.Cli.Similar

/-!
# What a command line has given

The words of a command line are read one level at a time: the program's own flags, then the
subcommand's. Each level keeps a record of the arguments it was given, in the order they
entered it, each followed by the group it belongs to the first time the group is met. The
groups are `-v` with `-q` on the top level, and the module file with `--config` in a
subcommand.

An argument enters the record when it is taken, and an option or the module file is taken
when its value is settled: when the next flag is read, or another positional argument, or
the words end. It enters before its value is checked, so a record can hold an argument whose
value was refused. `-v` counts; each time it is taken it moves to the end of the record.
Every other argument may be taken once.

The record decides the usage line of many errors: such a line lists arguments of the record,
the options first, then the groups (an argument of a listed group shows only there), then
the module file or the subcommand place.
-/

namespace Isel.Cli

/-! ## Arguments and groups -/

/-- How `select` prints the program. -/
inductive Emit where
  | text
  | json
deriving Repr, DecidableEq, Inhabited

/-- An argument of the program. -/
inductive Param where
  | verbose
  | quiet
  | help
  | version
  | config
  | emit
  | file
deriving Repr, DecidableEq, Inhabited

def Param.display : Param → String
  | .verbose => "--verbose..."
  | .quiet => "--quiet"
  | .help => "--help"
  | .version => "--version"
  | .config => "--config <PATH>"
  | .emit => "--emit <EMIT>"
  | .file => "<FILE>"

def Param.takesValue : Param → Bool
  | .config | .emit | .file => true
  | _ => false

def shortParam? : Char → Option Param
  | 'v' => some .verbose
  | 'q' => some .quiet
  | 'h' => some .help
  | 'V' => some .version
  | _ => none

/-- A group of arguments declared together. -/
inductive Group where
  | logging
  | input
deriving Repr, DecidableEq, Inhabited

def Group.display : Group → String
  | .logging => "<--verbose...|--quiet>"
  | .input => "<FILE|--config <PATH>>"

def Group.members : Group → List Param
  | .logging => [.verbose, .quiet]
  | .input => [.file, .config]

/-- Where words are read: before the subcommand, or after it. -/
inductive Level where
  | top
  | sub (s : Subcommand)
deriving Repr, DecidableEq, Inhabited

def Level.groupOf? : Level → Param → Option Group
  | .top, .verbose | .top, .quiet => some .logging
  | .sub _, .file | .sub _, .config => some .input
  | _, _ => none

def Level.longs : Level → List (String × Param)
  | .top => [("verbose", .verbose), ("quiet", .quiet), ("help", .help), ("version", .version)]
  | .sub .select =>
    [("config", .config), ("emit", .emit), ("verbose", .verbose), ("quiet", .quiet),
      ("help", .help), ("version", .version)]
  | .sub .validate =>
    [("config", .config), ("verbose", .verbose), ("quiet", .quiet), ("help", .help),
      ("version", .version)]

def Level.hasPositional : Level → Bool
  | .top => false
  | .sub _ => true

def Level.required : Level → List Param
  | .top => []
  | .sub _ => [.file]

def Level.helpText (lv : Level) (long : Bool) : String :=
  match lv with
  | .top => topHelp
  | .sub s => if long then s.longHelp else s.shortHelp

def Level.version : Level → String
  | .top => versionText
  | .sub s => s.versionText

/-! ## Usage lines -/

/-- An entry of the record: an argument, or a group. -/
inductive Entry where
  | arg (p : Param)
  | group (g : Group)
deriving Repr, DecidableEq, Inhabited

def Level.head : Level → String
  | .top => "cfgsel"
  | .sub s => "cfgsel " ++ s.name

def Level.usage : Level → String
  | .top => topUsage
  | .sub s => s.usage

/-- A usage line that lists these entries after the level's required arguments: the options,
then the groups, then the module file (unless a listed group shows it) or the subcommand
place. Each is listed once. -/
def Level.listedUsage (lv : Level) (used : List Entry) : String :=
  let items := lv.required.map Entry.arg ++ used
  let groups := (items.filterMap fun
    | .group g => some g
    | .arg _ => none).eraseDups
  let grouped := groups.flatMap Group.members
  let options := (items.filterMap fun
    | .arg p => if p == .file || grouped.contains p then none else some p
    | .group _ => none).eraseDups
  let tail := match lv with
    | .top => " <COMMAND>"
    | .sub _ => if grouped.contains .file then "" else " <FILE>"
  lv.head ++ String.join (options.map (" " ++ ·.display)) ++
    String.join (groups.map (" " ++ ·.display)) ++ tail

def Level.usageFor (lv : Level) (used : List Entry) : String :=
  if used.isEmpty then lv.usage else lv.listedUsage used

/-! ## Errors -/

/-- A command line that does not run a command. -/
inductive Stop where
  | show (text : String)
  | usage (text : String)
deriving Repr, DecidableEq, Inhabited

def errorBody (message : String) (tips : List String) (usage : Option String) : String :=
  "error: " ++ message ++
    (if tips.isEmpty then "" else "\n" ++ String.join (tips.map ("\n  tip: " ++ ·))) ++
    (match usage with
     | some u => "\n\nUsage: " ++ u
     | none => "")

/-- The text of a usage error of a command with a help flag: the body, then where more help
is. -/
def errorText (message : String) (tips : List String) (usage : Option String) : String :=
  errorBody message tips usage ++ "\n\nFor more information, try '--help'.\n"

def similarTip (what : String) (names : List String) : String :=
  match names with
  | [n] => "a similar " ++ what ++ " exists: '" ++ n ++ "'"
  | _ => "some similar " ++ what ++ "s exist: " ++ ", ".intercalate (names.map ("'" ++ · ++ "'"))

def emitValues : String := "\n  [possible values: text, json]"

def emptyValue (p : Param) : Stop :=
  .usage (errorText ("a value is required for '" ++ p.display ++ "' but none was supplied" ++
    (if p == .emit then emitValues else "")) [] none)

def invalidEmit (v : String) : Stop :=
  .usage (errorText ("invalid value '" ++ v ++ "' for '" ++ Param.display .emit ++ "'" ++ emitValues)
    ((mostSimilar? v ["text", "json"]).toList.map (fun s => "a similar value exists: '" ++ s ++ "'"))
    none)

def givenTwice (p : Param) (usage : String) : Stop :=
  .usage (errorText ("the argument '" ++ p.display ++ "' cannot be used multiple times") []
    (some usage))

def unexpectedValue (v : String) (p : Param) (usage : String) : Stop :=
  .usage (errorText ("unexpected value '" ++ v ++ "' for '" ++ p.display ++
    "' found; no more were expected") [] (some usage))

def conflict (first other : Param) (usage : String) : Stop :=
  .usage (errorText ("the argument '" ++ first.display ++ "' cannot be used with '" ++
    other.display ++ "'") [] (some usage))

def unexpectedArgument (word : String) (tips : List String) (usage : String) : Stop :=
  .usage (errorText ("unexpected argument '" ++ word ++ "' found") tips (some usage))

def asValueTip (word : String) : String :=
  "to pass '" ++ word ++ "' as a value, use '-- " ++ word ++ "'"

/-! ## The record -/

/-- The record of what a level has been given, with the values taken. -/
structure Given where
  entries : List Entry := []
  verbose : Nat := 0
  quiet : Bool := false
  file : Option String := none
  config : Option String := none
  emit : Option Emit := none
deriving Repr, Inhabited

def Given.has (g : Given) (p : Param) : Bool := g.entries.contains (.arg p)

def Given.params (g : Given) : List Param :=
  g.entries.filterMap fun
    | .arg p => some p
    | .group _ => none

def Given.args (g : Given) : List Entry := g.params.map Entry.arg

def Given.enter (lv : Level) (g : Given) (p : Param) : Given :=
  let es := if g.entries.contains (.arg p) then g.entries else g.entries ++ [.arg p]
  let es := match lv.groupOf? p with
    | some gr => if es.contains (.group gr) then es else es ++ [.group gr]
    | none => es
  { g with entries := es }

/-- Takes an argument with the value read for it, if any. An option or the module file needs
a value that its argument accepts; `-v` counts up to 255 and moves to the end of the record;
any other argument may be taken once. The record is returned also when this fails. -/
def Given.take (lv : Level) (g : Given) (p : Param) (value : Option String) : Given × Option Stop :=
  match p, value with
  | .verbose, _ =>
    let moved := Given.enter lv { g with entries := g.entries.erase (.arg .verbose) } .verbose
    ({ moved with verbose := min 255 (g.verbose + 1) }, none)
  | .config, none | .emit, none | .file, none => (g, some (emptyValue p))
  | _, _ =>
    if g.has p then (g, some (givenTwice p lv.usage))
    else
      let g := g.enter lv p
      let v := value.getD ""
      match p with
      | .quiet => ({ g with quiet := true }, none)
      | .config => if v.isEmpty then (g, some (emptyValue .config)) else ({ g with config := some v }, none)
      | .file => if v.isEmpty then (g, some (emptyValue .file)) else ({ g with file := some v }, none)
      | .emit =>
        match v with
        | "text" => ({ g with emit := some .text }, none)
        | "json" => ({ g with emit := some .json }, none)
        | "" => (g, some (emptyValue .emit))
        | _ => (g, some (invalidEmit v))
      | _ => (g, none)

/-- `-q` and `-v` exclude each other: the error for the first of them in the record when both
are there. Its usage line lists the record's arguments but the other one. -/
def Given.conflict? (lv : Level) (g : Given) : Option Stop :=
  let ps := g.params
  if ps.contains .verbose && ps.contains .quiet then
    let first := if ps.idxOf .verbose < ps.idxOf .quiet then Param.verbose else .quiet
    let other := if first == .verbose then Param.quiet else .verbose
    some (conflict first other (lv.usageFor ((ps.filter (· != other)).map Entry.arg)))
  else none

def Given.missing? (lv : Level) (g : Given) : Option Stop :=
  if lv.required.all g.has then none
  else some (.usage (errorText "the following required arguments were not provided:\n  <FILE>" []
    (some (lv.listedUsage (g.args ++ [.arg .file])))))

/-- An unknown long flag `--name`; `rest` are the words after it. A similar flag of the level
is suggested, and shown in the usage line; failing that, at the top, a similar flag of a
subcommand named later; failing that, in a subcommand, passing the word as a value. -/
def Given.unknownLong (lv : Level) (g : Given) (name : String) (rest : List String) : Stop :=
  let word := "--" ++ name
  match mostSimilar? name (lv.longs.map (·.1)) with
  | some c =>
    let g := match lv.longs.lookup c with
      | some p => g.enter lv p
      | none => g
    unexpectedArgument word ["a similar argument exists: '--" ++ c ++ "'"] (lv.usageFor g.args)
  | none =>
    let elsewhere := match lv with
      | .top =>
        let found : List (Nat × String × String) :=
          [Subcommand.select, Subcommand.validate].filterMap fun (sub : Subcommand) => do
            let c ← mostSimilar? name ((Level.sub sub).longs.map Prod.fst)
            let pos ← rest.idxOf? sub.name
            pure (pos, sub.name, c)
        found.foldl (fun (acc : Option (Nat × String × String)) (x : Nat × String × String) =>
          match acc with
          | some y => if x.1 < y.1 then some x else some y
          | none => some x) none
      | .sub _ => none
    let tips := match elsewhere with
      | some (_, sub, c) => ["'" ++ sub ++ " --" ++ c ++ "' exists"]
      | none => if lv.hasPositional then [asValueTip word] else []
    unexpectedArgument word tips (lv.usageFor g.args)

/-- A flag with a value attached: the usage line lists the record but the required arguments,
groups included, and then the flag. -/
def Given.attachedValue (lv : Level) (g : Given) (p : Param) (v : String) : Stop :=
  let used := g.entries.filter (fun e => !(lv.required.map Entry.arg).contains e) ++ [.arg p]
  unexpectedValue v p (lv.usageFor used)

end Isel.Cli
