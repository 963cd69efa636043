import Isel.Cli.Args
import Isel.Config.Read
import Isel.Tree.Read
import Isel.Lower.Module
import Isel.Graph.Listing
import Isel.Graph.Check
import Isel.Graph.Json

/-!
# Running a command

Both commands load the settings (the defaults without `--config`), read the module, select
it and report the soft failures on standard error (not with `-q`). A failure at any of these
steps is reported on standard error with status 1. `select` then validates the program if the
settings say so and prints it; `validate` always validates and reports what it found. The
validator's warnings are shown unless `-q`; its errors always, followed by
`CFG validation failed.` and status 1. A panic of the builder, which selection never reaches,
would end the program with status 101.

Files are read through `Files`, so a run is a function of the command line and the files.
-/

namespace Isel.Cli

/-- What a run of the program gives. -/
structure Outcome where
  status : Nat
  stdout : String
  stderr : String
deriving Repr, Inhabited

/-- The files a run can read: a file's text, or the system's text for why it cannot be read
(such as `No such file or directory (os error 2)`). -/
abbrev Files := String → Except String String

def Stop.outcome : Stop → Outcome
  | .show text => ⟨0, text, ""⟩
  | .usage text => ⟨2, "", text⟩

def loadSettings (files : Files) : Option String → Except String Config
  | none => .ok {}
  | some path =>
    let fail (why : String) : Except String Config :=
      .error ("Error loading config '" ++ path ++ "': " ++ why)
    match files path with
    | .error e => fail ("failed to read config file: " ++ e)
    | .ok text =>
      match Config.load text with
      | .ok c => .ok c
      | .error (.malformed detail) => fail ("failed to parse config: " ++ detail)
      | .error (.invalid e) => fail e.message

def loadModule (files : Files) (path : String) : Except String Tree.Module :=
  let fail (why : String) : Except String Tree.Module :=
    .error ("Error reading module '" ++ path ++ "': " ++ why)
  match files path with
  | .error e => fail ("failed to read module file: " ++ e)
  | .ok text =>
    match Tree.Module.parse text with
    | .ok m => .ok m
    | .error e => fail ("failed to parse module: " ++ e)

def lines (ls : List String) : String := String.join (ls.map (· ++ "\n"))

def Invocation.run (inv : Invocation) (files : Files) : Outcome :=
  let (file, configPath) := match inv.command with
    | .select f c _ => (f, c)
    | .validate f c => (f, c)
  match loadSettings files configPath with
  | .error msg => ⟨1, "", lines [msg]⟩
  | .ok cfg =>
    match loadModule files file with
    | .error msg => ⟨1, "", lines [msg]⟩
    | .ok m =>
      match Lower.select m cfg with
      | .error (.lowering e) => ⟨1, "", lines [e.diagnostic.display]⟩
      -- a panic ends the process with status 101; its location line is left out
      | .error (.outOfRange len i) => ⟨101, "", lines [Lower.Fault.panicMessage len i]⟩
      | .ok sel =>
        let p := sel.program
        let soft := if inv.quiet then [] else sel.diagnostics.map (·.display)
        let findings := p.check
        let report := (if inv.quiet then [] else findings.warnings.map (·.display)) ++
          findings.errors.map (·.display)
        let failed : Outcome := ⟨1, "", lines (soft ++ report ++ ["CFG validation failed."])⟩
        match inv.command with
        | .select _ _ emit =>
          let validated := if cfg.validate then report else []
          if cfg.validate && !findings.ok then failed
          else
            let out := match emit with
              | .text => p.listing
              | .json => p.toJson.pretty ++ "\n"
            ⟨0, out, lines (soft ++ validated)⟩
        | .validate _ _ =>
          if !findings.ok then failed
          else
            let defined := (p.functions.filter (!·.isDeclaration)).length
            let summary := if inv.quiet then [] else
              ["CFG is well-formed: " ++ toString defined ++ " function(s) defined, " ++
                toString (p.functions.length - defined) ++ " declared only."]
            ⟨0, "", lines (soft ++ report ++ summary)⟩

def Invocation.reads (inv : Invocation) : List String :=
  match inv.command with
  | .select f c _ => c.toList ++ [f]
  | .validate f c => c.toList ++ [f]

def runProgram (args : List String) (files : Files) : Outcome :=
  match parseArgs args with
  | .error stop => stop.outcome
  | .ok inv => inv.run files

end Isel.Cli
