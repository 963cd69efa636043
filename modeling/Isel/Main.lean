import Isel.Cli.Run

/-!
# The `cfgsel` program

Reads the files the command line names, runs it, prints what it gives and exits with its
status.
-/

open Isel.Cli

def osErrorText (code : UInt32) (details : String) : String :=
  let what := match code.toNat with
    | 2 => "No such file or directory"
    | 13 => "Permission denied"
    | 20 => "Not a directory"
    | 21 => "Is a directory"
    | _ => details
  what ++ " (os error " ++ toString code ++ ")"

def describeError : IO.Error → String
  | .noFileOrDirectory _ c d | .permissionDenied _ c d | .inappropriateType _ c d
  | .noSuchThing _ c d | .invalidArgument _ c d | .alreadyExists _ c d
  | .resourceExhausted _ c d => osErrorText c d
  | .otherError c d | .resourceBusy c d | .resourceVanished c d | .unsupportedOperation c d
  | .hardwareFault c d | .unsatisfiedConstraints c d | .illegalOperation c d
  | .protocolError c d | .timeExpired c d => osErrorText c d
  | .interrupted _ c d => osErrorText c d
  | .unexpectedEof => "failed to fill whole buffer"
  | .userError msg => msg

def readText (path : String) : IO (Except String String) := do
  try
    let bytes ← IO.FS.readBinFile path
    match String.fromUTF8? bytes with
    | some s => pure (.ok s)
    | none => pure (.error "stream did not contain valid UTF-8")
  catch e => pure (.error (describeError e))

def main (args : List String) : IO UInt32 := do
  let outcome ← match parseArgs args with
    | .error stop => pure stop.outcome
    | .ok inv => do
      let texts ← inv.reads.mapM fun p => do pure (p, ← readText p)
      pure (inv.run fun p => (texts.lookup p).getD (.error (osErrorText 2 "")))
  let out ← IO.getStdout
  out.putStr outcome.stdout
  out.flush
  let err ← IO.getStderr
  err.putStr outcome.stderr
  err.flush
  pure outcome.status.toUInt32
