import Isel.Span

/-!
# Diagnostics

A diagnostic is an error or a warning with an optional code, a message, the span it is
about and suggestions. It is displayed as `kind[CODE]: message at L:C`, or without the
bracket when there is no code, followed by one `help:` line per suggestion. A code brings
its help text along as a suggestion: only `E0500` and `E0504` have one.

Codes `E0500` to `E0504` are soft failures of selection; `E0600` to `E0604` are findings of
the validator.
-/

namespace Isel

/-- The codes of diagnostics. -/
inductive Code where
  | unresolvedVariable
  | unfinishedCoercion
  | singletonInit
  | throwPropagation
  | unsupportedNode
  | unterminatedBlock
  | instructionAfterTerminal
  | danglingBlockReference
  | missingLandingPad
  | unreachableBlock
deriving Repr, DecidableEq, Inhabited

namespace Code

def all : List Code :=
  [.unresolvedVariable, .unfinishedCoercion, .singletonInit, .throwPropagation, .unsupportedNode,
   .unterminatedBlock, .instructionAfterTerminal, .danglingBlockReference, .missingLandingPad,
   .unreachableBlock]

def number : Code → Nat
  | .unresolvedVariable => 500
  | .unfinishedCoercion => 501
  | .singletonInit => 502
  | .throwPropagation => 503
  | .unsupportedNode => 504
  | .unterminatedBlock => 600
  | .instructionAfterTerminal => 601
  | .danglingBlockReference => 602
  | .missingLandingPad => 603
  | .unreachableBlock => 604

def ofNumber? (n : Nat) : Option Code := all.find? (·.number == n)

/-- `E` and the number in four digits. -/
def text (c : Code) : String :=
  let ds := toString c.number
  "E" ++ String.ofList (List.replicate (4 - ds.length) '0') ++ ds

def description : Code → String
  | .unresolvedVariable => "variable read without a recorded binding"
  | .unfinishedCoercion => "coercion is not lowered"
  | .singletonInit => "singleton initialization is not lowered"
  | .throwPropagation => "exception propagation is not lowered"
  | .unsupportedNode => "node kind has no selection routine"
  | .unterminatedBlock => "reachable block has no terminator"
  | .instructionAfterTerminal => "instruction after terminator"
  | .danglingBlockReference => "branch to a block outside the function"
  | .missingLandingPad => "landing block without landing-pad entry"
  | .unreachableBlock => "block is unreachable from entry"

def help? : Code → Option String
  | .unresolvedVariable =>
    some "the value degrades to `unit`; check that the declaration precedes the read"
  | .unsupportedNode => some "lower this construct in an earlier pass before instruction selection"
  | _ => none

end Code

/-- Whether a diagnostic is an error or a warning. -/
inductive Severity where
  | error
  | warning
deriving Repr, DecidableEq, Inhabited

/-- `error` or `warning`. -/
def Severity.text : Severity → String
  | .error => "error"
  | .warning => "warning"

/-- A diagnostic. -/
structure Diagnostic where
  severity : Severity
  code : Option Code
  message : String
  span : Span
  suggestions : List String
deriving Repr, Inhabited

namespace Diagnostic

def error (message : String) (span : Span) : Diagnostic := ⟨.error, none, message, span, []⟩

def coded (severity : Severity) (code : Code) (message : String) (span : Span) : Diagnostic :=
  ⟨severity, some code, message, span, code.help?.toList⟩

def display (d : Diagnostic) : String :=
  let head := match d.code with
    | some c => d.severity.text ++ "[" ++ c.text ++ "]"
    | none => d.severity.text
  head ++ ": " ++ d.message ++ " at " ++ d.span.display ++
    String.join (d.suggestions.map ("\n  help: " ++ ·))

end Diagnostic

end Isel
