/-!
# Selector settings

The target's pointer width, whether the command line validates the selected program, and
the name of the function that holds the global initializers. A pointer is 4 or 8 bytes
wide, and the initializer's name is not empty; `Config.check` tells which rule a setting
breaks, the width first.
-/

namespace Isel

/-- The settings of a selection. -/
structure Config where
  pointerSize : Nat := 8
  validate : Bool := true
  globalInitName : String := "global-init"
deriving Repr, DecidableEq, Inhabited

/-- A setting that breaks a rule. -/
inductive ConfigError where
  | invalidPointerSize (size : Nat)
  | emptyGlobalInitName
deriving Repr, DecidableEq, Inhabited

def ConfigError.message : ConfigError → String
  | .invalidPointerSize n => "unsupported pointer size: " ++ toString n ++ " (expected 4 or 8)"
  | .emptyGlobalInitName => "global initializer name must not be empty"

def Config.check (c : Config) : Option ConfigError :=
  if c.pointerSize ≠ 4 ∧ c.pointerSize ≠ 8 then some (.invalidPointerSize c.pointerSize)
  else if c.globalInitName.isEmpty then some .emptyGlobalInitName
  else none

end Isel
