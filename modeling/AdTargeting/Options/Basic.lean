set_option autoImplicit false

/-
Switches and limits for reading conditions.
-/

namespace AdTargeting

structure Options where
  /-- Whether `[low-high]` is an interval and not plain text. -/
  numericIntervals : Bool := true
  /-- Whether commas separate alternatives and are not plain text. -/
  stringSets : Bool := true
  /-- How many scopes may be open at once. -/
  maxDepth : Nat := 64
deriving DecidableEq

/-- What is wrong with settings. -/
inductive ConfigError where
  | notFlag (setting : String) (text : String)
  | notNumber (setting : String) (text : String)
  | zeroDepth
deriving DecidableEq

def ConfigError.message : ConfigError → String
  | notFlag setting text => s!"{setting} must be true or false, got '{text}'"
  | notNumber setting text => s!"{setting} must be a number, got '{text}'"
  | zeroDepth => "max_depth must be at least 1"

/-- A limit of zero would refuse every parenthesis. -/
def Options.validate (options : Options) : Except ConfigError Options :=
  if options.maxDepth = 0 then .error .zeroDepth else .ok options

theorem Options.validate_of_zero {options : Options} (zero : options.maxDepth = 0) :
    options.validate = .error .zeroDepth := if_pos zero

theorem Options.validate_of_ne_zero {options : Options} (positive : options.maxDepth ≠ 0) :
    options.validate = .ok options := if_neg positive

end AdTargeting
