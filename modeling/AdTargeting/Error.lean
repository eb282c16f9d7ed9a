import AdTargeting.Attributes
import AdTargeting.Options.Basic

set_option autoImplicit false

/-
Everything that can go wrong between a request and its verdict.
-/

namespace AdTargeting

inductive ServeError where
  | condition (reason : ConditionError)
  | invalidAttribute (reason : Attributes.Invalid)
  | config (reason : ConfigError)
  /-- A text that is no JSON value of the wanted shape. -/
  | json
  /-- A text that is no YAML document of the wanted shape. -/
  | yaml
  | io
deriving DecidableEq

/-- Texts and files that cannot be read at all have no message of their own. -/
def ServeError.message? : ServeError → Option String
  | condition reason => some s!"Condition error: {reason.message}"
  | invalidAttribute reason =>
      some s!"Invalid attribute '{reason.name}': {reason.fault.message}"
  | config reason => some s!"Configuration error: {reason.message}"
  | json => none
  | yaml => none
  | io => none

end AdTargeting
