import AdTargeting.Double.Basic

set_option autoImplicit false

/-
The words between the parts of a condition: operators compare an attribute with a literal,
relations combine the terms of a scope.
-/

namespace AdTargeting

inductive Operator where
  | equal
  | less
  | greater
  | lessEqual
  | greaterEqual
deriving DecidableEq

namespace Operator

def symbol : Operator → String
  | equal => "="
  | less => "<"
  | greater => ">"
  | lessEqual => "<="
  | greaterEqual => ">="

/-- No operator holds of an undefined double. -/
def compare : Operator → Double → Double → Bool
  | equal, left, right => left.equal right
  | less, left, right => left.less right
  | greater, left, right => right.less left
  | lessEqual, left, right => left.lessEqual right
  | greaterEqual, left, right => right.lessEqual left

end Operator

inductive Relation where
  | and
  | or
deriving DecidableEq

namespace Relation

def word : Relation → String
  | and => "and"
  | or => "or"

def apply : Relation → Bool → Bool → Bool
  | and, left, right => left && right
  | or, left, right => left || right

end Relation

end AdTargeting
