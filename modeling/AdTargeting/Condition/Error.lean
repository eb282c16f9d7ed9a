import AdTargeting.Condition.Operator

set_option autoImplicit false

/-
What can be wrong with a condition, in itself or against the attributes it is tried on. Positions
count characters from the start of the condition in its short spelling.
-/

namespace AdTargeting

inductive ValueKind where
  | number
  | text
deriving DecidableEq

def ValueKind.name : ValueKind → String
  | number => "numeric"
  | text => "string"

inductive LiteralKind where
  | number
  | interval
  | set
  | text
deriving DecidableEq

def LiteralKind.name : LiteralKind → String
  | number => "numeric value"
  | interval => "numeric interval"
  | set => "string set"
  | text => "string value"

inductive ErrorKind where
  | mismatchedParenthesis
  | unmatchedClose
  | danglingOperator
  | typeMismatch
  | illegalStringOperator
  | malformedInterval
  | missingRelation
  | nestingTooDeep
deriving DecidableEq

namespace ErrorKind

def all : List ErrorKind :=
  [mismatchedParenthesis, unmatchedClose, danglingOperator, typeMismatch, illegalStringOperator,
    malformedInterval, missingRelation, nestingTooDeep]

def name : ErrorKind → String
  | mismatchedParenthesis => "mismatched_parenthesis"
  | unmatchedClose => "unmatched_close"
  | danglingOperator => "dangling_operator"
  | typeMismatch => "type_mismatch"
  | illegalStringOperator => "illegal_string_operator"
  | malformedInterval => "malformed_interval"
  | missingRelation => "missing_relation"
  | nestingTooDeep => "nesting_too_deep"

def ofName? (name : String) : Option ErrorKind :=
  all.find? fun kind => kind.name = name

end ErrorKind

inductive ConditionError where
  | mismatchedParenthesis (position : Nat)
  | unmatchedClose (position : Nat)
  | danglingOperator (operator : Operator) (position : Nat)
  | typeMismatch (name : String) (stored : ValueKind) (literal : LiteralKind) (position : Nat)
  | illegalStringOperator (operator : Operator) (position : Nat)
  | malformedInterval (literal : String) (position : Nat)
  | missingRelation (position : Nat)
  | nestingTooDeep (limit position : Nat)
deriving DecidableEq

namespace ConditionError

def kind : ConditionError → ErrorKind
  | mismatchedParenthesis _ => .mismatchedParenthesis
  | unmatchedClose _ => .unmatchedClose
  | danglingOperator _ _ => .danglingOperator
  | typeMismatch _ _ _ _ => .typeMismatch
  | illegalStringOperator _ _ => .illegalStringOperator
  | malformedInterval _ _ => .malformedInterval
  | missingRelation _ => .missingRelation
  | nestingTooDeep _ _ => .nestingTooDeep

def position : ConditionError → Nat
  | mismatchedParenthesis position => position
  | unmatchedClose position => position
  | danglingOperator _ position => position
  | typeMismatch _ _ _ position => position
  | illegalStringOperator _ position => position
  | malformedInterval _ position => position
  | missingRelation position => position
  | nestingTooDeep _ position => position

def message : ConditionError → String
  | mismatchedParenthesis position =>
      s!"Brackets mismatch: '(' at position {position} is never closed"
  | unmatchedClose position =>
      s!"Unexpected ')' at position {position}, it has no matching opening parenthesis"
  | danglingOperator operator position =>
      s!"Expected comparison value after '{operator.symbol}' at position {position}"
  | typeMismatch name stored literal position =>
      s!"Cannot compare {stored.name} attribute '{name}' with {literal.name} " ++
        s!"at position {position}"
  | illegalStringOperator operator position =>
      s!"Cannot compare strings with operator '{operator.symbol}' at position {position}, " ++
        "only '=' is allowed"
  | malformedInterval literal position =>
      s!"Malformed numeric interval '{literal}' at position {position}"
  | missingRelation position =>
      s!"Expected 'and' or 'or' before the term at position {position}"
  | nestingTooDeep limit position =>
      s!"Scopes nested deeper than {limit} levels at position {position}"

end ConditionError

end AdTargeting
