import AdTargeting.Attributes
import AdTargeting.Log

set_option autoImplicit false

/-
The verdict of a condition on attributes. All terms are visited in the order of the text, whatever
the verdicts before them; the first comparison that cannot be made decides.
-/

namespace AdTargeting

/-- Why a walk over a tree stops early. -/
inductive Halt where
  | absent
  | fault (reason : ConditionError)
deriving DecidableEq

namespace Comparison

/-- The verdict on a stored value. An interval is tested for membership and a set for a member,
whatever the operator. -/
def judge (comparison : Comparison) (stored : AttributeValue) : Except ConditionError Bool :=
  match comparison.literal, stored with
  | .number value, .number held => .ok (comparison.operator.compare held value)
  | .interval low high, .number held => .ok (low.lessEqual held && held.lessEqual high)
  | .set members, .text held => .ok (members.contains held)
  | .text value, .text held =>
      if comparison.operator = .equal then .ok (held = value)
      else .error (.illegalStringOperator comparison.operator comparison.position)
  | literal, held =>
      .error (.typeMismatch comparison.name held.kind literal.kind comparison.position)

def visit (attributes : Attributes) (comparison : Comparison) : Logged Halt Bool :=
  match attributes.get? comparison.name with
  | none => .after (.absent comparison.name) (.fail .absent)
  | some stored =>
      match comparison.judge stored with
      | .ok verdict => .after (.compared comparison verdict) (.pure verdict)
      | .error reason => .fail (.fault reason)

end Comparison

/-- The value of a scope after one more term. Without a relation the term replaces it. -/
def combine : Option Bool → Option Relation → Bool → Bool
  | some current, some relation, value => relation.apply current value
  | _, _, value => value

namespace Expression

mutual

def visit (attributes : Attributes) : Expression → Logged Halt Bool
  | .compare comparison => comparison.visit attributes
  | .scope terms =>
      Logged.bind (visitTerms attributes none terms) fun value => .pure (value.getD true)

def visitTerms (attributes : Attributes) (value : Option Bool) :
    List Term → Logged Halt (Option Bool)
  | [] => .pure value
  | ⟨relation, expression⟩ :: rest =>
      Logged.bind (visit attributes expression) fun next =>
        visitTerms attributes (some (combine value relation next)) rest

end

/-- The verdict of a whole tree, which is false when an attribute is absent. -/
def evaluate (expression : Expression) (attributes : Attributes) : Logged ConditionError Bool :=
  let walk := expression.visit attributes
  { records := walk.records
    result :=
      match walk.result with
      | .ok value => .ok value
      | .error .absent => .ok false
      | .error (.fault reason) => .error reason }

end Expression

end AdTargeting
