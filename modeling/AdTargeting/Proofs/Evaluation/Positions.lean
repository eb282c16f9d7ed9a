import AdTargeting.Proofs.Condition.Printable
import AdTargeting.Proofs.Evaluation.Verdict

set_option autoImplicit false

/-
Positions in evaluation. They are copied into errors and play no other part, so trees that differ
only in positions give the same verdict, or the same error at another place.
-/

namespace AdTargeting

namespace ConditionError

/-- The same error at no particular place. -/
def withoutPosition : ConditionError → ConditionError
  | mismatchedParenthesis _ => mismatchedParenthesis 0
  | unmatchedClose _ => unmatchedClose 0
  | danglingOperator operator _ => danglingOperator operator 0
  | typeMismatch name stored literal _ => typeMismatch name stored literal 0
  | illegalStringOperator operator _ => illegalStringOperator operator 0
  | malformedInterval literal _ => malformedInterval literal 0
  | missingRelation _ => missingRelation 0
  | nestingTooDeep limit _ => nestingTooDeep limit 0

end ConditionError

def Halt.withoutPosition : Halt → Halt
  | absent => absent
  | fault reason => fault reason.withoutPosition

theorem Halt.outcome_withoutPosition (halt : Halt) :
    halt.withoutPosition.outcome = halt.outcome.mapError ConditionError.withoutPosition := by
  cases halt with
  | absent => rfl
  | fault reason => rfl

namespace Comparison

def withoutPosition (comparison : Comparison) : Comparison := { comparison with position := 0 }

theorem judge_withoutPosition (comparison : Comparison) (stored : AttributeValue) :
    comparison.withoutPosition.judge stored =
      (comparison.judge stored).mapError ConditionError.withoutPosition := by
  obtain ⟨name, operator, literal, position⟩ := comparison
  cases stored with
  | number held => cases literal <;> rfl
  | text held =>
      cases literal with
      | number value => rfl
      | interval low high => rfl
      | set members => rfl
      | text value =>
          by_cases equal : operator = .equal
          · simp only [judge, withoutPosition, equal, ↓reduceIte]
            rfl
          · simp only [judge, withoutPosition, equal, ↓reduceIte]
            rfl

theorem halt?_withoutPosition (attributes : Attributes) (comparison : Comparison) :
    comparison.withoutPosition.halt? attributes =
      (comparison.halt? attributes).map Halt.withoutPosition := by
  have same_name : comparison.withoutPosition.name = comparison.name := rfl
  have judged := comparison.judge_withoutPosition
  unfold halt? visit
  rw [same_name]
  cases attributes.get? comparison.name with
  | none => rfl
  | some stored =>
      simp only [judged stored]
      cases comparison.judge stored with
      | ok verdict => rfl
      | error reason => rfl

end Comparison

namespace Expression

mutual

theorem comparisons_withoutPositions (expression : Expression) :
    comparisons (withoutPositions expression) =
      (comparisons expression).map Comparison.withoutPosition := by
  match expression with
  | .compare comparison => rfl
  | .scope terms =>
      rw [withoutPositions, comparisons, comparisons, termComparisons_withoutPositions terms]

theorem termComparisons_withoutPositions (terms : List Term) :
    termComparisons (termsWithoutPositions terms) =
      (termComparisons terms).map Comparison.withoutPosition := by
  match terms with
  | [] => rfl
  | ⟨relation, expression⟩ :: later =>
      rw [termsWithoutPositions, termComparisons, termComparisons,
        comparisons_withoutPositions expression, termComparisons_withoutPositions later,
        List.map_append]

end

variable {attributes : Attributes}

mutual

theorem holds_withoutPositions (expression : Expression) :
    holds attributes (withoutPositions expression) = holds attributes expression := by
  match expression with
  | .compare comparison => rfl
  | .scope [] => rfl
  | .scope (⟨relation, first⟩ :: later) =>
      simp only [withoutPositions, termsWithoutPositions, holds, holds_withoutPositions first,
        holdsAfter_withoutPositions _ later]

theorem holdsAfter_withoutPositions (current : Bool) (terms : List Term) :
    holdsAfter attributes current (termsWithoutPositions terms) =
      holdsAfter attributes current terms := by
  match terms with
  | [] => rfl
  | ⟨some relation, expression⟩ :: later =>
      simp only [termsWithoutPositions, holdsAfter_related, holds_withoutPositions expression,
        holdsAfter_withoutPositions _ later]
  | ⟨none, expression⟩ :: later =>
      simp only [termsWithoutPositions, holdsAfter, holds_withoutPositions expression,
        holdsAfter_withoutPositions _ later]

end

/-- Without positions a tree halts at the same comparison, for the same reason. -/
theorem stop_withoutPositions (expression : Expression) :
    (withoutPositions expression).comparisons.findSome? (Comparison.halt? attributes) =
      (expression.comparisons.findSome? (Comparison.halt? attributes)).map
        Halt.withoutPosition := by
  have each : Comparison.halt? attributes ∘ Comparison.withoutPosition =
      Option.map Halt.withoutPosition ∘ Comparison.halt? attributes := by
    funext comparison
    exact comparison.halt?_withoutPosition attributes
  rw [comparisons_withoutPositions, List.findSome?_map, each, List.map_findSome?]

theorem evaluate_withoutPositions (expression : Expression) :
    (expression.withoutPositions.evaluate attributes).result =
      (expression.evaluate attributes).result.mapError ConditionError.withoutPosition := by
  have moved := @stop_withoutPositions attributes expression
  cases stop : expression.comparisons.findSome? (Comparison.halt? attributes) with
  | some halt =>
      rw [stop] at moved
      rw [evaluate_of_stop stop, evaluate_of_stop moved, halt.outcome_withoutPosition]
  | none =>
      rw [stop] at moved
      rw [evaluate_of_run stop, evaluate_of_run moved, holds_withoutPositions]
      rfl

theorem evaluate_congr {expression other : Expression}
    (same : expression.withoutPositions = other.withoutPositions) :
    (expression.evaluate attributes).result.mapError ConditionError.withoutPosition =
      (other.evaluate attributes).result.mapError ConditionError.withoutPosition := by
  rw [← evaluate_withoutPositions, same, evaluate_withoutPositions]

/-- A verdict that is no error says nothing of positions. -/
theorem evaluate_ok_congr {expression other : Expression} {verdict : Bool}
    (same : expression.withoutPositions = other.withoutPositions)
    (evaluated : (expression.evaluate attributes).result = .ok verdict) :
    (other.evaluate attributes).result = .ok verdict := by
  have congr := @evaluate_congr attributes expression other same
  rw [evaluated] at congr
  cases result : (other.evaluate attributes).result with
  | ok value =>
      rw [result] at congr
      cases congr
      rfl
  | error reason =>
      rw [result] at congr
      cases congr

end Expression

end AdTargeting
