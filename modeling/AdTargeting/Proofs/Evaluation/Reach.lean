import AdTargeting.Proofs.Evaluation.Verdict
import Mathlib.Data.List.Basic

set_option autoImplicit false

/-
What a walk over a tree looks at. It reads the attributes of the comparisons it comes to and no
others, and of their values it needs only the kinds to find out where it stops.
-/

namespace AdTargeting

/-- A comparison of a row is reached when none before it halts. The first one that halts is the last
one that is reached. -/
def Reaches (attributes : Attributes) (row : List Comparison) (comparison : Comparison) : Prop :=
  ∃ before after, row = before ++ comparison :: after ∧
    ∀ earlier ∈ before, ¬ earlier.Halting attributes

/-- What is reached in a row under the first attributes has the same values under the second. -/
def AgreeOnReached (attributes other : Attributes) (row : List Comparison) : Prop :=
  ∀ comparison, Reaches attributes row comparison →
    attributes.get? comparison.name = other.get? comparison.name

/-- The names that a row compares are missing in both or have values of one kind in both. -/
def AgreeOnKinds (attributes other : Attributes) (row : List Comparison) : Prop :=
  ∀ comparison ∈ row, (attributes.get? comparison.name).map AttributeValue.kind =
    (other.get? comparison.name).map AttributeValue.kind

variable {attributes other : Attributes} {first second row : List Comparison}

theorem reaches_cons {head comparison : Comparison} :
    Reaches attributes (head :: row) comparison ↔
      comparison = head ∨ ¬ head.Halting attributes ∧ Reaches attributes row comparison := by
  constructor
  · rintro ⟨before, after, split, runs⟩
    cases before with
    | nil => exact Or.inl (List.cons.inj split).1.symm
    | cons earlier before =>
        obtain ⟨rfl, rfl⟩ := List.cons.inj split
        obtain ⟨here, later⟩ := List.forall_mem_cons.mp runs
        exact Or.inr ⟨here, before, after, rfl, later⟩
  · rintro (rfl | ⟨here, before, after, rfl, runs⟩)
    · exact ⟨[], row, rfl, List.forall_mem_nil _⟩
    · exact ⟨head :: before, after, rfl, List.forall_mem_cons.mpr ⟨here, runs⟩⟩

theorem Reaches.mem {comparison : Comparison} (reached : Reaches attributes row comparison) :
    comparison ∈ row := by
  obtain ⟨before, after, rfl, -⟩ := reached
  exact List.mem_append_right before List.mem_cons_self

namespace AgreeOnReached

theorem left (agree : AgreeOnReached attributes other (first ++ second)) :
    AgreeOnReached attributes other first := by
  rintro comparison ⟨before, after, rfl, runs⟩
  exact agree comparison ⟨before, after ++ second, by simp, runs⟩

/-- What comes after a row is reached when nothing in the row halts. -/
theorem right (agree : AgreeOnReached attributes other (first ++ second))
    (run : ∀ comparison ∈ first, ¬ comparison.Halting attributes) :
    AgreeOnReached attributes other second := by
  rintro comparison ⟨before, after, rfl, runs⟩
  exact agree comparison
    ⟨first ++ before, after, by simp, List.forall_mem_append.mpr ⟨run, runs⟩⟩

end AgreeOnReached

theorem Comparison.visit_congr {comparison : Comparison}
    (same : attributes.get? comparison.name = other.get? comparison.name) :
    comparison.visit attributes = comparison.visit other := by
  unfold visit
  rw [same]

namespace Expression

theorem runs_of_visit {expression : Expression} {value : Bool}
    (visited : (expression.visit attributes).result = .ok value) :
    ∀ comparison ∈ expression.comparisons, ¬ comparison.Halting attributes := by
  rw [visit_result] at visited
  cases stop : expression.comparisons.findSome? (Comparison.halt? attributes) with
  | some halt =>
      rw [stop] at visited
      cases visited
  | none => exact stop_eq_none_iff.mp stop

mutual

/-- Two walks that find the same values find them in the same order and stop together. -/
theorem visit_of_agree (expression : Expression)
    (agree : AgreeOnReached attributes other expression.comparisons) :
    expression.visit attributes = expression.visit other := by
  match expression with
  | .compare comparison =>
      have reached : Reaches attributes [comparison] comparison :=
        ⟨[], [], rfl, List.forall_mem_nil _⟩
      exact Comparison.visit_congr (agree comparison reached)
  | .scope terms =>
      rw [comparisons] at agree
      rw [visit, visit, visitTerms_of_agree none terms agree]

theorem visitTerms_of_agree (value : Option Bool) (terms : List Term)
    (agree : AgreeOnReached attributes other (termComparisons terms)) :
    visitTerms attributes value terms = visitTerms other value terms := by
  match terms with
  | [] => rfl
  | ⟨relation, expression⟩ :: later =>
      rw [termComparisons] at agree
      have here := visit_of_agree expression agree.left
      rw [visitTerms, visitTerms, ← here]
      apply Logged.bind_congr
      intro next visited
      exact visitTerms_of_agree _ later (agree.right (runs_of_visit visited))

end

theorem evaluate_of_agree {expression : Expression}
    (agree : AgreeOnReached attributes other expression.comparisons) :
    expression.evaluate attributes = expression.evaluate other := by
  rw [evaluate, evaluate, visit_of_agree expression agree]

end Expression

namespace Comparison

theorem judge_of_kind (comparison : Comparison) {stored held : AttributeValue}
    (same : stored.kind = held.kind) :
    (comparison.judge stored).map (fun _ => ()) = (comparison.judge held).map (fun _ => ()) := by
  obtain ⟨name, operator, literal, position⟩ := comparison
  cases stored with
  | number value =>
      cases held with
      | number value' => cases literal <;> rfl
      | text value' => cases same
  | text value =>
      cases held with
      | number value' => cases same
      | text value' =>
          cases literal with
          | number wanted => rfl
          | interval low high => rfl
          | set members => rfl
          | text wanted =>
              by_cases equal : operator = .equal
              · simp only [judge, equal, ↓reduceIte, Except.map]
              · simp only [judge, equal, ↓reduceIte]

theorem halt?_of_kind {comparison : Comparison}
    (same : (attributes.get? comparison.name).map AttributeValue.kind =
      (other.get? comparison.name).map AttributeValue.kind) :
    comparison.halt? attributes = comparison.halt? other := by
  unfold halt?
  cases found : attributes.get? comparison.name with
  | none =>
      rw [found, Option.map_none, eq_comm, Option.map_eq_none_iff] at same
      rw [visit_congr (found.trans same.symm)]
  | some stored =>
      rw [found, Option.map_some, eq_comm, Option.map_eq_some_iff] at same
      obtain ⟨held, found', kind⟩ := same
      have judged := comparison.judge_of_kind kind
      rw [visit_present found, visit_present found']
      cases verdict : comparison.judge stored with
      | ok value =>
          rw [verdict] at judged
          obtain ⟨value', verdict', -⟩ := exists_ok_of_map judged
          rw [verdict']
          rfl
      | error reason =>
          rw [verdict] at judged
          rw [eq_error_of_map judged]

end Comparison

namespace Expression

/-- Whether evaluation fails and how does not depend on what the values are, only on their kinds. -/
theorem evaluate_error_of_kinds {expression : Expression}
    (agree : AgreeOnKinds attributes other expression.comparisons) (reason : ConditionError)
    (failed : (expression.evaluate attributes).result = .error reason) :
    (expression.evaluate other).result = .error reason := by
  have stops : expression.comparisons.findSome? (Comparison.halt? attributes) =
      expression.comparisons.findSome? (Comparison.halt? other) := by
    rw [← List.head?_filterMap, ← List.head?_filterMap]
    apply congrArg List.head?
    apply List.filterMap_congr
    intro comparison member
    exact Comparison.halt?_of_kind (agree comparison member)
  cases stop : expression.comparisons.findSome? (Comparison.halt? attributes) with
  | some halt =>
      rw [evaluate_of_stop stop] at failed
      rw [evaluate_of_stop (stops.symm.trans stop), failed]
  | none =>
      rw [evaluate_of_run stop] at failed
      cases failed

end Expression

end AdTargeting
