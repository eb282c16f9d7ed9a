import AdTargeting.Proofs.Evaluation.Verdict
import AdTargeting.Proofs.Serving.Paths

set_option autoImplicit false

/-
The conditions know no negation. When more comparisons are true and none of them halts, a tree that
was true stays true, and a condition that was served is still served.
-/

namespace AdTargeting

theorem Relation.apply_mono (relation : Relation) {left left' right right' : Bool}
    (first : left ≤ left') (second : right ≤ right') :
    relation.apply left right ≤ relation.apply left' right' := by
  revert left left' right right'
  cases relation with
  | and => decide
  | or => decide

/-- Under the second attributes all comparisons of a row can be made, and those that are true under
the first attributes are true. -/
structure KeepsTrue (attributes other : Attributes) (row : List Comparison) : Prop where
  present : ∀ comparison ∈ row, other.contains comparison.name = true
  sound : ∀ comparison ∈ row, ∀ reason, ¬ comparison.Halts other (.error reason)
  kept : ∀ comparison ∈ row, (comparison.visit attributes).result = .ok true →
    (comparison.visit other).result = .ok true

variable {attributes other : Attributes}

namespace Expression

mutual

theorem holds_mono (expression : Expression)
    (grow : ∀ comparison ∈ comparisons expression,
      comparison.holds attributes ≤ comparison.holds other) :
    holds attributes expression ≤ holds other expression := by
  match expression with
  | .compare comparison => exact grow comparison (List.mem_singleton_self comparison)
  | .scope [] => exact Bool.le_refl true
  | .scope (⟨relation, first⟩ :: later) =>
      rw [comparisons, termComparisons, List.forall_mem_append] at grow
      rw [holds, holds]
      exact holdsAfter_mono later (holds_mono first grow.1) grow.2

theorem holdsAfter_mono {current current' : Bool} (terms : List Term) (below : current ≤ current')
    (grow : ∀ comparison ∈ termComparisons terms,
      comparison.holds attributes ≤ comparison.holds other) :
    holdsAfter attributes current terms ≤ holdsAfter other current' terms := by
  match terms with
  | [] => exact below
  | ⟨some relation, expression⟩ :: later =>
      rw [termComparisons, List.forall_mem_append] at grow
      rw [holdsAfter_related, holdsAfter_related]
      exact holdsAfter_mono later
        (relation.apply_mono below (holds_mono expression grow.1)) grow.2
  | ⟨none, expression⟩ :: later =>
      -- The values before this term are forgotten, so nothing is asked of them.
      rw [termComparisons, List.forall_mem_append] at grow
      rw [holdsAfter, holdsAfter]
      exact holdsAfter_mono later (holds_mono expression grow.1) grow.2

end

theorem evaluate_of_keepsTrue {tree : Expression}
    (keeps : KeepsTrue attributes other tree.comparisons)
    (served : (tree.evaluate attributes).result = .ok true) :
    (tree.evaluate other).result = .ok true := by
  rcases evaluate_ok_cases served with ⟨-, refused⟩ | ⟨run, holds⟩
  · cases refused
  have grow : ∀ comparison ∈ tree.comparisons,
      comparison.holds attributes ≤ comparison.holds other := by
    intro comparison member truth
    have runs := List.findSome?_eq_none_iff.mp run comparison member
    have kept := keeps.kept comparison member (Comparison.visit_ok_iff.mpr ⟨runs, truth⟩)
    exact (Comparison.visit_ok_iff.mp kept).2
  have truth : tree.holds other = true := tree.holds_mono grow holds.symm
  have complete : (tree.comparisons.all fun comparison => other.contains comparison.name) = true :=
    List.all_eq_true.mpr keeps.present
  rw [evaluate_of_sound keeps.sound, complete, truth, Bool.and_true]

end Expression

/-- What is served stays served when comparisons that are true stay true and all comparisons can be
made. -/
theorem serving_is_monotone (attributes other : Attributes) :
    (∀ tree : Expression, KeepsTrue attributes other tree.comparisons →
      (tree.evaluate attributes).result = .ok true →
        (tree.evaluate other).result = .ok true) ∧
    ∀ (options : Options) (condition : String), other.isEmpty = false →
      (∀ tree, (parse options condition).result = .ok tree →
        KeepsTrue attributes other tree.comparisons) →
      (shouldServe options attributes condition).result = .ok true →
        (shouldServe options other condition).result = .ok true := by
  refine ⟨fun _ => Expression.evaluate_of_keepsTrue, ?_⟩
  intro options condition present' keeps served
  cases nothing : attributes.isEmpty with
  | true =>
      rw [shouldServe_of_isEmpty nothing] at served
      cases served
  | false =>
      cases parsed : (parse options condition).result with
      | error reason =>
          rw [shouldServe_of_parse_error nothing parsed] at served
          cases served
      | ok tree =>
          rw [shouldServe_of_parse nothing parsed] at served
          rw [shouldServe_of_parse present' parsed]
          exact Expression.evaluate_of_keepsTrue (keeps tree parsed) served

/-- An empty scope, a comparison that stays false and one that becomes true. -/
theorem serving_is_monotone_vacuous :
    let attributes := NameMap.ofList [("age", .number (.ofInt 25)), ("size", .number (.ofInt 1))]
    let other := NameMap.ofList
      [("age", .number (.ofInt 20)), ("size", .number (.ofInt 9)), ("city", .text "Rome")]
    let condition := "(() and size>3) or age<30"
    let large : Comparison := ⟨"size", .greater, .number (.ofInt 3), 11⟩
    let young : Comparison := ⟨"age", .less, .number (.ofInt 30), 21⟩
    let tree : Expression := .scope [⟨none, .scope [⟨none, .scope []⟩, ⟨some .and, .compare large⟩]⟩,
      ⟨some .or, .compare young⟩]
    KeepsTrue attributes other tree.comparisons ∧
      (tree.evaluate attributes).result = .ok true ∧ (tree.evaluate other).result = .ok true ∧
    other.isEmpty = false ∧
      (∀ tree, (parse {} condition).result = .ok tree →
        KeepsTrue attributes other tree.comparisons) ∧
      (shouldServe {} attributes condition).result = .ok true ∧
      (shouldServe {} other condition).result = .ok true := by
  intro attributes other condition large young tree
  have runs : ∀ comparison ∈ tree.comparisons, comparison.halt? other = none := by decide +kernel
  have keeps : KeepsTrue attributes other tree.comparisons := by
    refine ⟨by decide +kernel, ?_, by decide +kernel⟩
    intro comparison member reason halts
    exact Comparison.halt?_eq_none.mp (runs comparison member) ⟨_, halts⟩
  have read : (parse {} condition).result.map Expression.comparisons = .ok tree.comparisons := by
    decide +kernel
  have parses : ∀ tree, (parse {} condition).result = .ok tree →
      KeepsTrue attributes other tree.comparisons := by
    intro parsed accepted
    rw [accepted] at read
    rw [Except.ok.inj read]
    exact keeps
  have evaluated : (tree.evaluate attributes).result = .ok true := by decide +kernel
  have served : (shouldServe {} attributes condition).result = .ok true := by decide +kernel
  obtain ⟨trees, texts⟩ := serving_is_monotone attributes other
  exact ⟨keeps, evaluated, trees tree keeps evaluated, rfl, parses, served,
    texts {} condition rfl parses served⟩

end AdTargeting
