import AdTargeting.Evaluation
import AdTargeting.Proofs.Text.Parts

set_option autoImplicit false

/-
What a condition says of attributes. Either no comparison halts and the terms are folded, or the
first one that halts decides alone.
-/

namespace AdTargeting

/-- The kind that an attribute needs to be compared with a literal. -/
def Literal.needs : Literal → ValueKind
  | number _ => .number
  | interval _ _ => .number
  | set _ => .text
  | text _ => .text

inductive AttributeValue.HasKind : AttributeValue → ValueKind → Prop
  | number (value : Double) : HasKind (.number value) .number
  | text (value : String) : HasKind (.text value) .text

inductive Literal.HasKind : Literal → LiteralKind → Prop
  | number (value : Double) : HasKind (.number value) .number
  | interval (low high : Double) : HasKind (.interval low high) .interval
  | set (members : List String) : HasKind (.set members) .set
  | text (value : String) : HasKind (.text value) .text

theorem AttributeValue.hasKind_iff {stored : AttributeValue} {kind : ValueKind} :
    stored.HasKind kind ↔ stored.kind = kind := by
  constructor
  · rintro (value | value) <;> rfl
  · rintro rfl
    cases stored <;> constructor

theorem Literal.hasKind_iff {literal : Literal} {kind : LiteralKind} :
    literal.HasKind kind ↔ literal.kind = kind := by
  constructor
  · rintro (value | ⟨low, high⟩ | members | value) <;> rfl
  · rintro rfl
    cases literal <;> constructor

/-- A comparison that cannot be made, with the outcome it gives to the whole condition. -/
inductive Comparison.Halts (attributes : Attributes) (comparison : Comparison) :
    Except ConditionError Bool → Prop
  | absent (missing : attributes.get? comparison.name = none) :
      Halts attributes comparison (.ok false)
  | misfit {stored : AttributeValue} {held : ValueKind} {asked : LiteralKind}
      (present : attributes.get? comparison.name = some stored) (kind : stored.HasKind held)
      (asks : comparison.literal.HasKind asked) (other : held ≠ comparison.literal.needs) :
      Halts attributes comparison
        (.error (.typeMismatch comparison.name held asked comparison.position))
  | unordered {held value : String}
      (present : attributes.get? comparison.name = some (.text held))
      (string : comparison.literal = .text value) (other : comparison.operator ≠ .equal) :
      Halts attributes comparison (.error
        (.illegalStringOperator comparison.operator comparison.position))

theorem Comparison.halts_of_kind_ne {attributes : Attributes} {comparison : Comparison}
    {stored : AttributeValue} (present : attributes.get? comparison.name = some stored)
    (other : stored.kind ≠ comparison.literal.needs) :
    comparison.Halts attributes (.error
      (.typeMismatch comparison.name stored.kind comparison.literal.kind comparison.position)) :=
  .misfit present (AttributeValue.hasKind_iff.mpr rfl) (Literal.hasKind_iff.mpr rfl) other

def Comparison.Halting (attributes : Attributes) (comparison : Comparison) : Prop :=
  ∃ outcome, comparison.Halts attributes outcome

/-- The truth of a comparison that can be made. -/
def Comparison.holds (attributes : Attributes) (comparison : Comparison) : Bool :=
  match attributes.get? comparison.name, comparison.literal with
  | some (.number held), .number value => comparison.operator.compare held value
  | some (.number held), .interval low high => low.lessEqual held && held.lessEqual high
  | some (.text held), .set members => members.contains held
  | some (.text held), .text value => held = value
  | _, _ => false

namespace Expression

mutual

/-- The truth of a tree whose comparisons can all be made. -/
def holds (attributes : Attributes) : Expression → Bool
  | .compare comparison => comparison.holds attributes
  | .scope [] => true
  | .scope (⟨_, expression⟩ :: later) => holdsAfter attributes (holds attributes expression) later

/-- Later terms are folded in from the left, each by its own relation. Without one the value before
it is lost. -/
def holdsAfter (attributes : Attributes) (current : Bool) : List Term → Bool
  | [] => current
  | ⟨some .and, expression⟩ :: later =>
      holdsAfter attributes (current && holds attributes expression) later
  | ⟨some .or, expression⟩ :: later =>
      holdsAfter attributes (current || holds attributes expression) later
  | ⟨none, expression⟩ :: later => holdsAfter attributes (holds attributes expression) later

end

theorem holdsAfter_related (attributes : Attributes) (current : Bool) (relation : Relation)
    (expression : Expression) (later : List Term) :
    holdsAfter attributes current (⟨some relation, expression⟩ :: later) =
      holdsAfter attributes (relation.apply current (holds attributes expression)) later := by
  cases relation <;> rfl

theorem holdsAfter_append (attributes : Attributes) (current : Bool) (terms later : List Term) :
    holdsAfter attributes current (terms ++ later) =
      holdsAfter attributes (holdsAfter attributes current terms) later := by
  induction terms generalizing current with
  | nil => rfl
  | cons term terms ih =>
      obtain ⟨relation, first⟩ := term
      cases relation with
      | none => exact ih _
      | some relation =>
          rw [List.cons_append, holdsAfter_related, holdsAfter_related]
          exact ih _

end Expression

def Halt.outcome : Halt → Except ConditionError Bool
  | absent => .ok false
  | fault reason => .error reason

variable {attributes : Attributes}

namespace Comparison

theorem Halts.unique {comparison : Comparison} {outcome outcome' : Except ConditionError Bool}
    (halts : comparison.Halts attributes outcome) (halts' : comparison.Halts attributes outcome') :
    outcome = outcome' := by
  cases halts with
  | absent missing =>
      cases halts' with
      | absent missing' => rfl
      | misfit present kind asks other =>
          rw [missing] at present
          cases present
      | unordered present string other =>
          rw [missing] at present
          cases present
  | misfit present kind asks other =>
      cases halts' with
      | absent missing =>
          rw [missing] at present
          cases present
      | misfit present' kind' asks' other' =>
          rw [present] at present'
          cases present'
          rw [← AttributeValue.hasKind_iff.mp kind, ← AttributeValue.hasKind_iff.mp kind',
            ← Literal.hasKind_iff.mp asks, ← Literal.hasKind_iff.mp asks']
      | unordered present' string other' =>
          rw [present] at present'
          cases present'
          cases kind
          rw [string] at other
          exact absurd rfl other
  | unordered present string other =>
      cases halts' with
      | absent missing =>
          rw [missing] at present
          cases present
      | misfit present' kind asks other' =>
          rw [present] at present'
          cases present'
          cases kind
          rw [string] at other'
          exact absurd rfl other'
      | unordered present' string' other' => rfl

/-- On an attribute that is there, only a kind that does not fit or an ordered string halts. -/
theorem halting_iff {comparison : Comparison} {stored : AttributeValue}
    (present : attributes.get? comparison.name = some stored) :
    comparison.Halting attributes ↔ stored.kind ≠ comparison.literal.needs ∨
      (∃ value, comparison.literal = .text value) ∧ comparison.operator ≠ .equal := by
  constructor
  · rintro ⟨outcome, halts⟩
    cases halts with
    | absent missing =>
        rw [missing] at present
        cases present
    | misfit present' kind asks other =>
        rw [present] at present'
        cases present'
        rw [← AttributeValue.hasKind_iff.mp kind] at other
        exact Or.inl other
    | unordered present' string other => exact Or.inr ⟨⟨_, string⟩, other⟩
  · rintro (other | ⟨⟨value, string⟩, other⟩)
    · exact ⟨_, halts_of_kind_ne present other⟩
    · cases stored with
      | number held => exact ⟨_, halts_of_kind_ne present (by rw [string]; nofun)⟩
      | text held => exact ⟨_, .unordered present string other⟩

theorem judge_misfit {comparison : Comparison} {stored : AttributeValue}
    (other : stored.kind ≠ comparison.literal.needs) :
    comparison.judge stored = .error
      (.typeMismatch comparison.name stored.kind comparison.literal.kind comparison.position) := by
  obtain ⟨name, operator, literal, position⟩ := comparison
  cases stored with
  | number held =>
      cases literal with
      | number value => exact absurd rfl other
      | interval low high => exact absurd rfl other
      | set members => rfl
      | text value => rfl
  | text held =>
      cases literal with
      | number value => rfl
      | interval low high => rfl
      | set members => exact absurd rfl other
      | text value => exact absurd rfl other

theorem judge_unordered {comparison : Comparison} {value : String} (held : String)
    (string : comparison.literal = .text value) (other : comparison.operator ≠ .equal) :
    comparison.judge (.text held) =
      .error (.illegalStringOperator comparison.operator comparison.position) := by
  unfold judge
  rw [string]
  exact if_neg other

theorem judge_holds {comparison : Comparison} {stored : AttributeValue}
    (present : attributes.get? comparison.name = some stored)
    (runs : ¬ comparison.Halting attributes) :
    comparison.judge stored = .ok (comparison.holds attributes) := by
  rw [halting_iff present, not_or] at runs
  obtain ⟨fits, ordered⟩ := runs
  obtain ⟨name, operator, literal, position⟩ := comparison
  unfold holds
  rw [present]
  cases stored with
  | number held =>
      cases literal with
      | number value => rfl
      | interval low high => rfl
      | set members => exact absurd nofun fits
      | text value => exact absurd nofun fits
  | text held =>
      cases literal with
      | number value => exact absurd nofun fits
      | interval low high => exact absurd nofun fits
      | set members => rfl
      | text value =>
          apply if_pos
          apply Decidable.byContradiction
          intro other
          exact ordered ⟨⟨value, rfl⟩, other⟩

theorem visit_present {comparison : Comparison} {stored : AttributeValue}
    (present : attributes.get? comparison.name = some stored) :
    (comparison.visit attributes).result = (comparison.judge stored).mapError .fault := by
  simp only [visit, present]
  cases comparison.judge stored with
  | ok verdict => rfl
  | error reason => rfl

/-- Visiting a comparison stops exactly when it cannot be made, and otherwise gives its truth. -/
theorem visit_cases (attributes : Attributes) (comparison : Comparison) :
    (∃ halt, (comparison.visit attributes).result = .error halt ∧
      comparison.Halts attributes halt.outcome) ∨
    (comparison.visit attributes).result = .ok (comparison.holds attributes) ∧
      ¬ comparison.Halting attributes := by
  by_cases halting : comparison.Halting attributes
  · left
    obtain ⟨outcome, halts⟩ := halting
    cases halts with
    | absent missing =>
        unfold visit
        rw [missing]
        exact ⟨.absent, rfl, .absent missing⟩
    | misfit present kind asks other =>
        obtain rfl := AttributeValue.hasKind_iff.mp kind
        rw [visit_present present, judge_misfit other]
        exact ⟨.fault _, rfl, halts_of_kind_ne present other⟩
    | unordered present string other =>
        rw [visit_present present, judge_unordered _ string other]
        exact ⟨.fault _, rfl, .unordered present string other⟩
  · right
    cases present : attributes.get? comparison.name with
    | none => exact absurd ⟨_, .absent present⟩ halting
    | some stored =>
        rw [visit_present present, judge_holds present halting]
        exact ⟨rfl, halting⟩

/-- Why a comparison stops the walk over a tree, if it does. -/
def halt? (attributes : Attributes) (comparison : Comparison) : Option Halt :=
  match (comparison.visit attributes).result with
  | .ok _ => none
  | .error halt => some halt

theorem halts_of_halt? {comparison : Comparison} {halt : Halt}
    (stops : comparison.halt? attributes = some halt) :
    comparison.Halts attributes halt.outcome := by
  unfold halt? at stops
  rcases comparison.visit_cases attributes with ⟨halt', visited, halts⟩ | ⟨visited, -⟩
  · rw [visited] at stops
    cases stops
    exact halts
  · rw [visited] at stops
    cases stops

theorem halt?_eq_none {comparison : Comparison} :
    comparison.halt? attributes = none ↔ ¬ comparison.Halting attributes := by
  unfold halt?
  rcases comparison.visit_cases attributes with ⟨halt, visited, halts⟩ | ⟨visited, runs⟩
  · rw [visited]
    constructor
    · intro stopped
      cases stopped
    · intro runs
      exact absurd ⟨_, halts⟩ runs
  · rw [visited]
    constructor
    · intro _
      exact runs
    · intro _
      rfl

/-- The only verdict that a halt gives is that of an absent attribute. -/
theorem halts_ok_iff {comparison : Comparison} {verdict : Bool} :
    comparison.Halts attributes (.ok verdict) ↔
      attributes.contains comparison.name = false ∧ verdict = false := by
  rw [NameMap.contains, Option.isSome_eq_false_iff, Option.isNone_iff_eq_none]
  constructor
  · intro halts
    cases halts with
    | absent missing => exact ⟨missing, rfl⟩
  · rintro ⟨missing, rfl⟩
    exact .absent missing

theorem halts_iff {comparison : Comparison} {outcome : Except ConditionError Bool} :
    comparison.Halts attributes outcome ↔
      ∃ halt, comparison.halt? attributes = some halt ∧ halt.outcome = outcome := by
  constructor
  · intro halts
    cases stops : comparison.halt? attributes with
    | none => exact absurd ⟨outcome, halts⟩ (halt?_eq_none.mp stops)
    | some halt => exact ⟨halt, rfl, (halts_of_halt? stops).unique halts⟩
  · rintro ⟨halt, stops, rfl⟩
    exact halts_of_halt? stops

end Comparison

/-- The result of a walk that stops at the first halt, or else gives a value. -/
def settle {α : Type} : Option Halt → α → Except Halt α
  | some halt, _ => .error halt
  | none, value => .ok value

theorem bind_settle {α β : Type} {first : Logged Halt α} {next : α → Logged Halt β}
    {stop later : Option Halt} {value : α} {final : β} (visited : first.result = settle stop value)
    (rest : (next value).result = settle later final) :
    (Logged.bind first next).result = settle (stop.or later) final := by
  cases stop with
  | some halt =>
      rw [Logged.bind_of_error first next halt visited]
      rfl
  | none =>
      rw [Logged.bind_of_ok first next value visited]
      exact rest

theorem Comparison.visit_result (comparison : Comparison) :
    (comparison.visit attributes).result =
      settle (comparison.halt? attributes) (comparison.holds attributes) := by
  unfold halt?
  rcases comparison.visit_cases attributes with ⟨halt, visited, -⟩ | ⟨visited, -⟩
  · rw [visited]
    rfl
  · rw [visited]
    rfl

theorem Comparison.visit_ok_iff {comparison : Comparison} {value : Bool} :
    (comparison.visit attributes).result = .ok value ↔
      comparison.halt? attributes = none ∧ comparison.holds attributes = value := by
  rw [visit_result]
  cases comparison.halt? attributes with
  | none => simp only [settle, Except.ok.injEq, true_and]
  | some halt => simp only [settle, reduceCtorEq, false_and]

namespace Expression

mutual

/-- A walk over a tree stops at the first comparison that cannot be made. -/
theorem visit_result (expression : Expression) :
    (visit attributes expression).result =
      settle (expression.comparisons.findSome? (Comparison.halt? attributes))
        (expression.holds attributes) := by
  match expression with
  | .compare comparison =>
      simp only [visit, comparisons, List.findSome?_singleton, holds]
      exact comparison.visit_result
  | .scope [] => rfl
  | .scope (⟨relation, first⟩ :: later) =>
      have folded : (visitTerms attributes none (⟨relation, first⟩ :: later)).result =
          settle ((termComparisons (⟨relation, first⟩ :: later)).findSome?
            (Comparison.halt? attributes))
          (some (holdsAfter attributes (first.holds attributes) later)) := by
        simp only [visitTerms, termComparisons, List.findSome?_append]
        exact bind_settle (visit_result first) (visitTerms_result _ later)
      simp only [visit, comparisons, holds]
      rw [← Option.or_none (o := List.findSome? _ _)]
      exact bind_settle folded rfl

theorem visitTerms_result (current : Bool) (terms : List Term) :
    (visitTerms attributes (some current) terms).result =
      settle ((termComparisons terms).findSome? (Comparison.halt? attributes))
        (some (holdsAfter attributes current terms)) := by
  match terms with
  | [] => rfl
  | ⟨some relation, expression⟩ :: later =>
      simp only [visitTerms, termComparisons, List.findSome?_append, holdsAfter_related]
      exact bind_settle (visit_result expression) (visitTerms_result _ later)
  | ⟨none, expression⟩ :: later =>
      simp only [visitTerms, termComparisons, List.findSome?_append, holdsAfter]
      exact bind_settle (visit_result expression) (visitTerms_result _ later)

end

theorem evaluate_of_stop {expression : Expression} {halt : Halt}
    (stop : expression.comparisons.findSome? (Comparison.halt? attributes) = some halt) :
    (expression.evaluate attributes).result = halt.outcome := by
  have visited := @visit_result attributes expression
  rw [stop] at visited
  simp only [evaluate, visited, settle]
  cases halt with
  | absent => rfl
  | fault reason => rfl

theorem evaluate_of_run {expression : Expression}
    (run : expression.comparisons.findSome? (Comparison.halt? attributes) = none) :
    (expression.evaluate attributes).result = .ok (expression.holds attributes) := by
  have visited := @visit_result attributes expression
  rw [run] at visited
  simp only [evaluate, visited, settle]

/-- A tree without an error either stops at an absent attribute or runs to the end. -/
theorem evaluate_ok_cases {expression : Expression} {verdict : Bool}
    (evaluated : (expression.evaluate attributes).result = .ok verdict) :
    (expression.comparisons.findSome? (Comparison.halt? attributes) = some .absent ∧
      verdict = false) ∨
    (expression.comparisons.findSome? (Comparison.halt? attributes) = none ∧
      verdict = expression.holds attributes) := by
  cases stop : expression.comparisons.findSome? (Comparison.halt? attributes) with
  | none =>
      rw [evaluate_of_run stop] at evaluated
      cases evaluated
      exact Or.inr ⟨rfl, rfl⟩
  | some halt =>
      rw [evaluate_of_stop stop] at evaluated
      cases halt with
      | absent =>
          cases evaluated
          exact Or.inl ⟨rfl, rfl⟩
      | fault reason => cases evaluated

theorem exists_halts_of_stop {expression : Expression} {halt : Halt}
    (stop : expression.comparisons.findSome? (Comparison.halt? attributes) = some halt) :
    ∃ comparison ∈ expression.comparisons, comparison.Halts attributes halt.outcome := by
  obtain ⟨comparison, member, stops⟩ := List.exists_of_findSome?_eq_some stop
  exact ⟨comparison, member, Comparison.halts_of_halt? stops⟩

theorem stop_eq_none_iff {expression : Expression} :
    expression.comparisons.findSome? (Comparison.halt? attributes) = none ↔
      ∀ comparison ∈ expression.comparisons, ¬ comparison.Halting attributes := by
  simp only [List.findSome?_eq_none_iff, Comparison.halt?_eq_none]

/-- A tree without errors serves when every attribute that it names is there and it holds. -/
theorem evaluate_of_sound {expression : Expression}
    (sound : ∀ comparison ∈ expression.comparisons, ∀ reason,
      ¬ comparison.Halts attributes (.error reason)) :
    (expression.evaluate attributes).result =
      .ok ((expression.comparisons.all fun comparison => attributes.contains comparison.name) &&
        expression.holds attributes) := by
  cases stop : expression.comparisons.findSome? (Comparison.halt? attributes) with
  | some halt =>
      obtain ⟨comparison, member, halts⟩ := exists_halts_of_stop stop
      rw [evaluate_of_stop stop]
      cases halt with
      | fault reason => exact absurd halts (sound comparison member reason)
      | absent =>
          have missing := (Comparison.halts_ok_iff.mp halts).1
          have incomplete : (expression.comparisons.all fun comparison =>
              attributes.contains comparison.name) = false :=
            List.all_eq_false.mpr ⟨comparison, member, ne_true_of_eq_false missing⟩
          rw [incomplete, Bool.false_and]
          rfl
  | none =>
      have complete : (expression.comparisons.all fun comparison =>
          attributes.contains comparison.name) = true := by
        apply List.all_eq_true.mpr
        intro comparison member
        apply eq_true_of_ne_false
        intro missing
        exact stop_eq_none_iff.mp stop comparison member
          ⟨_, Comparison.halts_ok_iff.mpr ⟨missing, rfl⟩⟩
      rw [evaluate_of_run stop, complete, Bool.true_and]

/-- The first comparison that cannot be made decides the condition. When there is none, the terms
of each scope are folded from the left. -/
theorem evaluate_eq_iff (attributes : Attributes) (expression : Expression)
    (outcome : Except ConditionError Bool) :
    (expression.evaluate attributes).result = outcome ↔
      (∃ before comparison after, expression.comparisons = before ++ comparison :: after ∧
        (∀ earlier ∈ before, ¬ earlier.Halting attributes) ∧
        comparison.Halts attributes outcome) ∨
      (∀ comparison ∈ expression.comparisons, ¬ comparison.Halting attributes) ∧
        outcome = .ok (expression.holds attributes) := by
  cases stop : expression.comparisons.findSome? (Comparison.halt? attributes) with
  | some halt =>
      rw [evaluate_of_stop stop]
      obtain ⟨before, comparison, after, split, stops, runs⟩ := List.findSome?_eq_some_iff.mp stop
      have halts := Comparison.halts_of_halt? stops
      have earlier_run : ∀ earlier ∈ before, ¬ earlier.Halting attributes := by
        intro earlier member
        rw [← Comparison.halt?_eq_none]
        exact runs earlier member
      constructor
      · rintro rfl
        exact Or.inl ⟨before, comparison, after, split, earlier_run, halts⟩
      · rintro (⟨before', comparison', after', split', runs', halts'⟩ | ⟨runs', -⟩)
        · -- Both splits are at the first comparison that halts.
          rcases places_cases (split.symm.trans split') with
            ⟨-, rfl, -⟩ | ⟨gap, rfl, -⟩ | ⟨gap, rfl, -⟩
          · exact halts.unique halts'
          · exact absurd ⟨_, halts⟩ (runs' comparison (by simp))
          · exact absurd ⟨_, halts'⟩ (earlier_run comparison' (by simp))
        · exact absurd ⟨_, halts⟩ (runs' comparison (by simp [split]))
  | none =>
      have runs : ∀ comparison ∈ expression.comparisons, ¬ comparison.Halting attributes := by
        intro comparison member
        rw [← Comparison.halt?_eq_none]
        exact List.findSome?_eq_none_iff.mp stop comparison member
      rw [evaluate_of_run stop]
      constructor
      · rintro rfl
        exact Or.inr ⟨runs, rfl⟩
      · rintro (⟨before, comparison, after, split, -, halts⟩ | ⟨-, rfl⟩)
        · exact absurd ⟨_, halts⟩ (runs comparison (by simp [split]))
        · rfl

end Expression

end AdTargeting
