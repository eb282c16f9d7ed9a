import AdTargeting.Proofs.Evaluation.Order

set_option autoImplicit false

/-
Intervals and sets said with plain literals. An interval is a conjunction of two bounds, and a set
is a disjunction of equal texts. The plain comparisons need a value of the same kind in the same
attribute, so they halt where the short form does, with an error that names another kind of literal.
-/

namespace AdTargeting

theorem findSome?_of_forall {α β : Type} {find : α → Option β} {found : Option β} {list : List α}
    (nonempty : list ≠ []) (each : ∀ element ∈ list, find element = found) :
    list.findSome? find = found := by
  cases found with
  | none => exact List.findSome?_eq_none_iff.mpr each
  | some value =>
      obtain ⟨first, later, rfl⟩ := List.exists_cons_of_ne_nil nonempty
      rw [List.findSome?_cons_of_isSome (by rw [each first List.mem_cons_self]; rfl)]
      exact each first List.mem_cons_self

/-- The same error, whatever the kind of literal that it names. -/
def ConditionError.withoutLiteral : ConditionError → ConditionError
  | typeMismatch name stored _ position => typeMismatch name stored .number position
  | reason => reason

/-- The outcome of a halt, the kind of literal apart. -/
def Halt.told (halt : Halt) : Except ConditionError Bool :=
  halt.outcome.mapError ConditionError.withoutLiteral

namespace Comparison

variable {attributes : Attributes}

/-- Texts are compared for equality only. -/
def Legal (comparison : Comparison) : Prop :=
  ∀ value, comparison.literal = .text value → comparison.operator = .equal

theorem told_of_legal {comparison : Comparison} (legal : comparison.Legal) :
    (comparison.halt? attributes).map Halt.told =
      match attributes.get? comparison.name with
      | none => some (.ok false)
      | some stored =>
          if stored.kind = comparison.literal.needs then none
          else some (.error
            (.typeMismatch comparison.name stored.kind .number comparison.position)) := by
  cases found : attributes.get? comparison.name with
  | none =>
      simp only [halt?, visit, found]
      rfl
  | some stored =>
      by_cases fits : stored.kind = comparison.literal.needs
      · have runs : ¬ comparison.Halting attributes := by
          rw [halting_iff found]
          rintro (other | ⟨⟨value, string⟩, unequal⟩)
          · exact other fits
          · exact unequal (legal value string)
        rw [halt?_eq_none.mpr runs]
        exact (if_pos fits).symm
      · simp only [halt?, visit_present found, judge_misfit fits, fits, ↓reduceIte]
        rfl

/-- Comparisons of one attribute at one place that need values of one kind halt alike. -/
theorem told_congr {part whole : Comparison} (legal : part.Legal) (legal' : whole.Legal)
    (name : part.name = whole.name) (needs : part.literal.needs = whole.literal.needs)
    (position : part.position = whole.position) :
    (part.halt? attributes).map Halt.told = (whole.halt? attributes).map Halt.told := by
  rw [told_of_legal legal, told_of_legal legal', name, needs, position]

end Comparison

namespace Expression

/-- The long form of an interval is a conjunction of its bounds. That of a set is the disjunction of
its members, of which there is at least one. -/
inductive SpellsOut : Expression → Expression → Prop
  | interval (name : String) (operator : Operator) (low high : Double) (position : Nat) :
      SpellsOut (.compare ⟨name, operator, .interval low high, position⟩)
        (uniform .and [.compare ⟨name, .greaterEqual, .number low, position⟩,
          .compare ⟨name, .lessEqual, .number high, position⟩])
  | set (name : String) (operator : Operator) (members : List String) (position : Nat)
      (nonempty : members ≠ []) :
      SpellsOut (.compare ⟨name, operator, .set members, position⟩)
        (uniform .or (members.map fun member =>
          .compare ⟨name, .equal, .text member, position⟩))

variable {attributes : Attributes}

theorem told_uniform (relation : Relation) {parts : List Comparison}
    {told : Option (Except ConditionError Bool)} (nonempty : parts ≠ [])
    (each : ∀ part ∈ parts, (part.halt? attributes).map Halt.told = told) :
    ((uniform relation (parts.map .compare)).comparisons.findSome?
      (Comparison.halt? attributes)).map Halt.told = told := by
  have row : (uniform relation (parts.map .compare)).comparisons = parts := by
    rw [comparisons_uniform, List.flatMap_map]
    exact List.flatMap_singleton' parts
  rw [row, List.map_findSome?]
  exact findSome?_of_forall nonempty each

theorem told_of_spellsOut {part other : Expression} (spells : SpellsOut part other) :
    (part.comparisons.findSome? (Comparison.halt? attributes)).map Halt.told =
      (other.comparisons.findSome? (Comparison.halt? attributes)).map Halt.told := by
  -- Each plain comparison looks for a value of the same kind under the same name.
  cases spells with
  | interval name operator low high position =>
      let lower : Comparison := ⟨name, .greaterEqual, .number low, position⟩
      let upper : Comparison := ⟨name, .lessEqual, .number high, position⟩
      rw [comparisons, List.findSome?_singleton]
      have bounds : [lower, upper] ≠ [] := List.cons_ne_nil _ _
      refine (told_uniform .and bounds ?_).symm
      intro bound member
      rcases List.mem_pair.mp member with rfl | rfl
      · exact Comparison.told_congr nofun nofun rfl rfl rfl
      · exact Comparison.told_congr nofun nofun rfl rfl rfl
  | set name operator members position nonempty =>
      let equality (member : String) : Comparison := ⟨name, .equal, .text member, position⟩
      have several : members.map equality ≠ [] := by
        rw [ne_eq, List.map_eq_nil_iff]
        exact nonempty
      rw [comparisons, List.findSome?_singleton]
      have parts : (members.map fun member => compare (equality member)) =
          (members.map equality).map .compare := (List.map_map ..).symm
      rw [parts]
      refine (told_uniform .or several ?_).symm
      intro part member
      obtain ⟨value, -, rfl⟩ := List.mem_map.mp member
      exact Comparison.told_congr (fun _ _ => rfl) nofun rfl rfl rfl

theorem holds_of_spellsOut {part other : Expression} (spells : SpellsOut part other) :
    holds attributes part = holds attributes other := by
  cases spells with
  | interval name operator low high position =>
      rw [holds_uniform_and, List.all_cons, List.all_cons, List.all_nil, Bool.and_true]
      simp only [holds, Comparison.holds]
      cases attributes.get? name with
      | none => rfl
      | some stored => cases stored <;> rfl
  | set name operator members position nonempty =>
      have several : (members.map fun member =>
          compare ⟨name, .equal, .text member, position⟩) ≠ [] := by
        rw [ne_eq, List.map_eq_nil_iff]
        exact nonempty
      rw [holds_uniform_or several, List.any_map]
      simp only [Function.comp_def, holds, Comparison.holds]
      have unequal : (members.any fun _ => false) = false :=
        List.any_eq_false.mpr fun _ _ => Bool.false_ne_true
      cases attributes.get? name with
      | none => exact unequal.symm
      | some stored =>
          cases stored with
          | number held => exact unequal.symm
          | text held => exact List.any_beq.symm

/-- A verdict is told by the first halt or else by the truth of the tree. -/
theorem evaluate_told (expression : Expression) :
    (expression.evaluate attributes).result.mapError ConditionError.withoutLiteral =
      ((expression.comparisons.findSome? (Comparison.halt? attributes)).map Halt.told).getD
        (.ok (expression.holds attributes)) := by
  cases stop : expression.comparisons.findSome? (Comparison.halt? attributes) with
  | none =>
      rw [evaluate_of_run stop]
      rfl
  | some halt =>
      rw [evaluate_of_stop stop]
      rfl

/-- Any intervals and sets of a tree may be spelled out. The verdict stays the same, and so does an
error, except that it may name another kind of literal. -/
theorem evaluate_spelledOut {tree other : Expression} (rewrites : Rewrites SpellsOut tree other)
    (attributes : Attributes) :
    (tree.evaluate attributes).result.mapError ConditionError.withoutLiteral =
      (other.evaluate attributes).result.mapError ConditionError.withoutLiteral := by
  have stops := (compositional_stop attributes Halt.told).of_rewrites
    (fun _ _ => told_of_spellsOut) rewrites
  have truth := (compositional_holds attributes).of_rewrites
    (fun _ _ => holds_of_spellsOut) rewrites
  simp only [evaluate_told, stops, truth]

/-- An interval with its bounds the wrong way round, a set that repeats a member, and an interval that
a text is tried on. The error of the long form names a plain number. -/
theorem evaluate_spelledOut_bounds :
    let attributes := NameMap.ofList
      [("age", .number (.ofInt 25)), ("town", .text "Rome"), ("floor", .number (.ofInt 2))]
    let unfit := attributes.insert "floor" (.text "attic")
    let reversed : Comparison := ⟨"age", .less, .interval (.ofInt 30) (.ofInt 20), 3⟩
    let town : Comparison := ⟨"town", .equal, .set ["Oslo", "Rome", "Rome"], 19⟩
    let floor : Comparison := ⟨"floor", .greater, .interval (.ofInt 1) .undefined, 43⟩
    let low : Expression := .compare ⟨"age", .greaterEqual, .number (.ofInt 30), 3⟩
    let high : Expression := .compare ⟨"age", .lessEqual, .number (.ofInt 20), 3⟩
    let place (name : String) : Expression := .compare ⟨"town", .equal, .text name, 19⟩
    let above : Expression := .compare ⟨"floor", .greaterEqual, .number (.ofInt 1), 43⟩
    let below : Expression := .compare ⟨"floor", .lessEqual, .number .undefined, 43⟩
    let tree : Expression := .scope [⟨none, .compare reversed⟩,
      ⟨some .or, .scope [⟨none, .compare town⟩, ⟨some .or, .compare floor⟩]⟩]
    let other : Expression := .scope [⟨none, .scope [⟨none, low⟩, ⟨some .and, high⟩]⟩,
      ⟨some .or, .scope [
        ⟨none, .scope [⟨none, place "Oslo"⟩, ⟨some .or, place "Rome"⟩, ⟨some .or, place "Rome"⟩]⟩,
        ⟨some .or, .scope [⟨none, above⟩, ⟨some .and, below⟩]⟩]⟩]
    Rewrites SpellsOut tree other ∧
      (tree.evaluate attributes).result.mapError ConditionError.withoutLiteral =
        (other.evaluate attributes).result.mapError ConditionError.withoutLiteral ∧
      (tree.evaluate attributes).result = .ok true ∧
      (tree.evaluate unfit).result.mapError ConditionError.withoutLiteral =
        (other.evaluate unfit).result.mapError ConditionError.withoutLiteral ∧
      (tree.evaluate unfit).result = .error (.typeMismatch "floor" .text .interval 43) ∧
      (other.evaluate unfit).result = .error (.typeMismatch "floor" .text .number 43) := by
  intro attributes unfit reversed town floor low high place above below tree other
  let bounds : Expression := .scope [⟨none, low⟩, ⟨some .and, high⟩]
  let places : Expression :=
    .scope [⟨none, place "Oslo"⟩, ⟨some .or, place "Rome"⟩, ⟨some .or, place "Rome"⟩]
  let second : Expression := .scope [⟨none, bounds⟩,
    ⟨some .or, .scope [⟨none, .compare town⟩, ⟨some .or, .compare floor⟩]⟩]
  let third : Expression := .scope [⟨none, bounds⟩,
    ⟨some .or, .scope [⟨none, places⟩, ⟨some .or, .compare floor⟩]⟩]
  have first_step : Replaces SpellsOut tree second :=
    .inside [] none [⟨some .or, .scope [⟨none, .compare town⟩, ⟨some .or, .compare floor⟩]⟩]
      (.here (.interval "age" .less (.ofInt 30) (.ofInt 20) 3))
  have second_step : Replaces SpellsOut second third :=
    .inside [⟨none, bounds⟩] (some .or) []
      (.inside [] none [⟨some .or, .compare floor⟩]
        (.here (.set "town" .equal ["Oslo", "Rome", "Rome"] 19 (List.cons_ne_nil _ _))))
  have third_step : Replaces SpellsOut third other :=
    .inside [⟨none, bounds⟩] (some .or) []
      (.inside [⟨none, places⟩] (some .or) []
        (.here (.interval "floor" .greater (.ofInt 1) .undefined 43)))
  have rewrites : Rewrites SpellsOut tree other :=
    .head first_step (.head second_step (.single third_step))
  exact ⟨rewrites, evaluate_spelledOut rewrites attributes, by decide +kernel,
    evaluate_spelledOut rewrites unfit, by decide +kernel, by decide +kernel⟩

end Expression

end AdTargeting
