import AdTargeting.Proofs.Evaluation.Replacement

set_option autoImplicit false

/-
Scopes with one relation. A conjunction holds when all of its parts do and a disjunction when one of
them does, and an absent attribute makes a condition false wherever it stands. So the order of the
parts is of no consequence, unless there are errors, of which the first is reported.
-/

namespace AdTargeting

namespace Expression

/-- A scope whose terms are all joined by one relation. -/
def uniform (relation : Relation) : List Expression → Expression
  | [] => .scope []
  | first :: later => .scope (⟨none, first⟩ :: later.map fun part => ⟨some relation, part⟩)

section Laws

variable {attributes : Attributes} {relation : Relation} {parts others : List Expression}

theorem termComparisons_map (joined : Option Relation) (parts : List Expression) :
    termComparisons (parts.map fun part => ⟨joined, part⟩) = parts.flatMap comparisons := by
  induction parts with
  | nil => rfl
  | cons first later ih => rw [List.map_cons, termComparisons, ih, List.flatMap_cons]

theorem comparisons_uniform (relation : Relation) (parts : List Expression) :
    (uniform relation parts).comparisons = parts.flatMap comparisons := by
  cases parts with
  | nil => rfl
  | cons first later =>
      rw [uniform, comparisons, termComparisons, termComparisons_map, List.flatMap_cons]

theorem holdsAfter_and (current : Bool) (later : List Expression) :
    holdsAfter attributes current (later.map fun part => ⟨some .and, part⟩) =
      (current && later.all (holds attributes)) := by
  induction later generalizing current with
  | nil => rw [List.map_nil, holdsAfter, List.all_nil, Bool.and_true]
  | cons part later ih =>
      rw [List.map_cons, holdsAfter, ih, List.all_cons, Bool.and_assoc]

theorem holdsAfter_or (current : Bool) (later : List Expression) :
    holdsAfter attributes current (later.map fun part => ⟨some .or, part⟩) =
      (current || later.any (holds attributes)) := by
  induction later generalizing current with
  | nil => rw [List.map_nil, holdsAfter, List.any_nil, Bool.or_false]
  | cons part later ih =>
      rw [List.map_cons, holdsAfter, ih, List.any_cons, Bool.or_assoc]

theorem holds_uniform_and (parts : List Expression) :
    holds attributes (uniform .and parts) = parts.all (holds attributes) := by
  cases parts with
  | nil => rfl
  | cons first later => rw [uniform, holds, holdsAfter_and, List.all_cons]

/-- An empty scope holds, also where its terms would be joined by disjunction. -/
theorem holds_uniform_or (nonempty : parts ≠ []) :
    holds attributes (uniform .or parts) = parts.any (holds attributes) := by
  cases parts with
  | nil => exact absurd rfl nonempty
  | cons first later => rw [uniform, holds, holdsAfter_or, List.any_cons]

theorem holds_uniform_perm (same : parts.Perm others) :
    holds attributes (uniform relation parts) = holds attributes (uniform relation others) := by
  cases relation with
  | and => rw [holds_uniform_and, holds_uniform_and, same.all_eq]
  | or =>
      by_cases empty : parts = []
      · subst empty
        rw [same.nil_eq]
      · have nonempty : others ≠ [] := by
          rintro rfl
          exact empty same.eq_nil
        rw [holds_uniform_or empty, holds_uniform_or nonempty, same.any_eq]

end Laws

/-- The parts of a scope with one relation change places. -/
inductive Reorders : Expression → Expression → Prop
  | uniform (relation : Relation) {parts others : List Expression} (same : parts.Perm others) :
      Reorders (uniform relation parts) (uniform relation others)

variable {attributes : Attributes} {tree other : Expression}

theorem perm_comparisons_of_reorders (rewrites : Rewrites Reorders tree other) :
    tree.comparisons.Perm other.comparisons := by
  have bags : comparisonBag tree = comparisonBag other := by
    refine compositional_comparisonBag.of_rewrites ?_ rewrites
    rintro _ _ ⟨relation, same⟩
    unfold comparisonBag
    rw [comparisons_uniform, comparisons_uniform]
    exact Multiset.coe_eq_coe.mpr (same.flatMap_right comparisons)
  exact Multiset.coe_eq_coe.mp bags

theorem holds_of_reorders (rewrites : Rewrites Reorders tree other) :
    holds attributes tree = holds attributes other := by
  refine (compositional_holds attributes).of_rewrites ?_ rewrites
  rintro _ _ ⟨relation, same⟩
  exact holds_uniform_perm same

/-- Where no comparison of a tree is an error, the order of the parts of scopes with one relation
makes no difference at any depth, even if attributes are absent. -/
theorem order_is_irrelevant (rewrites : Rewrites Reorders tree other)
    (sound : ∀ comparison ∈ tree.comparisons, ∀ reason,
      ¬ comparison.Halts attributes (.error reason)) :
    ∃ verdict, (tree.evaluate attributes).result = .ok verdict ∧
      (other.evaluate attributes).result = .ok verdict := by
  have same := perm_comparisons_of_reorders rewrites
  have sound' : ∀ comparison ∈ other.comparisons, ∀ reason,
      ¬ comparison.Halts attributes (.error reason) := by
    intro comparison member
    exact sound comparison (same.mem_iff.mpr member)
  -- Neither whether all attributes are there nor whether the tree holds depends on the order.
  have reordered := evaluate_of_sound sound'
  rw [← same.all_eq, ← holds_of_reorders rewrites] at reordered
  exact ⟨_, evaluate_of_sound sound, reordered⟩

/-- Terms change places in a disjunction and in a conjunction below it, and with them two comparisons
of an attribute that is absent. -/
theorem order_is_irrelevant_absent :
    let attributes := NameMap.ofList [("age", .number (.ofInt 25)), ("city", .text "Rome")]
    let young : Comparison := ⟨"age", .less, .number (.ofInt 30), 3⟩
    let small : Comparison := ⟨"size", .less, .number (.ofInt 3), 12⟩
    let inRome : Comparison := ⟨"city", .equal, .text "Rome", 23⟩
    let large : Comparison := ⟨"size", .greater, .number (.ofInt 8), 34⟩
    let tree : Expression := uniform .or
      [.compare young, uniform .and [.compare small, .compare inRome], .compare large]
    let other : Expression := uniform .or
      [.compare large, uniform .and [.compare inRome, .compare small], .compare young]
    Rewrites Reorders tree other ∧
      (∀ comparison ∈ tree.comparisons, ∀ reason,
        ¬ comparison.Halts attributes (.error reason)) ∧
      ∃ verdict, (tree.evaluate attributes).result = .ok verdict ∧
        (other.evaluate attributes).result = .ok verdict ∧ verdict = false := by
  intro attributes young small inRome large tree other
  let between : Expression := uniform .or
    [.compare young, uniform .and [.compare inRome, .compare small], .compare large]
  have below : Replaces Reorders tree between :=
    .inside [⟨none, .compare young⟩] (some .or) [⟨some .or, .compare large⟩]
      (.here (.uniform .and (.swap _ _ _)))
  have above : Replaces Reorders between other :=
    .here (.uniform .or (List.reverse_perm _).symm)
  have rewrites : Rewrites Reorders tree other := .head below (.single above)
  have stops : ∀ comparison ∈ tree.comparisons,
      comparison.halt? attributes = none ∨ comparison.halt? attributes = some .absent := by
    decide +kernel
  have sound : ∀ comparison ∈ tree.comparisons, ∀ reason,
      ¬ comparison.Halts attributes (.error reason) := by
    intro comparison member reason halts
    obtain ⟨halt, stopped, outcome⟩ := Comparison.halts_iff.mp halts
    rcases stops comparison member with runs | absent
    · rw [runs] at stopped
      cases stopped
    · rw [absent] at stopped
      cases stopped
      cases outcome
  obtain ⟨verdict, evaluated, evaluated'⟩ := order_is_irrelevant rewrites sound
  have refused : (tree.evaluate attributes).result = .ok false := by decide +kernel
  exact ⟨rewrites, sound, verdict, evaluated, evaluated',
    Except.ok.inj (evaluated.symm.trans refused)⟩

end Expression

end AdTargeting
