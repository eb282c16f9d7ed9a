import AdTargeting.Proofs.Evaluation.Verdict
import Mathlib.Data.Multiset.AddSub
import Mathlib.Logic.Relation

set_option autoImplicit false

/-
Replacing parts of a tree. What is seen of a scope often depends on its terms only through what is
seen of each of them. Parts that look the same can then stand for one another anywhere in a tree.
-/

namespace AdTargeting

namespace Expression

/-- One part of a tree, at any depth, is replaced as a step allows. -/
inductive Replaces (step : Expression → Expression → Prop) : Expression → Expression → Prop
  | here {part other : Expression} (allowed : step part other) : Replaces step part other
  | inside (before : List Term) (relation : Option Relation) (after : List Term)
      {part other : Expression} (deeper : Replaces step part other) :
      Replaces step (.scope (before ++ ⟨relation, part⟩ :: after))
        (.scope (before ++ ⟨relation, other⟩ :: after))

/-- Parts of a tree are replaced one after another, as often as one likes. -/
abbrev Rewrites (step : Expression → Expression → Prop) : Expression → Expression → Prop :=
  Relation.ReflTransGen (Replaces step)

/-- A way to look at trees that sees each term of a scope through what it sees of the term alone. -/
def Compositional {α : Type} (view : Expression → α) : Prop :=
  ∀ (before : List Term) (relation : Option Relation) (after : List Term) (part other : Expression),
    view part = view other →
      view (.scope (before ++ ⟨relation, part⟩ :: after)) =
        view (.scope (before ++ ⟨relation, other⟩ :: after))

section Views

variable {α : Type} {view : Expression → α} {step : Expression → Expression → Prop}
  {tree other : Expression}

/-- A replacement that is not seen in the part is not seen in the tree. -/
theorem Compositional.of_replaces (compositional : Compositional view)
    (unseen : ∀ part part', step part part' → view part = view part')
    (replaces : Replaces step tree other) : view tree = view other := by
  induction replaces with
  | here allowed => exact unseen _ _ allowed
  | inside before relation after deeper ih =>
      exact compositional before relation after _ _ ih

theorem Compositional.of_rewrites (compositional : Compositional view)
    (unseen : ∀ part part', step part part' → view part = view part')
    (rewrites : Rewrites step tree other) : view tree = view other := by
  induction rewrites with
  | refl => rfl
  | tail earlier last ih => exact ih.trans (compositional.of_replaces unseen last)

end Views

theorem comparisons_inside (before : List Term) (relation : Option Relation) (after : List Term)
    (part : Expression) :
    (scope (before ++ ⟨relation, part⟩ :: after)).comparisons =
      termComparisons before ++ (part.comparisons ++ termComparisons after) := by
  rw [comparisons, termComparisons_append, termComparisons]

/-- The comparisons of a tree, each as often as it occurs but in no order. -/
def comparisonBag (tree : Expression) : Multiset Comparison := tree.comparisons

theorem compositional_comparisonBag : Compositional comparisonBag := by
  intro before relation after part other same
  unfold comparisonBag at same ⊢
  rw [comparisons_inside, comparisons_inside, ← Multiset.coe_add, ← Multiset.coe_add,
    ← Multiset.coe_add, ← Multiset.coe_add, same]

section Walks

variable (attributes : Attributes)

/-- Where a tree halts, as far as it can be told from the halt. -/
theorem compositional_stop {β : Type} (told : Halt → β) : Compositional fun tree =>
    (tree.comparisons.findSome? (Comparison.halt? attributes)).map told := by
  intro before relation after part other same
  simp only [comparisons_inside, List.findSome?_append, Option.map_or, same]

theorem compositional_holds : Compositional (holds attributes) := by
  intro before relation after part other same
  cases before with
  | nil => simp only [List.nil_append, holds, same]
  | cons term before =>
      obtain ⟨first, expression⟩ := term
      simp only [List.cons_append, holds, holdsAfter_append]
      cases relation with
      | none => simp only [holdsAfter, same]
      | some relation => simp only [holdsAfter_related, same]

theorem visitTerms_append (value : Option Bool) (terms later : List Term) :
    visitTerms attributes value (terms ++ later) =
      Logged.bind (visitTerms attributes value terms) fun value =>
        visitTerms attributes value later := by
  induction terms generalizing value with
  | nil => rfl
  | cons term terms ih =>
      obtain ⟨relation, first⟩ := term
      simp only [List.cons_append, visitTerms, Logged.bind_assoc, ih]

theorem compositional_visit : Compositional (visit attributes) := by
  intro before relation after part other same
  simp only [visit, visitTerms_append, visitTerms, same]

end Walks

end Expression

end AdTargeting
