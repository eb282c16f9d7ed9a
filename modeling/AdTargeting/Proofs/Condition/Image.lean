import AdTargeting.Proofs.Condition.RoundTrip
import AdTargeting.Proofs.Evaluation.Positions

set_option autoImplicit false

/-
Which trees parsing can give. Positions apart, they are the well-formed ones, and each of those is
given by its own canonical text.
-/

namespace AdTargeting

theorem Comparison.printable_withoutPosition {options : Options} (comparison : Comparison) :
    comparison.withoutPosition.Printable options ↔ comparison.Printable options := by
  constructor
  · intro printable
    exact ⟨printable.name, printable.nonempty, printable.inside, printable.longest,
      printable.classified⟩
  · intro printable
    exact ⟨printable.name, printable.nonempty, printable.inside, printable.longest,
      printable.classified⟩

namespace Expression

mutual

/-- In every scope the first term has no relation and every later term has one. -/
def Related : Expression → Prop
  | .compare _ => True
  | .scope [] => True
  | .scope (⟨relation, expression⟩ :: later) =>
      relation = none ∧ Related expression ∧ RelatedLater later

def RelatedLater : List Term → Prop
  | [] => True
  | ⟨relation, expression⟩ :: later =>
      relation ≠ none ∧ Related expression ∧ RelatedLater later

end

/-- A scope that is not nested too deep, with relations exactly between terms, and with names and
literals that a text can say. -/
structure WellFormed (options : Options) (tree : Expression) : Prop where
  root : ∃ terms, tree = .scope terms
  nesting : tree.depth ≤ options.maxDepth + 1
  related : tree.Related
  printable : ∀ comparison ∈ tree.comparisons, comparison.Printable options

variable {options : Options}

mutual

/-- A tree can be printed when its relations stand between terms and its comparisons can be. -/
theorem printable_iff (expression : Expression) :
    Printable options expression ↔
      Related expression ∧ ∀ comparison ∈ comparisons expression, comparison.Printable options := by
  match expression with
  | .compare comparison => simp [Printable, Related, comparisons]
  | .scope [] => simp [Printable, Related, comparisons, termComparisons]
  | .scope (⟨relation, first⟩ :: later) =>
      rw [Printable, Related, comparisons, termComparisons, List.forall_mem_append,
        printable_iff first, printableLater_iff later]
      constructor
      · rintro ⟨unrelated, ⟨related, front⟩, related_later, back⟩
        exact ⟨⟨unrelated, related, related_later⟩, front, back⟩
      · rintro ⟨⟨unrelated, related, related_later⟩, front, back⟩
        exact ⟨unrelated, ⟨related, front⟩, related_later, back⟩

theorem printableLater_iff (terms : List Term) :
    PrintableLater options terms ↔
      RelatedLater terms ∧
        ∀ comparison ∈ termComparisons terms, comparison.Printable options := by
  match terms with
  | [] => simp [PrintableLater, RelatedLater, termComparisons]
  | ⟨relation, expression⟩ :: later =>
      rw [PrintableLater, RelatedLater, termComparisons, List.forall_mem_append,
        printable_iff expression, printableLater_iff later]
      constructor
      · rintro ⟨joined, ⟨related, front⟩, related_later, back⟩
        exact ⟨⟨joined, related, related_later⟩, front, back⟩
      · rintro ⟨⟨joined, related, related_later⟩, front, back⟩
        exact ⟨joined, ⟨related, front⟩, related_later, back⟩

end

mutual

theorem related_withoutPositions (expression : Expression) :
    Related (withoutPositions expression) ↔ Related expression := by
  match expression with
  | .compare comparison => exact Iff.rfl
  | .scope [] => exact Iff.rfl
  | .scope (⟨relation, first⟩ :: later) =>
      rw [withoutPositions, termsWithoutPositions, Related, Related,
        related_withoutPositions first, relatedLater_withoutPositions later]

theorem relatedLater_withoutPositions (terms : List Term) :
    RelatedLater (termsWithoutPositions terms) ↔ RelatedLater terms := by
  match terms with
  | [] => exact Iff.rfl
  | ⟨relation, expression⟩ :: later =>
      rw [termsWithoutPositions, RelatedLater, RelatedLater,
        related_withoutPositions expression, relatedLater_withoutPositions later]

end

theorem printable_of_same_comparisons {tree other : Expression}
    (same : tree.withoutPositions = other.withoutPositions)
    (printable : ∀ comparison ∈ tree.comparisons, comparison.Printable options) :
    ∀ comparison ∈ other.comparisons, comparison.Printable options := by
  intro comparison member
  have moved : comparison.withoutPosition ∈ other.withoutPositions.comparisons := by
    rw [comparisons_withoutPositions]
    exact List.mem_map_of_mem member
  rw [← same, comparisons_withoutPositions] at moved
  obtain ⟨twin, twin_member, twin_same⟩ := List.mem_map.mp moved
  rw [← comparison.printable_withoutPosition, ← twin_same, twin.printable_withoutPosition]
  exact printable twin twin_member

theorem WellFormed.congr {tree other : Expression} (formed : tree.WellFormed options)
    (same : tree.withoutPositions = other.withoutPositions) : other.WellFormed options := by
  refine ⟨?_, ?_, ?_, printable_of_same_comparisons same formed.printable⟩
  · obtain ⟨terms, rfl⟩ := formed.root
    cases other with
    | scope others => exact ⟨others, rfl⟩
    | compare comparison => cases same
  · rw [← depth_withoutPositions, ← same, depth_withoutPositions]
    exact formed.nesting
  · rw [← related_withoutPositions, ← same, related_withoutPositions]
    exact formed.related

theorem wellFormed_of_parse {condition : String} {tree : Expression}
    (parsed : (parse options condition).result = .ok tree) : tree.WellFormed options := by
  obtain ⟨terms, rfl, printable, fits⟩ := printable_of_parse parsed
  obtain ⟨related, each⟩ := (printable_iff (.scope terms)).mp printable
  refine ⟨⟨terms, rfl⟩, ?_, related, each⟩
  rw [depth]
  omega

theorem WellFormed.parse {tree : Expression} (formed : tree.WellFormed options) :
    ∃ again, (AdTargeting.parse options tree.rootText).result = .ok again ∧
      again.withoutPositions = tree.withoutPositions := by
  obtain ⟨terms, rfl⟩ := formed.root
  have printable := (printable_iff (.scope terms)).mpr ⟨formed.related, formed.printable⟩
  have nesting := formed.nesting
  rw [depth] at nesting
  exact parse_scopeChars printable (by omega)

end Expression

/-- Positions apart, the trees that texts parse to are exactly the well-formed ones, and exactly
those that their own canonical texts parse to. -/
theorem exists_parse_iff_wellFormed (options : Options) (tree : Expression) :
    ((∃ condition again, (parse options condition).result = .ok again ∧
        again.withoutPositions = tree.withoutPositions) ↔ tree.WellFormed options) ∧
    ((∃ again, (parse options tree.rootText).result = .ok again ∧
        again.withoutPositions = tree.withoutPositions) ↔ tree.WellFormed options) := by
  have formed_of_parse {condition : String} {again : Expression}
      (parsed : (parse options condition).result = .ok again)
      (same : again.withoutPositions = tree.withoutPositions) : tree.WellFormed options :=
    (Expression.wellFormed_of_parse parsed).congr same
  refine ⟨⟨?_, ?_⟩, ?_, ?_⟩
  · rintro ⟨condition, again, parsed, same⟩
    exact formed_of_parse parsed same
  · intro formed
    exact ⟨tree.rootText, formed.parse⟩
  · rintro ⟨again, parsed, same⟩
    exact formed_of_parse parsed same
  · intro formed
    exact formed.parse

end AdTargeting
