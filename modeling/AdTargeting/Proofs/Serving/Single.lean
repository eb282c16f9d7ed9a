import AdTargeting.Proofs.Condition.RoundTrip
import AdTargeting.Proofs.Evaluation.Verdict
import AdTargeting.Proofs.Serving.Blank

set_option autoImplicit false

/-
Conditions that are one comparison without blanks. Whatever the name, serving one is making that
comparison.
-/

namespace AdTargeting

theorem shortSpelling_of_spaceless {text : List Char} (spaceless : ' ' ∉ text) :
    shortSpelling text = text := by
  simp only [shortSpelling]
  rw [substitute_of_not_mem (by decide) spaceless, substitute_of_not_mem (by decide) spaceless,
    substitute_of_not_mem (by decide) spaceless]

def singleText (name : String) (operator : Operator) (literal : List Char) : String :=
  name ++ operator.symbol ++ String.ofList literal

theorem toList_singleText (name : String) (operator : Operator) (literal : List Char) :
    (singleText name operator literal).toList =
      name.toList ++ operator.symbol.toList ++ literal := by
  simp only [singleText, String.toList_append, String.toList_ofList]

/-- What can stand behind any operator: the characters of a literal, and no equality sign that would
make the operator longer. -/
structure StandsAlone (literal : List Char) : Prop where
  nonempty : literal ≠ []
  inside : ∀ c ∈ literal, inLiteral c = true
  apart : literal.head? ≠ some '='

variable {options : Options} {attributes : Attributes} {name : String} {text : List Char}
  {literal : Literal}

theorem space_not_mem_singleText (letters : ∀ c ∈ name.toList, inName c = true)
    (alone : StandsAlone text) (operator : Operator) :
    ' ' ∉ (singleText name operator text).toList := by
  intro member
  rw [toList_singleText, List.mem_append, List.mem_append] at member
  rcases member with (named | symbol) | inside
  · exact absurd (letters ' ' named) (by decide)
  · revert symbol
    cases operator <;> decide
  · exact absurd (alone.inside ' ' inside) (by decide)

theorem parse_singleText (letters : ∀ c ∈ name.toList, inName c = true)
    (alone : StandsAlone text) (classified : Literal.classify options text = some literal)
    (operator : Operator) :
    ∃ place, (parse options (singleText name operator text)).result =
      .ok (.scope [⟨none, .compare ⟨name, operator, literal, place⟩⟩]) := by
  obtain ⟨start, place, spells⟩ :=
    Token.spells_comparison letters alone.nonempty alone.inside (fun _ => alone.apart) 0
  have row := spells [] [] nofun (.finish .none _)
  have content := Content.empty.comparison (.first none) name start operator place alone.nonempty
    classified
  have spelled : Token.Spells .none 0 (normalize (singleText name operator text)).toList
      [.comparison name start operator place text] := by
    rw [normalize, String.toList_ofList,
      shortSpelling_of_spaceless (space_not_mem_singleText letters alone operator),
      toList_singleText]
    rw [List.append_nil] at row
    exact row
  exact ⟨place, parse_of_content spelled content (Nat.zero_le _)⟩

theorem NameMap.isEmpty_of_get? {α : Type} {map : NameMap α} {value : α}
    (present : map.get? name = some value) : map.isEmpty = false := by
  unfold get? at present
  unfold isEmpty
  cases entries : map.entries with
  | nil =>
      rw [entries] at present
      cases present
  | cons first rest => rfl

/-- Serving a single comparison is making it with what is stored under its name. -/
theorem shouldServe_singleText {stored : AttributeValue} {verdict : Bool}
    (present : attributes.get? name = some stored)
    (letters : ∀ c ∈ name.toList, inName c = true) (alone : StandsAlone text)
    (classified : Literal.classify options text = some literal) (operator : Operator)
    (judged : ∀ place, Comparison.judge ⟨name, operator, literal, place⟩ stored = .ok verdict) :
    (shouldServe options attributes (singleText name operator text)).result = .ok verdict := by
  obtain ⟨place, parsed⟩ := parse_singleText letters alone classified operator
  rw [shouldServe_of_parse (NameMap.isEmpty_of_get? present) parsed]
  have visited : (Comparison.visit attributes ⟨name, operator, literal, place⟩).result =
      .ok verdict := by
    rw [Comparison.visit_present present, judged]
    rfl
  have folded : (Expression.visitTerms attributes none
      [⟨none, .compare ⟨name, operator, literal, place⟩⟩]).result = .ok (some verdict) := by
    simp only [Expression.visitTerms, Expression.visit]
    rw [Logged.bind_of_ok _ _ verdict visited]
    rfl
  have walked : (Expression.visit attributes
      (.scope [⟨none, .compare ⟨name, operator, literal, place⟩⟩])).result = .ok verdict := by
    rw [Expression.visit, Logged.bind_of_ok _ _ _ folded]
    rfl
  simp only [Expression.evaluate, walked]

end AdTargeting
