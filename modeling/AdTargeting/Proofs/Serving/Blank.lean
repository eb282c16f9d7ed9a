import AdTargeting.Proofs.Condition.FirstFault
import AdTargeting.Proofs.Condition.Normalization
import AdTargeting.Serving
import Mathlib.Data.List.TakeWhile

set_option autoImplicit false

/-
Blank conditions are served without being read. Reading them would not make a difference, so serving
a condition that parses is evaluating its tree.
-/

namespace AdTargeting

theorem trimBlank_eq_nil {text : List Char} :
    trimBlank text = [] ↔ ∀ c ∈ text, isBlank c = true := by
  unfold trimBlank
  rw [List.reverse_eq_nil_iff, List.dropWhile_eq_nil_iff]
  constructor
  · intro blank
    have dropped : text.dropWhile isBlank = [] := by
      cases rest : text.dropWhile isBlank with
      | nil => rfl
      | cons c tail =>
          have visible := head?_dropWhile_run text c (by rw [rest, List.head?_cons])
          have space := blank c (by simp [rest])
          rw [visible] at space
          cases space
    exact List.dropWhile_eq_nil_iff.mp dropped
  · intro blank c member
    rw [List.mem_reverse] at member
    exact blank c ((List.dropWhile_sublist isBlank).subset member)

theorem isBlankText_iff {text : String} :
    isBlankText text = true ↔ ∀ c ∈ text.toList, isBlank c = true := by
  rw [isBlankText, decide_eq_true_iff, trimBlank_eq_nil]

theorem Token.spells_of_blank (name : NamePart) (position : Nat) {text : List Char}
    (blank : ∀ c ∈ text, isBlank c = true) : Spells name position text name.unused := by
  induction text generalizing position with
  | nil => exact .finish name position
  | cons c text ih =>
      obtain ⟨space, later⟩ := List.forall_mem_cons.mp blank
      exact .blank space (ih (position + 1) later)

variable {options : Options} {condition : String}

theorem parse_of_blank (blank : isBlankText condition = true) :
    (parse options condition).result = .ok (.scope []) := by
  have all := isBlankText_iff.mp blank
  have spelled : Token.Spells .none 0 (normalize condition).toList [] := by
    rw [normalize, String.toList_ofList, shortSpelling_of_blank all]
    exact Token.spells_of_blank .none 0 all
  rw [parse_result options spelled]
  rfl

/-- With attributes, serving a condition that parses is evaluating its tree. -/
theorem shouldServe_of_parse {attributes : Attributes} {tree : Expression}
    (present : attributes.isEmpty = false) (parsed : (parse options condition).result = .ok tree) :
    (shouldServe options attributes condition).result = (tree.evaluate attributes).result := by
  unfold shouldServe
  rw [present]
  cases blank : isBlankText condition with
  | true =>
      rw [parse_of_blank blank] at parsed
      cases parsed
      rfl
  | false =>
      simp only [Bool.false_eq_true, ↓reduceIte, Logged.result_bind, parsed]
      rfl

theorem compile_of_blank (blank : isBlankText condition = true) :
    (compile options condition).result = .ok ⟨condition, none⟩ := by
  unfold compile
  rw [if_pos blank]
  rfl

theorem compile_of_visible (visible : isBlankText condition = false) :
    (compile options condition).result =
      (parse options condition).result.map fun tree => ⟨condition, some tree⟩ := by
  simp only [compile, visible, Bool.false_eq_true, ↓reduceIte, Logged.result_bind]
  rfl

end AdTargeting
