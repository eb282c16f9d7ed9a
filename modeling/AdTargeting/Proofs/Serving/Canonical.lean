import AdTargeting.Proofs.Condition.RoundTrip
import AdTargeting.Proofs.Evaluation.Positions
import AdTargeting.Proofs.Serving.Blank

set_option autoImplicit false

/-
Keeping the canonical text of a condition in place of the condition. It decides the same for all
attributes, also when nothing is left of the condition in its canonical text.
-/

namespace AdTargeting

theorem Expression.exists_visible (expression : Expression) :
    ∃ c ∈ expression.chars, isBlank c = false := by
  cases expression with
  | scope terms => exact ⟨'(', List.mem_cons_self, by decide⟩
  | compare comparison =>
      obtain ⟨c, member, sign⟩ := comparison.operator.exists_sign
      refine ⟨c, ?_, ?_⟩
      · rw [chars, Comparison.chars]
        exact List.mem_append_left _ (List.mem_append_right _ member)
      · rcases sign with rfl | rfl | rfl <;> decide

/-- The canonical text is blank only when the outermost scope has no terms. -/
theorem Expression.terms_of_blank {terms : List Term}
    (blank : isBlankText (Expression.scope terms).rootText = true) : terms = [] := by
  cases terms with
  | nil => rfl
  | cons first later =>
      obtain ⟨relation, expression⟩ := first
      obtain ⟨c, member, visible⟩ := expression.exists_visible
      have shown : c ∈ (Expression.scope (⟨relation, expression⟩ :: later)).rootText.toList := by
        rw [rootText, String.toList_ofList, rootChars, scopeChars]
        exact List.mem_append_left _ member
      have space := isBlankText_iff.mp blank c shown
      rw [visible] at space
      cases space

variable {options : Options}

/-- Two compiled conditions that decide the same for all attributes, up to positions in errors. -/
def Compiled.Equivalent (left right : Compiled) : Prop :=
  ∀ attributes, (left.serves attributes).result.mapError ConditionError.withoutPosition =
    (right.serves attributes).result.mapError ConditionError.withoutPosition

theorem Compiled.equivalent_of_same {source source' : String} {tree tree' : Expression}
    (same : tree.withoutPositions = tree'.withoutPositions) :
    Compiled.Equivalent ⟨source, some tree⟩ ⟨source', some tree'⟩ := by
  intro attributes
  unfold Compiled.serves
  split
  · rfl
  · exact Expression.evaluate_congr same

theorem Compiled.equivalent_empty (source source' : String) :
    Compiled.Equivalent ⟨source, none⟩ ⟨source', some (.scope [])⟩ := by
  intro attributes
  unfold Compiled.serves
  split
  · rfl
  · rfl

/-- The canonical text of a compiled condition compiles again, has itself as canonical text, and
decides the same as the condition. -/
theorem compile_canonical {condition : String} {compiled : Compiled}
    (accepted : (compile options condition).result = .ok compiled) :
    ∃ again, (compile options compiled.canonical).result = .ok again ∧
      again.canonical = compiled.canonical ∧ again.Equivalent compiled := by
  cases blank : isBlankText condition with
  | true =>
      rw [compile_of_blank blank] at accepted
      cases accepted
      exact ⟨⟨"", none⟩, compile_of_blank rfl, rfl, fun attributes => rfl⟩
  | false =>
      rw [compile_of_visible blank] at accepted
      cases parsed : (parse options condition).result with
      | error reason =>
          rw [parsed] at accepted
          cases accepted
      | ok tree =>
          rw [parsed] at accepted
          cases accepted
          obtain ⟨terms, rfl, printable, fits⟩ := printable_of_parse parsed
          obtain ⟨tree, reparsed, same⟩ := parse_scopeChars printable fits
          cases empty : isBlankText (Expression.scope terms).rootText with
          | true =>
              -- Nothing but dropped names and relations: the text is blank, the tree an empty one.
              have no_terms := Expression.terms_of_blank empty
              subst no_terms
              exact ⟨⟨"", none⟩, compile_of_blank rfl, rfl, Compiled.equivalent_empty "" condition⟩
          | false =>
              refine ⟨⟨(Expression.scope terms).rootText, some tree⟩, ?_,
                Expression.rootText_eq same, Compiled.equivalent_of_same same⟩
              show (compile options (Expression.scope terms).rootText).result = _
              rw [compile_of_visible empty, reparsed]
              rfl

/-- A number is rewritten and blanks go, so that errors stand elsewhere; of a lone name nothing is
left. -/
theorem compile_canonical_rewritten :
    (∃ compiled, (compile {} " b  = x or  a<1e1").result = .ok compiled ∧
      compiled.canonical = "b=x or a<10" ∧
      ∃ again, (compile {} compiled.canonical).result = .ok again ∧
        again.canonical = compiled.canonical ∧ again.Equivalent compiled) ∧
    ∃ compiled, (compile {} "lone").result = .ok compiled ∧ compiled.canonical = "" ∧
      ∃ again, (compile {} compiled.canonical).result = .ok again ∧
        again.canonical = compiled.canonical ∧ again.Equivalent compiled := by
  have kept {condition text : String}
      (printed : (compile {} condition).result.toOption.map Compiled.canonical = some text) :
      ∃ compiled, (compile {} condition).result = .ok compiled ∧ compiled.canonical = text ∧
        ∃ again, (compile {} compiled.canonical).result = .ok again ∧
          again.canonical = compiled.canonical ∧ again.Equivalent compiled := by
    cases accepted : (compile {} condition).result with
    | error reason =>
        rw [accepted] at printed
        cases printed
    | ok compiled =>
        rw [accepted] at printed
        exact ⟨compiled, rfl, Option.some.inj printed, compile_canonical accepted⟩
  exact ⟨kept (by decide +kernel), kept (by decide +kernel)⟩

end AdTargeting
