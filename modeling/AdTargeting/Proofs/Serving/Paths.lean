import AdTargeting.Proofs.Serving.Blank

set_option autoImplicit false

/-
Three ways to a verdict: serving a condition at once, compiling it first, and evaluating its tree
whether it is blank or not. They differ only where there are no attributes and the condition is
malformed.
-/

namespace AdTargeting

section Paths

variable (options : Options) (attributes : Attributes) (condition : String)

def serveCompiled : Logged ConditionError Bool := do
  let compiled ← compile options condition
  compiled.serves attributes

/-- Parses a condition, blank or not, and then evaluates its tree. -/
def serveParsed : Logged ConditionError Bool := do
  let tree ← parse options condition
  tree.evaluate attributes

/-- Compiling is parsing, except that the tree of a blank condition is not kept. -/
theorem compile_result :
    (compile options condition).result =
      (parse options condition).result.map fun tree =>
        ⟨condition, if isBlankText condition then none else some tree⟩ := by
  cases blank : isBlankText condition with
  | true =>
      rw [compile_of_blank blank, parse_of_blank blank]
      rfl
  | false => exact compile_of_visible blank

end Paths

variable {options : Options} {attributes : Attributes} {condition : String}

theorem exists_parse_of_compile {compiled : Compiled}
    (accepted : (compile options condition).result = .ok compiled) :
    ∃ tree, (parse options condition).result = .ok tree ∧
      compiled = ⟨condition, if isBlankText condition then none else some tree⟩ := by
  rw [compile_result] at accepted
  cases parsed : (parse options condition).result with
  | error reason =>
      rw [parsed] at accepted
      cases accepted
  | ok tree =>
      rw [parsed] at accepted
      exact ⟨tree, rfl, (Except.ok.inj accepted).symm⟩

theorem shouldServe_of_isEmpty (nothing : attributes.isEmpty = true) :
    (shouldServe options attributes condition).result = .ok false := by
  rw [shouldServe, if_pos nothing]
  rfl

theorem Compiled.serves_of_isEmpty (compiled : Compiled) (nothing : attributes.isEmpty = true) :
    (compiled.serves attributes).result = .ok false := by
  rw [serves, if_pos nothing]
  rfl

theorem shouldServe_eq_serveParsed (present : attributes.isEmpty = false) :
    (shouldServe options attributes condition).result =
      (serveParsed options attributes condition).result := by
  cases parsed : (parse options condition).result with
  | ok tree =>
      rw [shouldServe_of_parse present parsed, serveParsed, Logged.result_bind, parsed]
      rfl
  | error reason =>
      have visible : isBlankText condition = false := by
        cases blank : isBlankText condition with
        | false => rfl
        | true =>
            rw [parse_of_blank blank] at parsed
            cases parsed
      simp only [shouldServe, present, visible, serveParsed, Bool.false_eq_true, ↓reduceIte]

/-- With attributes, the error of a malformed condition is that of serving it. -/
theorem shouldServe_of_parse_error {reason : ConditionError} (present : attributes.isEmpty = false)
    (failed : (parse options condition).result = .error reason) :
    (shouldServe options attributes condition).result = .error reason := by
  rw [shouldServe_eq_serveParsed present, serveParsed, Logged.result_bind, failed]
  rfl

/-- A compiled condition decides what the condition decides under the options it was compiled
with. -/
theorem serves_of_compile {compiled : Compiled}
    (accepted : (compile options condition).result = .ok compiled) (attributes : Attributes) :
    (compiled.serves attributes).result = (shouldServe options attributes condition).result := by
  obtain ⟨tree, parsed, rfl⟩ := exists_parse_of_compile accepted
  cases nothing : attributes.isEmpty with
  | true => rw [shouldServe_of_isEmpty nothing, Compiled.serves_of_isEmpty _ nothing]
  | false =>
      rw [shouldServe_of_parse nothing parsed]
      cases blank : isBlankText condition with
      | false => simp only [Compiled.serves, nothing, Bool.false_eq_true, ↓reduceIte]
      | true =>
          -- The tree that was not kept is an empty scope.
          rw [parse_of_blank blank] at parsed
          cases parsed
          simp only [Compiled.serves, nothing, Bool.false_eq_true, ↓reduceIte]
          rfl

/-- With attributes, compiling a condition first makes no difference. -/
theorem shouldServe_eq_serveCompiled (present : attributes.isEmpty = false) :
    (shouldServe options attributes condition).result =
      (serveCompiled options attributes condition).result := by
  rw [serveCompiled, Logged.result_bind]
  cases accepted : (compile options condition).result with
  | ok compiled => exact (serves_of_compile accepted attributes).symm
  | error reason =>
      rw [compile_result] at accepted
      rw [shouldServe_eq_serveParsed present, serveParsed, Logged.result_bind]
      cases parsed : (parse options condition).result with
      | ok tree =>
          rw [parsed] at accepted
          cases accepted
      | error other =>
          rw [parsed] at accepted
          cases accepted
          rfl

/-- Without attributes, compiling a condition first only shows whether it parses. -/
theorem serveCompiled_of_isEmpty (nothing : attributes.isEmpty = true) :
    (serveCompiled options attributes condition).result =
      (parse options condition).result.map fun _ => false := by
  rw [serveCompiled, Logged.result_bind, compile_result]
  cases (parse options condition).result with
  | error reason => rfl
  | ok tree => exact Compiled.serves_of_isEmpty _ nothing

/-- With attributes, all three ways give the same verdict or the same error; the parser takes blank
conditions for an empty scope, which holds. Without attributes, serving at once is always false, and
compiling first gives false or the error of parsing. -/
theorem serving_paths_agree (options : Options) (attributes : Attributes) (condition : String) :
    (attributes.isEmpty = false →
      (shouldServe options attributes condition).result =
          (serveCompiled options attributes condition).result ∧
        (shouldServe options attributes condition).result =
          (serveParsed options attributes condition).result) ∧
    ((∀ c ∈ condition.toList, isBlank c = true) →
      isBlankText condition = true ∧ (parse options condition).result = .ok (.scope []) ∧
        ((Expression.scope []).evaluate attributes).result = .ok true) ∧
    (attributes.isEmpty = true →
      (shouldServe options attributes condition).result = .ok false ∧
        ((serveCompiled options attributes condition).result = .ok false ↔
          isBlankText condition = true ∨
            ∃ tree, (parse options condition).result = .ok tree) ∧
        ∀ reason, (serveCompiled options attributes condition).result = .error reason ↔
          (parse options condition).result = .error reason) := by
  refine ⟨?_, ?_, ?_⟩
  · intro present
    exact ⟨shouldServe_eq_serveCompiled present, shouldServe_eq_serveParsed present⟩
  · intro all
    have blank := isBlankText_iff.mpr all
    exact ⟨blank, parse_of_blank blank, rfl⟩
  · intro nothing
    refine ⟨shouldServe_of_isEmpty nothing, ?_, ?_⟩
    · rw [serveCompiled_of_isEmpty nothing]
      constructor
      · intro served
        cases parsed : (parse options condition).result with
        | ok tree => exact Or.inr ⟨tree, rfl⟩
        | error reason =>
            rw [parsed] at served
            cases served
      · rintro (blank | ⟨tree, parsed⟩)
        · rw [parse_of_blank blank]
          rfl
        · rw [parsed]
          rfl
    · intro reason
      rw [serveCompiled_of_isEmpty nothing]
      cases (parse options condition).result with
      | ok tree => exact ⟨nofun, nofun⟩
      | error other => simp only [Except.map, Except.error.injEq]

/-- An attribute of the wrong kind, a blank condition that no ASCII space is in, and a malformed
condition without attributes. -/
theorem serving_paths_agree_cases :
    let attributes := NameMap.ofList [("age", .text "old")]
    let nothing : Attributes := NameMap.empty
    attributes.isEmpty = false ∧
      (shouldServe {} attributes "age<35").result =
        (serveCompiled {} attributes "age<35").result ∧
      (shouldServe {} attributes "age<35").result = (serveParsed {} attributes "age<35").result ∧
      (shouldServe {} attributes "age<35").result =
        .error (.typeMismatch "age" .text .number 3) ∧
    (∀ c ∈ "\u2003\t".toList, isBlank c = true) ∧ isBlankText "\u2003\t" = true ∧
      (parse {} "\u2003\t").result = .ok (.scope []) ∧
      ((Expression.scope []).evaluate attributes).result = .ok true ∧
    nothing.isEmpty = true ∧ (shouldServe {} nothing "(age<35").result = .ok false ∧
      (parse {} "(age<35").result = .error (.mismatchedParenthesis 0) ∧
      (serveCompiled {} nothing "(age<35").result = .error (.mismatchedParenthesis 0) := by
  intro attributes nothing
  obtain ⟨same, same'⟩ := (serving_paths_agree {} attributes "age<35").1 rfl
  have blank : ∀ c ∈ "\u2003\t".toList, isBlank c = true :=
    List.all_eq_true.mp (by decide)
  obtain ⟨blank_text, parsed, holds⟩ := (serving_paths_agree {} attributes "\u2003\t").2.1 blank
  obtain ⟨served, -, failed⟩ := (serving_paths_agree {} nothing "(age<35").2.2 rfl
  have error : (serveCompiled {} nothing "(age<35").result =
      .error (.mismatchedParenthesis 0) := by
    decide +kernel
  exact ⟨rfl, same, same', by decide +kernel, blank, blank_text, parsed, holds, rfl, served,
    (failed _).mp error, error⟩

end AdTargeting
