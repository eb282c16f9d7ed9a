import AdTargeting.Proofs.Condition.Laxer
import AdTargeting.Proofs.Evaluation.Reach
import AdTargeting.Proofs.Serving.Paths

set_option autoImplicit false

/-
What of the attributes matters for serving a condition. A verdict depends on the values of the
attributes that are reached, an error on the kinds of values only. Reading and evaluating a
condition have no error in common.
-/

namespace AdTargeting

variable {options : Options} {attributes other : Attributes} {condition : String}

/-- The names that a condition compares, read off one parse of it. -/
theorem name_mem_of_parse {names : List String} {tree : Expression} {comparison : Comparison}
    (read : (parse options condition).result.map
      (fun tree => tree.comparisons.map Comparison.name) = .ok names)
    (parsed : (parse options condition).result = .ok tree)
    (member : comparison ∈ tree.comparisons) : comparison.name ∈ names := by
  rw [parsed] at read
  rw [← Except.ok.inj read]
  exact List.mem_map_of_mem member

section Verdicts

theorem shouldServe_congr (present : attributes.isEmpty = false) (present' : other.isEmpty = false)
    (same : ∀ tree, (parse options condition).result = .ok tree →
      tree.evaluate attributes = tree.evaluate other) :
    shouldServe options attributes condition = shouldServe options other condition := by
  unfold shouldServe
  rw [present, present']
  cases isBlankText condition with
  | true => rfl
  | false => exact Logged.bind_congr same

theorem Compiled.serves_congr {compiled : Compiled} (present : attributes.isEmpty = false)
    (present' : other.isEmpty = false)
    (same : ∀ tree, compiled.tree = some tree → tree.evaluate attributes = tree.evaluate other) :
    compiled.serves attributes = compiled.serves other := by
  unfold serves
  rw [present, present']
  cases kept : compiled.tree with
  | none => rfl
  | some tree => exact same tree kept

/-- Attributes that are not reached make no difference to a tree, neither to its verdict nor to what
is recorded. So two sets of attributes, none of them empty, serve a condition alike when they have
the same values under the names that it compares. -/
theorem serving_depends_on_reached (attributes other : Attributes) :
    (∀ expression : Expression, AgreeOnReached attributes other expression.comparisons →
      expression.evaluate attributes = expression.evaluate other) ∧
    ∀ (options : Options) (condition : String),
      attributes.isEmpty = false → other.isEmpty = false →
      (∀ tree, (parse options condition).result = .ok tree → ∀ comparison ∈ tree.comparisons,
        attributes.get? comparison.name = other.get? comparison.name) →
      shouldServe options attributes condition = shouldServe options other condition ∧
        ∀ compiled, (compile options condition).result = .ok compiled →
          compiled.serves attributes = compiled.serves other := by
  refine ⟨fun expression agree => Expression.evaluate_of_agree agree, ?_⟩
  intro options condition present present' agree
  have same (tree : Expression) (parsed : (parse options condition).result = .ok tree) :
      tree.evaluate attributes = tree.evaluate other := by
    apply Expression.evaluate_of_agree
    intro comparison reached
    exact agree tree parsed comparison reached.mem
  refine ⟨shouldServe_congr present present' same, ?_⟩
  intro compiled accepted
  obtain ⟨tree, parsed, rfl⟩ := exists_parse_of_compile accepted
  apply Compiled.serves_congr present present'
  intro kept found
  cases blank : isBlankText condition with
  | true => simp [blank] at found
  | false =>
      simp only [blank, Bool.false_eq_true, ↓reduceIte, Option.some.injEq] at found
      exact same kept (found ▸ parsed)

/-- The walk ends at the size, which is missing, before the city, of which there are two kinds. The
postcode is not compared at all. -/
theorem serving_depends_on_reached_prefix :
    let attributes := NameMap.ofList [("age", .number (Double.ofInt 25)), ("city", .text "Rome")]
    let other := NameMap.ofList [("age", .number (Double.ofInt 25)),
      ("city", .number (Double.ofInt 3)), ("postcode", .text "00184")]
    let more := attributes.insert "postcode" (.text "00184")
    let older : Comparison := ⟨"age", .greater, .number (Double.ofInt 5), 3⟩
    let smaller : Comparison := ⟨"size", .less, .number (Double.ofInt 3), 12⟩
    let inRome : Comparison := ⟨"city", .equal, .text "Rome", 22⟩
    let tree : Expression := .scope
      [⟨none, .compare older⟩, ⟨some .or, .compare smaller⟩, ⟨some .and, .compare inRome⟩]
    AgreeOnReached attributes other tree.comparisons ∧
      tree.evaluate attributes = tree.evaluate other ∧
      (tree.evaluate attributes).records = [.compared older true, .absent "size"] ∧
    attributes.isEmpty = false ∧ more.isEmpty = false ∧
      (∀ tree, (parse {} "age>5 and city=Rome").result = .ok tree →
        ∀ comparison ∈ tree.comparisons,
          attributes.get? comparison.name = more.get? comparison.name) ∧
      shouldServe {} attributes "age>5 and city=Rome" =
        shouldServe {} more "age>5 and city=Rome" ∧
      (shouldServe {} attributes "age>5 and city=Rome").result = .ok true := by
  intro attributes other more older smaller inRome tree
  have halting : smaller.Halting attributes := ⟨.ok false, .absent rfl⟩
  have agree : AgreeOnReached attributes other tree.comparisons := by
    intro comparison reached
    rcases reaches_cons.mp reached with rfl | ⟨-, reached⟩
    · rfl
    rcases reaches_cons.mp reached with rfl | ⟨runs, -⟩
    · rfl
    · exact absurd halting runs
  have same : ∀ tree, (parse {} "age>5 and city=Rome").result = .ok tree →
      ∀ comparison ∈ tree.comparisons,
        attributes.get? comparison.name = more.get? comparison.name := by
    intro tree parsed comparison member
    have names : (parse {} "age>5 and city=Rome").result.map
        (fun tree => tree.comparisons.map Comparison.name) = .ok ["age", "city"] := by
      decide +kernel
    have compared := name_mem_of_parse names parsed member
    rcases List.mem_cons.mp compared with age | compared
    · rw [age]
      rfl
    · rw [List.mem_singleton.mp compared]
      rfl
  obtain ⟨trees, texts⟩ := serving_depends_on_reached attributes other
  obtain ⟨-, texts'⟩ := serving_depends_on_reached attributes more
  obtain ⟨served, -⟩ := texts' {} "age>5 and city=Rome" rfl rfl same
  exact ⟨agree, trees tree agree, by decide +kernel, rfl, rfl, same, served, by decide +kernel⟩

end Verdicts

section Errors

/-- The errors that a condition gives only when it is tried on attributes. -/
def ConditionError.OfValues (reason : ConditionError) : Prop :=
  reason.kind = .typeMismatch ∨ reason.kind = .illegalStringOperator

theorem not_ofValues_of_parse {reason : ConditionError}
    (failed : (parse options condition).result = .error reason) : ¬ reason.OfValues := by
  have spelled := Token.spells_scan (normalize condition).toList
  have unlike {kind : ErrorKind} (first : kind ≠ .typeMismatch)
      (second : kind ≠ .illegalStringOperator) :
      ¬ (kind = .typeMismatch ∨ kind = .illegalStringOperator) := not_or.mpr ⟨first, second⟩
  cases (parse_eq_error_iff spelled).mp failed with
  | leftOpen faultless innermost => exact unlike nofun nofun
  | shown split faultless fault => cases fault <;> exact unlike nofun nofun

theorem Comparison.Halts.ofValues {comparison : Comparison} {reason : ConditionError}
    (halts : comparison.Halts attributes (.error reason)) : reason.OfValues := by
  cases halts with
  | misfit present kind asks other => exact Or.inl rfl
  | unordered present string other => exact Or.inr rfl

/-- An error of evaluation is that of a comparison that cannot be made. -/
theorem Expression.exists_halts {expression : Expression} {reason : ConditionError}
    (failed : (expression.evaluate attributes).result = .error reason) :
    ∃ comparison ∈ expression.comparisons, comparison.Halts attributes (.error reason) := by
  cases stop : expression.comparisons.findSome? (Comparison.halt? attributes) with
  | none =>
      rw [evaluate_of_run stop] at failed
      cases failed
  | some halt =>
      rw [evaluate_of_stop stop] at failed
      rw [← failed]
      exact exists_halts_of_stop stop

theorem exists_halts_of_shouldServe {reason : ConditionError} (present : attributes.isEmpty = false)
    (failed : (shouldServe options attributes condition).result = .error reason)
    (values : reason.OfValues) :
    ∃ tree, (parse options condition).result = .ok tree ∧
      ∃ comparison ∈ tree.comparisons, comparison.Halts attributes (.error reason) := by
  cases parsed : (parse options condition).result with
  | error other =>
      rw [shouldServe_of_parse_error present parsed] at failed
      cases failed
      exact absurd values (not_ofValues_of_parse parsed)
  | ok tree =>
      rw [shouldServe_of_parse present parsed] at failed
      exact ⟨tree, rfl, Expression.exists_halts failed⟩

theorem parse_error_of_shouldServe {reason : ConditionError} (present : attributes.isEmpty = false)
    (failed : (shouldServe options attributes condition).result = .error reason)
    (unlike : ¬ reason.OfValues) : (parse options condition).result = .error reason := by
  cases parsed : (parse options condition).result with
  | error other =>
      rw [shouldServe_of_parse_error present parsed] at failed
      rw [Except.error.inj failed]
  | ok tree =>
      rw [shouldServe_of_parse present parsed] at failed
      obtain ⟨comparison, -, halts⟩ := Expression.exists_halts failed
      exact absurd halts.ofValues unlike

theorem shouldServe_error_of_kinds {reason : ConditionError} (present : attributes.isEmpty = false)
    (present' : other.isEmpty = false)
    (agree : ∀ tree, (parse options condition).result = .ok tree →
      AgreeOnKinds attributes other tree.comparisons)
    (failed : (shouldServe options attributes condition).result = .error reason) :
    (shouldServe options other condition).result = .error reason := by
  cases parsed : (parse options condition).result with
  | error reason' =>
      rw [shouldServe_of_parse_error present parsed] at failed
      rw [shouldServe_of_parse_error present' parsed, failed]
  | ok tree =>
      rw [shouldServe_of_parse present parsed] at failed
      rw [shouldServe_of_parse present' parsed]
      exact Expression.evaluate_error_of_kinds (agree tree parsed) reason failed

theorem AgreeOnKinds.symm {row : List Comparison} (agree : AgreeOnKinds attributes other row) :
    AgreeOnKinds other attributes row := by
  intro comparison member
  exact (agree comparison member).symm

/-- Errors of two sets of attributes, none of them empty. When the names that a condition compares
are missing in both or have values of one kind in both, the errors are the same. An error that is
not about values is the same for all attributes, since only reading gives it and evaluating gives
none of that sort. An error about values tells the truth about a comparison of the condition and the
value that it looks at. -/
theorem errors_depend_on_kinds {attributes other : Attributes}
    (present : attributes.isEmpty = false) (present' : other.isEmpty = false) (options : Options)
    (condition : String) :
    ((∀ tree, (parse options condition).result = .ok tree →
        AgreeOnKinds attributes other tree.comparisons) →
      ∀ reason, (shouldServe options attributes condition).result = .error reason ↔
        (shouldServe options other condition).result = .error reason) ∧
    (∀ reason, ¬ reason.OfValues →
      ((shouldServe options attributes condition).result = .error reason ↔
        (shouldServe options other condition).result = .error reason)) ∧
    (∀ reason, (parse options condition).result = .error reason → ¬ reason.OfValues) ∧
    (∀ (tree : Expression) (reason : ConditionError),
      (tree.evaluate attributes).result = .error reason → reason.OfValues) ∧
    (∀ name stored literal position,
      (shouldServe options attributes condition).result =
          .error (.typeMismatch name stored literal position) →
        ∃ tree, (parse options condition).result = .ok tree ∧
          ∃ comparison ∈ tree.comparisons, comparison.name = name ∧
            comparison.literal.kind = literal ∧ comparison.position = position ∧
            stored ≠ comparison.literal.needs ∧
            ∃ value, attributes.get? name = some value ∧ value.kind = stored) ∧
    ∀ operator position,
      (shouldServe options attributes condition).result =
          .error (.illegalStringOperator operator position) →
        ∃ tree, (parse options condition).result = .ok tree ∧
          ∃ comparison ∈ tree.comparisons, comparison.operator = operator ∧
            comparison.position = position ∧ operator ≠ .equal ∧
            comparison.literal.kind = .text ∧
            ∃ held, attributes.get? comparison.name = some (.text held) := by
  refine ⟨?_, ?_, fun _ => not_ofValues_of_parse, ?_, ?_, ?_⟩
  · intro agree reason
    constructor
    · exact shouldServe_error_of_kinds present present' agree
    · exact shouldServe_error_of_kinds present' present fun tree parsed => (agree tree parsed).symm
  · intro reason unlike
    constructor
    · intro failed
      exact shouldServe_of_parse_error present' (parse_error_of_shouldServe present failed unlike)
    · intro failed
      exact shouldServe_of_parse_error present (parse_error_of_shouldServe present' failed unlike)
  · intro tree reason failed
    obtain ⟨comparison, -, halts⟩ := tree.exists_halts failed
    exact halts.ofValues
  · intro name stored literal position failed
    obtain ⟨tree, parsed, comparison, member, halts⟩ :=
      exists_halts_of_shouldServe present failed (Or.inl rfl)
    cases halts with
    | misfit found kind asks unfit =>
        exact ⟨tree, parsed, comparison, member, rfl, Literal.hasKind_iff.mp asks, rfl, unfit, _,
          found, AttributeValue.hasKind_iff.mp kind⟩
  · intro operator position failed
    obtain ⟨tree, parsed, comparison, member, halts⟩ :=
      exists_halts_of_shouldServe present failed (Or.inr rfl)
    cases halts with
    | @unordered held value found string unordered =>
        have kind : comparison.literal.kind = .text := by
          rw [string]
          rfl
        exact ⟨tree, parsed, comparison, member, rfl, rfl, unordered, kind, held, found⟩

/-- Two texts for which the verdict before the error differs, and the error does not. A malformed
condition is malformed for attributes of any kind. -/
theorem errors_depend_on_kinds_texts :
    let attributes := NameMap.ofList [("city", .text "Rome"), ("name", .text "Ada")]
    let other := NameMap.ofList [("city", .text "Oslo"), ("name", .text "Bo")]
    let number := NameMap.ofList [("city", .number (Double.ofInt 3))]
    let reason := ConditionError.illegalStringOperator .less 17
    attributes.isEmpty = false ∧ other.isEmpty = false ∧
      (∀ tree, (parse {} "city=Rome and name<B").result = .ok tree →
        AgreeOnKinds attributes other tree.comparisons) ∧
      (shouldServe {} attributes "city=Rome and name<B").result = .error reason ∧
      (shouldServe {} other "city=Rome and name<B").result = .error reason ∧
    ¬ (ConditionError.missingRelation 10).OfValues ∧ number.isEmpty = false ∧
      (shouldServe {} attributes "city=Rome name=B").result = .error (.missingRelation 10) ∧
      (shouldServe {} number "city=Rome name=B").result = .error (.missingRelation 10) ∧
    ∃ tree, (parse {} "city=Rome and name<B").result = .ok tree ∧
      ∃ comparison ∈ tree.comparisons, comparison.operator = .less ∧ comparison.position = 17 ∧
        ∃ held, attributes.get? comparison.name = some (.text held) := by
  intro attributes other number reason
  have agree : ∀ tree, (parse {} "city=Rome and name<B").result = .ok tree →
      AgreeOnKinds attributes other tree.comparisons := by
    intro tree parsed comparison member
    have names : (parse {} "city=Rome and name<B").result.map
        (fun tree => tree.comparisons.map Comparison.name) = .ok ["city", "name"] := by
      decide +kernel
    have compared := name_mem_of_parse names parsed member
    rcases List.mem_cons.mp compared with city | compared
    · rw [city]
      rfl
    · rw [List.mem_singleton.mp compared]
      rfl
  have failed : (shouldServe {} attributes "city=Rome and name<B").result = .error reason := by
    decide +kernel
  have malformed : (shouldServe {} attributes "city=Rome name=B").result =
      .error (.missingRelation 10) := by
    decide +kernel
  have unlike : ¬ (ConditionError.missingRelation 10).OfValues := not_or.mpr ⟨nofun, nofun⟩
  obtain ⟨kinds, -, -, -, -, texts⟩ :=
    @errors_depend_on_kinds attributes other rfl rfl {} "city=Rome and name<B"
  obtain ⟨-, others, -⟩ := @errors_depend_on_kinds attributes number rfl rfl {} "city=Rome name=B"
  obtain ⟨tree, parsed, comparison, member, operator, position, -, -, held⟩ :=
    texts .less 17 failed
  exact ⟨rfl, rfl, agree, failed, (kinds agree reason).mp failed, unlike, rfl, malformed,
    (others _ unlike).mp malformed, tree, parsed, comparison, member, operator, position, held⟩

end Errors

end AdTargeting
