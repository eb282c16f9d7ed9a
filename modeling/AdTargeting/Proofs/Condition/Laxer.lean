import AdTargeting.Proofs.Condition.Acceptance

set_option autoImplicit false

/-
Options that refuse less than others. A row without a fault has none under laxer options, and its
first fault stays the first one as long as laxer options still count it as one.
-/

namespace AdTargeting

/-- The second options have no smaller limit and refuse no other literals. -/
structure Options.Laxer (strict lax : Options) : Prop where
  depth : strict.maxDepth ≤ lax.maxDepth
  literals : ∀ text, Literal.classify lax text = none → Literal.classify strict text = none

section Faults

variable {strict lax : Options} {row before : List Token} {token : Token} {reason : ConditionError}

/-- What is wrong under laxer options is wrong under strict ones, if not for the same reason. -/
theorem Fault.of_lax (fault : Fault lax before token reason) (laxer : strict.Laxer lax) :
    ∃ other, Fault strict before token other := by
  cases fault with
  | nestingTooDeep full =>
      have depth := laxer.depth
      exact ⟨_, .nestingTooDeep (by omega)⟩
  | unmatchedClose closed => exact ⟨_, .unmatchedClose closed⟩
  | groupUnrelated innermost awaits => exact ⟨_, .groupUnrelated innermost awaits⟩
  | danglingOperator => exact ⟨_, .danglingOperator⟩
  | malformedInterval nonempty rejected =>
      exact ⟨_, .malformedInterval nonempty (laxer.literals _ rejected)⟩
  | @comparisonUnrelated name start operator position text literal nonempty classified awaits =>
      cases verdict : Literal.classify strict text with
      | none => exact ⟨_, .malformedInterval nonempty verdict⟩
      | some other => exact ⟨_, .comparisonUnrelated nonempty verdict awaits⟩

theorem Faultless.of_strict (faultless : Faultless strict row) (laxer : strict.Laxer lax) :
    Faultless lax row := by
  intro before token after reason split fault
  obtain ⟨other, shown⟩ := fault.of_lax laxer
  exact faultless before token after other split shown

/-- A fault stays one under laxer options, unless it is of a kind that they are laxer about. -/
theorem Fault.of_strict (fault : Fault strict before token reason) (laxer : strict.Laxer lax)
    (depth : reason.kind = .nestingTooDeep → lax.maxDepth = strict.maxDepth)
    (literals : reason.kind = .malformedInterval →
      ∀ text, Literal.classify strict text = none → Literal.classify lax text = none) :
    Fault lax before token reason := by
  cases fault with
  | nestingTooDeep full =>
      have same := depth rfl
      rw [← same] at full ⊢
      exact .nestingTooDeep full
  | unmatchedClose closed => exact .unmatchedClose closed
  | groupUnrelated innermost awaits => exact .groupUnrelated innermost awaits
  | danglingOperator => exact .danglingOperator
  | malformedInterval nonempty rejected =>
      exact .malformedInterval nonempty (literals rfl _ rejected)
  | @comparisonUnrelated name start operator position text literal nonempty classified awaits =>
      cases verdict : Literal.classify lax text with
      | some other => exact .comparisonUnrelated nonempty verdict awaits
      | none =>
          rw [laxer.literals text verdict] at classified
          cases classified

theorem FirstFault.of_strict (first : FirstFault strict row reason) (laxer : strict.Laxer lax)
    (depth : reason.kind = .nestingTooDeep → lax.maxDepth = strict.maxDepth)
    (literals : reason.kind = .malformedInterval →
      ∀ text, Literal.classify strict text = none → Literal.classify lax text = none) :
    FirstFault lax row reason := by
  cases first with
  | shown split faultless fault =>
      exact .shown split (faultless.of_strict laxer) (fault.of_strict laxer depth literals)
  | leftOpen faultless innermost => exact .leftOpen (faultless.of_strict laxer) innermost

end Faults

section Parsing

variable {options strict lax : Options} {condition : String} {row : List Token}
  {reason : ConditionError}

theorem parse_eq_error_iff (spelled : Token.Spells .none 0 (normalize condition).toList row) :
    (parse options condition).result = .error reason ↔ FirstFault options row reason := by
  rcases parse_outcome options spelled with
    ⟨other, refused, shown⟩ | ⟨terms, read, parsed, content, faultless⟩
  · rw [refused]
    constructor
    · intro same
      cases same
      exact shown
    · intro first
      rw [first.unique shown]
  · rw [parsed]
    constructor
    · nofun
    · intro first
      exact absurd first ((faultless.accepted content.matched).not_firstFault reason)

/-- What parses under strict options parses under laxer ones. -/
theorem exists_parse_of_laxer {tree : Expression} (laxer : strict.Laxer lax)
    (parsed : (parse strict condition).result = .ok tree) :
    ∃ again, (parse lax condition).result = .ok again := by
  have spelled := Token.spells_scan (normalize condition).toList
  rcases parse_outcome strict spelled with ⟨reason, refused, -⟩ | ⟨terms, read, -, content, clean⟩
  · rw [parsed] at refused
    cases refused
  · have accepted := (clean.of_strict laxer).accepted content.matched
    cases outcome : (parse lax condition).result with
    | ok again => exact ⟨again, rfl⟩
    | error reason =>
        have first := (parse_eq_error_iff spelled).mp outcome
        exact absurd first (accepted.not_firstFault reason)

/-- An error is the same under laxer options, unless it is of a kind that they are laxer about. -/
theorem parse_error_of_laxer (laxer : strict.Laxer lax)
    (failed : (parse strict condition).result = .error reason)
    (depth : reason.kind = .nestingTooDeep → lax.maxDepth = strict.maxDepth)
    (literals : reason.kind = .malformedInterval →
      ∀ text, Literal.classify strict text = none → Literal.classify lax text = none) :
    (parse lax condition).result = .error reason := by
  have spelled := Token.spells_scan (normalize condition).toList
  have first := (parse_eq_error_iff spelled).mp failed
  exact (parse_eq_error_iff spelled).mpr (first.of_strict laxer depth literals)

end Parsing

end AdTargeting
