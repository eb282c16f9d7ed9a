import AdTargeting.Proofs.Condition.Enclosed
import AdTargeting.Proofs.Condition.Laxer
import AdTargeting.Proofs.Condition.Normalization
import AdTargeting.Proofs.Condition.Parentheses
import AdTargeting.Proofs.Condition.Place

set_option autoImplicit false

/-
The limit of nesting. It decides nothing but whether a scope may be opened: under a larger limit the
same conditions give the same trees and the same errors, up to the first scope that is too deep.
-/

namespace AdTargeting

/-- The first fault of a row shows after a beginning of it, or at its end. -/
inductive FaultAfter (options : Options) (before rest : List Token) : ConditionError → Prop
  | shown {between late : List Token} {token : Token} {reason : ConditionError}
      (split : rest = between ++ token :: late) (faultless : Faultless options (before ++ between))
      (fault : Fault options (before ++ between) token reason) :
      FaultAfter options before rest reason
  | leftOpen {around : List Token} {position : Nat} (faultless : Faultless options (before ++ rest))
      (innermost : Token.InnermostOpen (before ++ rest) around position) :
      FaultAfter options before rest (.mismatchedParenthesis position)

/-- No fault of a row shows within a faultless beginning of it. -/
theorem FirstFault.after {options : Options} {before rest : List Token} {reason : ConditionError}
    (first : FirstFault options (before ++ rest) reason) (faultless : Faultless options before) :
    FaultAfter options before rest reason := by
  cases first with
  | leftOpen clean innermost => exact .leftOpen clean innermost
  | @shown early late token _ split clean fault =>
      rcases List.append_eq_append_iff.mp split with ⟨between, rfl, rest_split⟩ | ⟨gap, whole, tail⟩
      · exact .shown rest_split clean fault
      · cases gap with
        | nil =>
            rw [List.append_nil] at whole
            rw [← whole, ← List.append_nil before] at clean fault
            have here : rest = [] ++ token :: late := tail.symm
            exact .shown here clean fault
        | cons next gap =>
            obtain ⟨rfl, rfl⟩ := List.cons.inj tail
            exact absurd fault (faultless _ _ _ _ whole)

section Limits

variable {options : Options} {condition : String} {row : List Token}

theorem Options.laxer_maxDepth {larger : Nat} (within : options.maxDepth ≤ larger) :
    options.Laxer { options with maxDepth := larger } :=
  ⟨within, fun _ refused => refused⟩

/-- A row with no more openings than the limit shows no scope that is too deep. -/
theorem FirstFault.ne_nestingTooDeep {reason : ConditionError}
    (first : FirstFault options row reason) (few : Token.openings row ≤ options.maxDepth) :
    reason.kind ≠ .nestingTooDeep := by
  intro deep
  cases first with
  | leftOpen faultless innermost => cases deep
  | @shown before after token _ split faultless fault =>
      cases fault with
      | @nestingTooDeep position full =>
          rw [split, Token.openings_append, Token.openings_opening] at few
          omega
      | unmatchedClose closed => cases deep
      | groupUnrelated innermost awaits => cases deep
      | danglingOperator => cases deep
      | malformedInterval nonempty rejected => cases deep
      | comparisonUnrelated nonempty classified awaits => cases deep

/-- Where a scope is too deep, exactly as many are open as may be, and it is the first scope opened
there. -/
theorem FirstFault.at_limit {limit position : Nat}
    (first : FirstFault options row (.nestingTooDeep limit position)) :
    limit = options.maxDepth ∧ ∃ before after, row = before ++ .opening position :: after ∧
      Faultless options before ∧
      Token.openings before = Token.closings before + options.maxDepth ∧
      ∀ early place late, before = early ++ .opening place :: late →
        Token.openings early ≠ Token.closings early + options.maxDepth := by
  cases first with
  | @shown before after _ _ split faultless fault =>
      cases fault with
      | nestingTooDeep full =>
          have below := faultless.shallow before List.prefix_rfl
          refine ⟨rfl, before, after, split, faultless, by omega, ?_⟩
          intro early place late earlier same
          exact faultless early _ late _ earlier (.nestingTooDeep (by omega))

theorem parse_maxDepth_iff {larger : Nat} (within : options.maxDepth ≤ larger)
    (tree : Expression) :
    (parse options condition).result = .ok tree ↔
      (parse { options with maxDepth := larger } condition).result = .ok tree ∧
        tree.depth ≤ options.maxDepth + 1 := by
  constructor
  · intro parsed
    obtain ⟨row, terms, read, spelled, content, rfl, fits⟩ := content_of_parse parsed
    have room : Expression.termDepth terms ≤ larger := by omega
    refine ⟨parse_of_content spelled (content.with_maxDepth larger) room, ?_⟩
    rw [Expression.depth]
    omega
  · rintro ⟨parsed, shallow⟩
    obtain ⟨row, terms, read, spelled, content, rfl, -⟩ := content_of_parse parsed
    rw [Expression.depth] at shallow
    exact parse_of_content spelled (content.with_maxDepth options.maxDepth) (by omega)

end Limits

/-- Raising the limit of nesting. A condition that parses gives the same tree, and just the trees
that are not too deep are refused under the smaller limit. All errors but that of a scope too deep
stay as they are; that one stands where the limit is first exceeded, and with the larger limit no
error shows before that place. A limit of as many scopes as the condition has parentheses is never
exceeded. -/
theorem parse_larger_maxDepth {options : Options} {larger : Nat} {condition : String}
    {row : List Token} (within : options.maxDepth ≤ larger)
    (spelled : Token.Spells .none 0 (normalize condition).toList row) :
    let lax := { options with maxDepth := larger }
    (∀ tree, (parse options condition).result = .ok tree ↔
      (parse lax condition).result = .ok tree ∧ tree.depth ≤ options.maxDepth + 1) ∧
    (∀ reason, (parse options condition).result = .error reason →
      reason.kind ≠ .nestingTooDeep → (parse lax condition).result = .error reason) ∧
    (∀ limit position, (parse options condition).result = .error (.nestingTooDeep limit position) →
      limit = options.maxDepth ∧ (normalize condition).toList[position]? = some '(' ∧
        ∃ before after, row = before ++ .opening position :: after ∧
          Token.openings before = Token.closings before + options.maxDepth ∧
          (∀ early place late, before = early ++ .opening place :: late →
            Token.openings early ≠ Token.closings early + options.maxDepth) ∧
          ∀ reason, (parse lax condition).result = .error reason →
            FaultAfter lax before (.opening position :: after) reason) ∧
    (condition.toList.count '(' ≤ larger → ∀ limit position,
      (parse lax condition).result ≠ .error (.nestingTooDeep limit position)) := by
  intro lax
  have laxer := Options.laxer_maxDepth within
  refine ⟨parse_maxDepth_iff within, ?_, ?_, ?_⟩
  · intro reason failed shallow
    exact parse_error_of_laxer laxer failed (fun deep => absurd deep shallow)
      fun _ _ rejected => rejected
  · intro limit position failed
    have first := (parse_eq_error_iff spelled).mp failed
    obtain ⟨same, before, after, rfl, faultless, full, earliest⟩ := first.at_limit
    have member : .opening position ∈ before ++ .opening position :: after :=
      List.mem_append_right before List.mem_cons_self
    have stands : (normalize condition).toList[position]? = some '(' :=
      spelled.standsIn _ member
    refine ⟨same, stands, before, after, rfl, full, earliest, ?_⟩
    intro reason refused
    have shown := (parse_eq_error_iff spelled).mp refused
    exact shown.after (faultless.of_strict laxer)
  · intro few limit position failed
    have first := (parse_eq_error_iff spelled).mp failed
    have openings := spelled.openings_le
    rw [normalize, String.toList_ofList, count_shortSpelling _ (by decide) (by decide)] at openings
    exact first.ne_nestingTooDeep (Nat.le_trans openings few) rfl

/-- Under the smaller limit the second scope is too deep; under the larger one it is read, and a
relation is missing behind it. -/
theorem parse_larger_maxDepth_refused :
    let condition := "(a=1 or (b=2) c=3"
    1 ≤ 2 ∧ (parse { maxDepth := 1 } condition).result = .error (.nestingTooDeep 1 8) ∧
      (normalize condition).toList[8]? = some '(' ∧
      (parse { maxDepth := 2 } condition).result = .error (.missingRelation 14) ∧
      ∃ before after, Token.scan (normalize condition).toList = before ++ .opening 8 :: after ∧
        Token.openings before = Token.closings before + 1 ∧
        FaultAfter { maxDepth := 2 } before (.opening 8 :: after) (.missingRelation 14) := by
  intro condition
  have deep : (parse { maxDepth := 1 } condition).result = .error (.nestingTooDeep 1 8) :=
    eq_error_of_map (by decide +kernel)
  have unrelated : (parse { maxDepth := 2 } condition).result = .error (.missingRelation 14) :=
    eq_error_of_map (by decide +kernel)
  have spelled := Token.spells_scan (normalize condition).toList
  have within : (1 : Nat) ≤ 2 := by decide
  obtain ⟨-, -, at_limit, -⟩ := @parse_larger_maxDepth { maxDepth := 1 } 2 _ _ within spelled
  obtain ⟨-, stands, before, after, split, full, -, later⟩ := at_limit 1 8 deep
  exact ⟨within, deep, stands, unrelated, before, after, split, full, later _ unrelated⟩

end AdTargeting
