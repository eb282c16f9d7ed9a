import AdTargeting.Proofs.Condition.Laxer
import AdTargeting.Proofs.Condition.Parallel
import AdTargeting.Proofs.Condition.Place

set_option autoImplicit false

/-
The switches for intervals and sets. They say what a literal of a certain shape stands for, and with
intervals some literals are malformed; nothing else in a condition depends on them.
-/

namespace AdTargeting

def IntervalShaped (text : List Char) : Prop :=
  text.head? = some '[' ∧ text.getLast? = some ']' ∧ '-' ∈ text

namespace Literal

variable {options options' : Options} {text : List Char}

theorem intervalShaped_of_betweenBrackets {bounds : List Char}
    (bracketed : betweenBrackets text = some bounds) : IntervalShaped text := by
  obtain ⟨rfl, hyphen⟩ := eq_of_betweenBrackets bracketed
  refine ⟨rfl, List.getLast?_concat, ?_⟩
  exact List.mem_append_left _ (List.mem_cons_of_mem _ hyphen)

theorem classify_eq_none_iff :
    classify options text = none ↔
      Double.readFinite text = none ∧ options.numericIntervals = true ∧
        ∃ bounds, betweenBrackets text = some bounds ∧ readBounds bounds = none := by
  constructor
  · intro refused
    rcases classify_shapes options text with
      ⟨value, -, found⟩ | ⟨bounds, other, enabled, bracketed, found⟩ | ⟨-, -, literal, found, -⟩
    · rw [refused] at found
      cases found
    · exact ⟨other, enabled, bounds, bracketed, found.symm.trans refused⟩
    · rw [refused] at found
      cases found
  · rintro ⟨other, enabled, bounds, bracketed, refused⟩
    rw [classify_of_bracketed other enabled bracketed, refused]

theorem readBounds_ne_number (bounds : List Char) (value : Double) :
    readBounds bounds ≠ some (number value) := by
  intro found
  obtain ⟨low, high, lower, upper, -, -, -, same⟩ := bounds_of_readBounds found
  cases same

theorem classify_eq_number_iff {value : Double} :
    classify options text = some (number value) ↔ Double.readFinite text = some value := by
  refine ⟨fun found => ?_, classify_of_readFinite⟩
  rcases classify_shapes options text with
    ⟨other, numeral, read⟩ | ⟨bounds, -, -, -, read⟩ | ⟨-, -, literal, read, unlike⟩
  · rw [found] at read
    cases read
    exact numeral
  · rw [found] at read
    exact absurd read.symm (readBounds_ne_number bounds value)
  · rw [found] at read
    exact absurd (Option.some.inj read).symm (unlike value)

theorem classify_of_plain (unshaped : ¬ IntervalShaped text) (single : ',' ∉ text) :
    classify options text = classify options' text := by
  cases numeral : Double.readFinite text with
  | some value => rw [classify_of_readFinite numeral, classify_of_readFinite numeral]
  | none =>
      have no_bounds : betweenBrackets text = none := by
        cases bracketed : betweenBrackets text with
        | none => rfl
        | some bounds => exact absurd (intervalShaped_of_betweenBrackets bracketed) unshaped
      rw [classify_of_unbracketed numeral (Or.inr no_bounds),
        classify_of_unbracketed numeral (Or.inr no_bounds), if_neg (fun both => single both.2),
        if_neg (fun both => single both.2)]

end Literal

def Comparison.literalText (text : List Char) (comparison : Comparison) : List Char :=
  (text.drop (comparison.position + comparison.operator.width)).takeWhile inLiteral

theorem Token.StandsIn.literalText_eq {text run : List Char} {name : String}
    {start position : Nat} {operator : Operator}
    (stands : (Token.comparison name start operator position run).StandsIn text)
    (literal : Literal) :
    (Comparison.mk name operator literal position).literalText text = run := by
  obtain ⟨rest, here, inside, boundary⟩ := stands
  have behind : text.drop (position + operator.width) = run ++ rest := by
    rw [← List.drop_drop, here, ← operator.length_symbol, List.drop_left]
  rw [Comparison.literalText, behind, takeWhile_literal inside boundary]

/-- Two comparisons of a text that differ at most in what their one literal stands for. They both
have the same number or neither has one, and a difference shows in the shape of the literal. -/
structure Comparison.SameButLiteral (text : List Char) (left right : Comparison) : Prop where
  name : left.name = right.name
  operator : left.operator = right.operator
  position : left.position = right.position
  number : ∀ value, left.literal = .number value ↔ right.literal = .number value
  literal : left.literal ≠ right.literal →
    IntervalShaped (left.literalText text) ∨ ',' ∈ left.literalText text

/-- Tokens of a text are read under all options as comparisons that differ in the literal only. -/
theorem Token.StandsIn.readsAlike {text : List Char} {token : Token} (stands : token.StandsIn text)
    (options options' : Options) :
    token.ReadsAlike options options' (Comparison.SameButLiteral text) := by
  cases token with
  | comparison name start operator position literal =>
      intro left right classified classified'
      have written := stands.literalText_eq left
      refine ⟨rfl, rfl, rfl, ?_, ?_⟩
      · intro value
        have first := @Literal.classify_eq_number_iff options literal value
        have second := @Literal.classify_eq_number_iff options' literal value
        rw [classified, Option.some.injEq] at first
        rw [classified', Option.some.injEq] at second
        exact first.trans second.symm
      · intro differ
        rw [written]
        by_cases shaped : IntervalShaped literal
        · exact Or.inl shaped
        · by_cases single : ',' ∈ literal
          · exact Or.inr single
          · have same := @Literal.classify_of_plain options options' literal shaped single
            rw [classified, classified'] at same
            exact absurd (Option.some.inj same) differ
  | opening position => trivial
  | closing position => trivial
  | relation value doubled => trivial
  | stray name start => trivial

/-- Two options accept a condition alike when both parse it or both fail with the same error. -/
structure AcceptAlike (options options' : Options) (condition : String) : Prop where
  trees : (∃ tree, (parse options condition).result = .ok tree) ↔
    ∃ tree, (parse options' condition).result = .ok tree
  errors : ∀ reason, (parse options condition).result = .error reason ↔
    (parse options' condition).result = .error reason

theorem AcceptAlike.symm {options options' : Options} {condition : String}
    (alike : AcceptAlike options options' condition) : AcceptAlike options' options condition :=
  ⟨alike.trees.symm, fun reason => (alike.errors reason).symm⟩

/-- Options that are laxer about literals only accept a condition alike unless its first fault is a
literal that they accept. -/
theorem AcceptAlike.of_laxer {strict lax : Options} {condition : String}
    (laxer : strict.Laxer lax) (depth : lax.maxDepth = strict.maxDepth)
    (literals : ∀ reason, (parse strict condition).result = .error reason →
      reason.kind = .malformedInterval →
        ∀ text, Literal.classify strict text = none → Literal.classify lax text = none) :
    AcceptAlike strict lax condition := by
  cases outcome : (parse strict condition).result with
  | ok tree =>
      obtain ⟨again, parsed⟩ := exists_parse_of_laxer laxer outcome
      refine ⟨?_, ?_⟩
      · rw [outcome, parsed]
        exact ⟨fun _ => ⟨again, rfl⟩, fun _ => ⟨tree, rfl⟩⟩
      · intro reason
        rw [outcome, parsed]
        exact ⟨nofun, nofun⟩
  | error reason =>
      have failed := parse_error_of_laxer laxer outcome (fun _ => depth) (literals reason outcome)
      refine ⟨?_, ?_⟩
      · rw [outcome, failed]
      · intro other
        rw [outcome, failed]

/-- What the switches change. That of sets changes no error; without intervals no literal is
malformed, and conditions that have no malformed literal first are accepted alike with them. Trees
differ only in what literals stand for, and only where the shape of a literal leaves it open. -/
theorem parse_switches {options options' : Options} (condition : String)
    (depth : options.maxDepth = options'.maxDepth) :
    (options.numericIntervals = options'.numericIntervals →
      AcceptAlike options options' condition) ∧
    (options.numericIntervals = false →
      (∀ reason, (parse options condition).result = .error reason →
        reason.kind ≠ .malformedInterval) ∧
      ((∀ reason, (parse { options with numericIntervals := true } condition).result =
          .error reason → reason.kind ≠ .malformedInterval) →
        AcceptAlike options { options with numericIntervals := true } condition)) ∧
    ∀ tree tree', (parse options condition).result = .ok tree →
      (parse options' condition).result = .ok tree' →
        tree.Parallel (Comparison.SameButLiteral (normalize condition).toList) tree' ∧
          tree.depth = tree'.depth ∧ tree.comparisons.length = tree'.comparisons.length := by
  have spelled := Token.spells_scan (normalize condition).toList
  refine ⟨?_, ?_, ?_⟩
  · intro intervals
    have refused (text : List Char) :
        Literal.classify options text = none ↔ Literal.classify options' text = none := by
      rw [Literal.classify_eq_none_iff, Literal.classify_eq_none_iff, intervals]
    have laxer : options.Laxer options' :=
      ⟨Nat.le_of_eq depth, fun text => (refused text).mpr⟩
    exact .of_laxer laxer depth.symm fun _ _ _ text => (refused text).mp
  · intro off
    have accepted (text : List Char) : Literal.classify options text ≠ none := by
      intro refused
      obtain ⟨-, on, -⟩ := Literal.classify_eq_none_iff.mp refused
      rw [off] at on
      cases on
    refine ⟨?_, ?_⟩
    · intro reason failed malformed
      cases (parse_eq_error_iff spelled).mp failed with
      | leftOpen faultless innermost => cases malformed
      | shown split faultless fault =>
          cases fault with
          | malformedInterval nonempty refused => exact accepted _ refused
          | nestingTooDeep full => cases malformed
          | unmatchedClose closed => cases malformed
          | groupUnrelated innermost awaits => cases malformed
          | danglingOperator => cases malformed
          | comparisonUnrelated nonempty classified awaits => cases malformed
    · intro formed
      have laxer : Options.Laxer { options with numericIntervals := true } options :=
        ⟨Nat.le_refl _, fun text refused => absurd refused (accepted text)⟩
      apply AcceptAlike.symm
      apply AcceptAlike.of_laxer laxer rfl
      intro reason failed malformed
      exact absurd malformed (formed reason failed)
  · intro tree tree' parsed parsed'
    have reads : ∀ token ∈ Token.scan (normalize condition).toList,
        token.ReadsAlike options options'
          (Comparison.SameButLiteral (normalize condition).toList) := by
      intro token member
      exact (spelled.standsIn token member).readsAlike options options'
    have parallel := parallel_of_parse spelled reads parsed parsed'
    exact ⟨parallel, parallel.depth, parallel.length_comparisons⟩

/-- An interval with a bound too many, a relation that is missing behind an interval, and literals
that are an interval and plain text under one choice, and plain text and a set under another. -/
theorem parse_switches_shapes :
    let unbounded : Options := { numericIntervals := false }
    let single : Options := { stringSets := false }
    let condition := "a=[1-2] or b=x,y"
    unbounded.maxDepth = single.maxDepth ∧ AcceptAlike {} single "a=[1-2-3] or b=x,y" ∧
      AcceptAlike unbounded {} "a=[1-2] b=3" ∧
      ∃ tree tree', (parse unbounded condition).result = .ok tree ∧
        (parse single condition).result = .ok tree' ∧
        tree.comparisons.map (fun comparison => comparison.literal.kind) = [.text, .set] ∧
        tree'.comparisons.map (fun comparison => comparison.literal.kind) = [.interval, .text] ∧
        tree.Parallel (Comparison.SameButLiteral (normalize condition).toList) tree' := by
  intro unbounded single condition
  have formed (reason : ConditionError) (failed : (parse {} "a=[1-2] b=3").result = .error reason) :
      reason.kind ≠ .malformedInterval := by
    have unrelated : (parse {} "a=[1-2] b=3").result = .error (.missingRelation 8) :=
      eq_error_of_map (by decide +kernel)
    rw [failed] at unrelated
    cases unrelated
    decide
  obtain ⟨tree, parsed, read⟩ : ∃ tree, (parse unbounded condition).result = .ok tree ∧
      tree.comparisons.map (fun comparison => comparison.literal.kind) = [.text, .set] :=
    exists_ok_of_map (by decide +kernel)
  obtain ⟨tree', parsed', read'⟩ : ∃ tree, (parse single condition).result = .ok tree ∧
      tree.comparisons.map (fun comparison => comparison.literal.kind) = [.interval, .text] :=
    exists_ok_of_map (by decide +kernel)
  obtain ⟨sets, -, -⟩ := @parse_switches {} single "a=[1-2-3] or b=x,y" rfl
  obtain ⟨-, intervals, -⟩ := @parse_switches unbounded {} "a=[1-2] b=3" rfl
  obtain ⟨-, -, trees⟩ := @parse_switches unbounded single condition rfl
  obtain ⟨-, alike⟩ := intervals rfl
  obtain ⟨parallel, -, -⟩ := trees tree tree' parsed parsed'
  exact ⟨rfl, sets rfl, alike formed, tree, tree', parsed, parsed', read, read', parallel⟩

end AdTargeting
