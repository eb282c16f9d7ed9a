import AdTargeting.Proofs.Condition.Enclosed
import AdTargeting.Proofs.Condition.Normalization
import AdTargeting.Proofs.Evaluation.Positions
import AdTargeting.Proofs.Serving.Blank

set_option autoImplicit false

/-
Two conditions, each in parentheses, joined by a relation. Neither is read differently for the text
around it, and the verdict on both follows from the two verdicts.
-/

namespace AdTargeting

/-- Each condition in parentheses, with a relation as a word between them. -/
def joinedText (relation : Relation) (left right : String) : String :=
  "(" ++ left ++ ") " ++ relation.word ++ " (" ++ right ++ ")"

/-- The parentheses keep the short spellings of the conditions apart. -/
theorem normalize_joinedText (relation : Relation) (left right : String) :
    (normalize (joinedText relation left right)).toList =
      '(' :: ((normalize left).toList ++ ')' ::
        (' ' :: relation.mark :: relation.mark :: ' ' :: '(' ::
          ((normalize right).toList ++ [')']))) := by
  have opening : '(' ∉ soughtCharacters := by decide
  have closing : ')' ∉ soughtCharacters := by decide
  have connector : shortSpelling (' ' :: (relation.word.toList ++ [' '])) =
      [' ', relation.mark, relation.mark, ' '] := by
    cases relation <;> rfl
  have text : (joinedText relation left right).toList =
      [] ++ '(' :: (left.toList ++ ')' :: ((' ' :: (relation.word.toList ++ [' '])) ++
        '(' :: (right.toList ++ ')' :: []))) := by
    simp [joinedText]
  simp only [normalize, String.toList_ofList]
  rw [text, shortSpelling_around _ _ opening, shortSpelling_around _ _ closing,
    shortSpelling_around _ _ opening, shortSpelling_around _ _ closing, connector]
  rfl

def joinedRow (relation : Relation) (size last : Nat) (leftRow rightRow : List Token) :
    List Token :=
  .opening 0 :: (leftRow.map (Token.shift 1) ++ .closing (size + 1) ::
    .relation relation true :: .opening (size + 6) ::
      (rightRow.map (Token.shift (size + 7)) ++ [.closing last]))

theorem spells_joinedRow {leftText rightText : List Char} {leftRow rightRow : List Token}
    (leftSpelled : Token.Spells .none 0 leftText leftRow)
    (rightSpelled : Token.Spells .none 0 rightText rightRow) (relation : Relation) :
    Token.Spells .none 0
      ('(' :: (leftText ++ ')' ::
        (' ' :: relation.mark :: relation.mark :: ' ' :: '(' :: (rightText ++ [')']))))
      (joinedRow relation leftText.length (leftText.length + 7 + rightText.length) leftRow
        rightRow) := by
  have ended : Token.Spells .none (leftText.length + 7 + rightText.length + 1) [] [] :=
    .finish .none _
  have second := rightSpelled.enclosed
    (show leftText.length + 7 = 0 + (leftText.length + 7) by omega)
    (show leftText.length + 7 + rightText.length = _ from rfl) ended
  have between : Token.Spells .none (leftText.length + 1 + 1)
      (' ' :: relation.mark :: relation.mark :: ' ' :: '(' :: (rightText ++ [')']))
      (.relation relation true :: .opening (leftText.length + 6) ::
        (rightRow.map (Token.shift (leftText.length + 7)) ++
          [.closing (leftText.length + 7 + rightText.length)])) :=
    .blank (by decide) (.doubled relation (.blank (by decide) (.opening second)))
  have first := leftSpelled.enclosed (show 1 = 0 + 1 from rfl)
    (show leftText.length + 1 = 1 + leftText.length by omega) between
  exact .opening first

theorem content_joinedRow {options : Options} {leftRow rightRow : List Token}
    {leftTerms rightTerms : List Term} {leftRead rightRead : Option Relation}
    (leftContent : Content options leftRow leftTerms leftRead)
    (rightContent : Content options rightRow rightTerms rightRead) (relation : Relation)
    (size last : Nat) :
    Content options (joinedRow relation size last leftRow rightRow)
      [⟨none, .scope (Expression.shiftTerms 1 leftTerms)⟩,
        ⟨some relation, .scope (Expression.shiftTerms (size + 7) rightTerms)⟩] none := by
  have first := Content.empty.group (leftContent.shift 1) (.first none) 0 (size + 1)
  have related := first.relation relation true
  have both := related.group (rightContent.shift (size + 7))
    (.later relation (List.cons_ne_nil _ _)) (size + 6) last
  simpa [joinedRow] using both

section Parsing

variable {options : Options} {left right : String} {leftTerms rightTerms : List Term}

/-- Joined conditions parse to the two trees, further on, as groups of one scope. -/
theorem parse_joinedText (leftParsed : (parse options left).result = .ok (.scope leftTerms))
    (rightParsed : (parse options right).result = .ok (.scope rightTerms)) (relation : Relation) :
    (parse { options with maxDepth := options.maxDepth + 1 }
      (joinedText relation left right)).result =
        .ok (.scope [⟨none, .scope (Expression.shiftTerms 1 leftTerms)⟩,
          ⟨some relation,
            .scope (Expression.shiftTerms ((normalize left).length + 7) rightTerms)⟩]) := by
  obtain ⟨leftRow, terms, leftRead, leftSpelled, leftContent, same, leftFits⟩ :=
    content_of_parse leftParsed
  cases same
  obtain ⟨rightRow, terms, rightRead, rightSpelled, rightContent, same, rightFits⟩ :=
    content_of_parse rightParsed
  cases same
  have spelled := spells_joinedRow leftSpelled rightSpelled relation
  rw [← normalize_joinedText, String.length_toList] at spelled
  have content := content_joinedRow (leftContent.with_maxDepth (options.maxDepth + 1))
    (rightContent.with_maxDepth (options.maxDepth + 1)) relation (normalize left).length
    ((normalize left).length + 7 + (normalize right).toList.length)
  apply parse_of_content spelled content
  simp only [Expression.termDepth, Expression.depth, Expression.termDepth_shiftTerms]
  omega

end Parsing

namespace Expression

variable {attributes : Attributes} {left right : Expression} {verdict verdict' : Bool}

theorem stop_ne_absent {expression : Expression}
    (present : ∀ comparison ∈ expression.comparisons,
      attributes.contains comparison.name = true) :
    expression.comparisons.findSome? (Comparison.halt? attributes) ≠ some .absent := by
  intro stop
  obtain ⟨comparison, member, halts⟩ := exists_halts_of_stop stop
  have missing := (Comparison.halts_ok_iff.mp halts).1
  rw [present comparison member] at missing
  cases missing

theorem stop_pair (relation : Relation) :
    (scope [⟨none, left⟩, ⟨some relation, right⟩]).comparisons.findSome?
        (Comparison.halt? attributes) =
      (left.comparisons.findSome? (Comparison.halt? attributes)).or
        (right.comparisons.findSome? (Comparison.halt? attributes)) := by
  simp only [comparisons, termComparisons, List.append_nil, List.findSome?_append]

theorem evaluate_and (leftEvaluated : (left.evaluate attributes).result = .ok verdict)
    (rightEvaluated : (right.evaluate attributes).result = .ok verdict') :
    ((scope [⟨none, left⟩, ⟨some .and, right⟩]).evaluate attributes).result =
      .ok (verdict && verdict') := by
  have pair := @stop_pair attributes left right .and
  rcases evaluate_ok_cases leftEvaluated with ⟨stop, rfl⟩ | ⟨run, rfl⟩
  · rw [stop, Option.some_or] at pair
    exact evaluate_of_stop pair
  · rw [run, Option.none_or] at pair
    rcases evaluate_ok_cases rightEvaluated with ⟨stop, rfl⟩ | ⟨run', rfl⟩
    · rw [Bool.and_false]
      exact evaluate_of_stop (pair.trans stop)
    · exact evaluate_of_run (pair.trans run')

theorem evaluate_or (leftEvaluated : (left.evaluate attributes).result = .ok verdict)
    (rightEvaluated : (right.evaluate attributes).result = .ok verdict')
    (present : ∀ comparison ∈ left.comparisons ++ right.comparisons,
      attributes.contains comparison.name = true) :
    ((scope [⟨none, left⟩, ⟨some .or, right⟩]).evaluate attributes).result =
      .ok (verdict || verdict') := by
  have pair := @stop_pair attributes left right .or
  obtain ⟨leftPresent, rightPresent⟩ := List.forall_mem_append.mp present
  rcases evaluate_ok_cases leftEvaluated with ⟨stop, -⟩ | ⟨run, rfl⟩
  · exact absurd stop (stop_ne_absent leftPresent)
  rcases evaluate_ok_cases rightEvaluated with ⟨stop, -⟩ | ⟨run', rfl⟩
  · exact absurd stop (stop_ne_absent rightPresent)
  rw [run, run', Option.or_none] at pair
  exact evaluate_of_run pair

end Expression

/-- Joined conditions are read as two groups, as each is read alone but further on. When each alone
gives a verdict, conjunction of the texts is conjunction of the verdicts, and disjunction is
disjunction unless an attribute is absent. -/
theorem parse_and_serve_joinedText {options : Options} {left right : String}
    {leftTerms rightTerms : List Term}
    (leftParsed : (parse options left).result = .ok (.scope leftTerms))
    (rightParsed : (parse options right).result = .ok (.scope rightTerms)) :
    (∀ relation, (parse { options with maxDepth := options.maxDepth + 1 }
      (joinedText relation left right)).result =
        .ok (.scope [⟨none, .scope (Expression.shiftTerms 1 leftTerms)⟩,
          ⟨some relation,
            .scope (Expression.shiftTerms ((normalize left).length + 7) rightTerms)⟩])) ∧
    ∀ (attributes : Attributes) (verdict verdict' : Bool), attributes.isEmpty = false →
      (shouldServe options attributes left).result = .ok verdict →
      (shouldServe options attributes right).result = .ok verdict' →
        (shouldServe { options with maxDepth := options.maxDepth + 1 } attributes
          (joinedText .and left right)).result = .ok (verdict && verdict') ∧
        ((∀ comparison ∈ (Expression.scope leftTerms).comparisons ++
            (Expression.scope rightTerms).comparisons,
              attributes.contains comparison.name = true) →
          (shouldServe { options with maxDepth := options.maxDepth + 1 } attributes
            (joinedText .or left right)).result = .ok (verdict || verdict')) := by
  refine ⟨parse_joinedText leftParsed rightParsed, ?_⟩
  intro attributes verdict verdict' some_attribute leftServed rightServed
  rw [shouldServe_of_parse some_attribute leftParsed] at leftServed
  rw [shouldServe_of_parse some_attribute rightParsed] at rightServed
  -- The joined tree differs from the two trees side by side only in positions.
  have side_by_side (relation : Relation) :
      (Expression.scope [⟨none, .scope leftTerms⟩,
          ⟨some relation, .scope rightTerms⟩]).withoutPositions =
        (Expression.scope [⟨none, .scope (Expression.shiftTerms 1 leftTerms)⟩,
          ⟨some relation, .scope (Expression.shiftTerms ((normalize left).length + 7)
            rightTerms)⟩]).withoutPositions := by
    simp only [Expression.withoutPositions, Expression.termsWithoutPositions,
      Expression.termsWithoutPositions_shift]
  refine ⟨?_, ?_⟩
  · rw [shouldServe_of_parse some_attribute (parse_joinedText leftParsed rightParsed .and)]
    exact Expression.evaluate_ok_congr (side_by_side .and)
      (Expression.evaluate_and leftServed rightServed)
  · intro present
    rw [shouldServe_of_parse some_attribute (parse_joinedText leftParsed rightParsed .or)]
    exact Expression.evaluate_ok_congr (side_by_side .or)
      (Expression.evaluate_or leftServed rightServed present)

/-- Conditions that end and begin with a word of a relation, and no room for parentheses of their
own. -/
theorem parse_and_serve_joinedText_words :
    let attributes := NameMap.ofList [("age", .number (.ofInt 25)), ("city", .text "Bern")]
    let left := "age = 25 or"
    let right := " and city=Oslo,Rome"
    ∃ leftTerms rightTerms, (parse { maxDepth := 0 } left).result = .ok (.scope leftTerms) ∧
      (parse { maxDepth := 0 } right).result = .ok (.scope rightTerms) ∧
      (parse { maxDepth := 1 } (joinedText .or left right)).result =
        .ok (.scope [⟨none, .scope (Expression.shiftTerms 1 leftTerms)⟩,
          ⟨some .or, .scope (Expression.shiftTerms 16 rightTerms)⟩]) ∧
      (shouldServe { maxDepth := 1 } attributes (joinedText .and left right)).result =
        .ok false ∧
      (shouldServe { maxDepth := 1 } attributes (joinedText .or left right)).result = .ok true := by
  intro attributes left right
  have reads {condition : String} {names : List String}
      (found : (parse { maxDepth := 0 } condition).result.toOption.map
        (fun tree => tree.comparisons.map Comparison.name) = some names) :
      ∃ terms, (parse { maxDepth := 0 } condition).result = .ok (.scope terms) ∧
        (Expression.scope terms).comparisons.map Comparison.name = names := by
    cases parsed : (parse { maxDepth := 0 } condition).result with
    | error reason =>
        rw [parsed] at found
        cases found
    | ok tree =>
        obtain ⟨terms, rfl, -⟩ := printable_of_parse parsed
        rw [parsed] at found
        exact ⟨terms, rfl, Option.some.inj found⟩
  obtain ⟨leftTerms, leftParsed, leftNames⟩ := @reads left ["age"] (by decide +kernel)
  obtain ⟨rightTerms, rightParsed, rightNames⟩ := @reads right ["city"] (by decide +kernel)
  have present : ∀ comparison ∈ (Expression.scope leftTerms).comparisons ++
      (Expression.scope rightTerms).comparisons, attributes.contains comparison.name = true := by
    intro comparison member
    have named := List.mem_map_of_mem (f := Comparison.name) member
    rw [List.map_append, leftNames, rightNames] at named
    have all : ∀ name ∈ ["age"] ++ ["city"], attributes.contains name = true := by decide
    exact all comparison.name named
  have size : (normalize left).length = 9 := by decide +kernel
  obtain ⟨joined, served⟩ := parse_and_serve_joinedText leftParsed rightParsed
  rw [size] at joined
  obtain ⟨conjunction, disjunction⟩ := served attributes true false rfl (by decide +kernel)
    (by decide +kernel)
  exact ⟨leftTerms, rightTerms, leftParsed, rightParsed, joined .or, conjunction,
    disjunction present⟩

end AdTargeting
