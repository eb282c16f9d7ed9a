import AdTargeting.Proofs.Condition.Laxer
import AdTargeting.Proofs.Condition.Parentheses
import AdTargeting.Proofs.Serving.Paths

set_option autoImplicit false

/-
Conditions whose parentheses differ in number. With attributes each of them is an error, and if
nothing else is wrong with it, the error names a parenthesis.
-/

namespace AdTargeting

/-- Parentheses that cannot match: more of them close than open, or their numbers differ and no
literal accounts for it. -/
def Unbalanced (text : List Char) (row : List Token) : Prop :=
  text.count '(' < text.count ')' ∨
    text.count '(' ≠ text.count ')' ∧ ∀ token ∈ row, '(' ∉ token.literal

variable {options : Options} {condition : String} {row : List Token}

/-- Of a condition that parses, the parentheses that close are its inner scopes, and those that open
are as many more as its literals have. -/
theorem scopes_of_parse {tree : Expression}
    (spelled : Token.Spells .none 0 (normalize condition).toList row)
    (parsed : (parse options condition).result = .ok tree) :
    tree.scopes = (normalize condition).toList.count ')' + 1 ∧
      (normalize condition).toList.count '(' = (normalize condition).toList.count ')' +
        (tree.comparisons.flatMap fun comparison => comparison.literal.chars).count '(' := by
  rcases parse_outcome options spelled with
    ⟨reason, refused, -⟩ | ⟨terms, read, parsed', content, -⟩
  · rw [parsed] at refused
    cases refused
  · rw [parsed] at parsed'
    cases parsed'
    rw [spelled.count_opening, spelled.count_closing, content.matched.total, content.closings_eq,
      content.count_literals]
    exact ⟨rfl, rfl⟩

/-- Normalization leaves the parentheses, so they can be counted in the condition itself. -/
theorem count_of_spells (spelled : Token.Spells .none 0 (normalize condition).toList row) :
    condition.toList.count '(' = Token.openings row + (row.flatMap Token.literal).count '(' ∧
      condition.toList.count ')' = Token.closings row := by
  have opened := spelled.count_opening
  have closed := spelled.count_closing
  rw [normalize, String.toList_ofList, count_shortSpelling _ (by decide) (by decide)]
    at opened closed
  exact ⟨opened, closed⟩

theorem Unbalanced.not_matched (unbalanced : Unbalanced condition.toList row)
    (spelled : Token.Spells .none 0 (normalize condition).toList row) : ¬ Token.Matched row := by
  intro matched
  have total := matched.total
  obtain ⟨opened, closed⟩ := count_of_spells spelled
  rcases unbalanced with more | ⟨differ, plain⟩
  · omega
  · have none : (row.flatMap Token.literal).count '(' = 0 := by
      apply List.count_eq_zero.mpr
      intro member
      obtain ⟨token, inside, occurs⟩ := List.mem_flatMap.mp member
      exact plain token inside occurs
    omega

theorem Unbalanced.exists_error (options : Options) (unbalanced : Unbalanced condition.toList row)
    (spelled : Token.Spells .none 0 (normalize condition).toList row) :
    ∃ reason, (parse options condition).result = .error reason ∧
      FirstFault options row reason := by
  rcases parse_outcome options spelled with failed | ⟨terms, read, parsed, content, -⟩
  · exact failed
  · exact absurd content.matched (unbalanced.not_matched spelled)

/-- The parentheses of a condition against the scopes and the literals of its tree. Where they
cannot match there is no verdict, whatever the attributes are, and in a row with nothing else wrong
the error is a parenthesis that is not closed or one that closes nothing. -/
theorem unbalanced_never_serves
    (spelled : Token.Spells .none 0 (normalize condition).toList row) :
    (∀ tree, (parse options condition).result = .ok tree →
      tree.scopes = (normalize condition).toList.count ')' + 1 ∧
        (normalize condition).toList.count '(' = (normalize condition).toList.count ')' +
          (tree.comparisons.flatMap fun comparison => comparison.literal.chars).count '(') ∧
    (Unbalanced condition.toList row → ∀ attributes : Attributes, attributes.isEmpty = false →
      ∃ reason, (shouldServe options attributes condition).result = .error reason ∧
        (Orderly options row →
          reason.kind = .mismatchedParenthesis ∨ reason.kind = .unmatchedClose)) := by
  refine ⟨fun tree parsed => scopes_of_parse spelled parsed, ?_⟩
  intro unbalanced attributes present
  obtain ⟨reason, failed, first⟩ := unbalanced.exists_error options spelled
  refine ⟨reason, shouldServe_of_parse_error present failed, ?_⟩
  intro orderly
  rcases orderly.firstFault_cases first with
    ⟨around, position, -, rfl⟩ | ⟨before, position, after, -, -, rfl⟩
  · exact Or.inl rfl
  · exact Or.inr rfl

/-- A parenthesis in a literal of a condition that parses, one that is left open, and one that
closes nothing because the literal before it has taken the other. -/
theorem unbalanced_never_serves_texts :
    let attributes := NameMap.ofList [("a", .text "f(x")]
    let nested := "a=f(x and (b=2)"
    let unclosed := "(a=1 or (b=2)"
    let overclosed := "(a=f(x)))"
    (∃ tree, (parse {} nested).result = .ok tree ∧ tree.scopes = 2 ∧
      (normalize nested).toList.count ')' = 1 ∧ (normalize nested).toList.count '(' = 2 ∧
      (tree.comparisons.flatMap fun comparison => comparison.literal.chars).count '(' = 1) ∧
    attributes.isEmpty = false ∧
    Unbalanced unclosed.toList (Token.scan (normalize unclosed).toList) ∧
    Orderly {} (Token.scan (normalize unclosed).toList) ∧
    (∃ reason, (shouldServe {} attributes unclosed).result = .error reason ∧
      (reason.kind = .mismatchedParenthesis ∨ reason.kind = .unmatchedClose)) ∧
    Unbalanced overclosed.toList (Token.scan (normalize overclosed).toList) ∧
    ∃ reason, (shouldServe {} attributes overclosed).result = .error reason := by
  intro attributes nested unclosed overclosed
  have spelled (condition : String) := Token.spells_scan (normalize condition).toList
  obtain ⟨tree, parsed, scopes⟩ : ∃ tree, (parse {} nested).result = .ok tree ∧ tree.scopes = 2 :=
    exists_ok_of_map (by decide +kernel)
  have open_first : (parse {} unclosed).result = .error (.mismatchedParenthesis 0) :=
    eq_error_of_map (by decide +kernel)
  have orderly : Orderly {} (Token.scan (normalize unclosed).toList) := by
    cases (parse_eq_error_iff (spelled unclosed)).mp open_first with
    | leftOpen faultless innermost => exact faultless.orderly
    | shown split faultless fault => cases fault
  have odd : Unbalanced unclosed.toList (Token.scan (normalize unclosed).toList) :=
    Or.inr (by decide +kernel)
  have surplus : Unbalanced overclosed.toList (Token.scan (normalize overclosed).toList) :=
    Or.inl (by decide +kernel)
  obtain ⟨counts, -⟩ := unbalanced_never_serves (spelled nested)
  obtain ⟨closed, opened⟩ := counts tree parsed
  obtain ⟨-, unclosed_fails⟩ := unbalanced_never_serves (spelled unclosed)
  obtain ⟨reason, failed, kind⟩ := unclosed_fails odd attributes rfl
  obtain ⟨-, overclosed_fails⟩ := unbalanced_never_serves (spelled overclosed)
  obtain ⟨other, failed', -⟩ := overclosed_fails surplus attributes rfl
  have one : (normalize nested).toList.count ')' = 1 := by decide +kernel
  have two : (normalize nested).toList.count '(' = 2 := by decide +kernel
  exact ⟨⟨tree, parsed, scopes, one, two, by omega⟩, rfl, odd, orderly,
    ⟨reason, failed, kind orderly⟩, surplus, other, failed'⟩

end AdTargeting
