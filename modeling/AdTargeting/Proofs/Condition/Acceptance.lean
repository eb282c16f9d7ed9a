import AdTargeting.Proofs.Condition.FirstFault

set_option autoImplicit false

/-
Which conditions are accepted, said of the row of tokens as a whole and without reading it in order,
and the tree that an accepted condition gives.
-/

namespace AdTargeting

/-- The rows that are one term of a scope: a comparison, or a group in its parentheses. -/
inductive Token.IsTerm : List Token → Prop
  | comparison (name : String) (start : Nat) (operator : Operator) (position : Nat)
      (text : List Char) : IsTerm [.comparison name start operator position text]
  | group {inside : List Token} (matched : Matched inside) (first last : Nat) :
      IsTerm (.opening first :: inside ++ [.closing last])

/-- A row with nothing wrong but perhaps its parentheses. Terms of a scope follow one another when
nothing but relations and unused names stands between them. -/
structure Orderly (options : Options) (row : List Token) : Prop where
  nonempty : ∀ {name start operator position text},
    .comparison name start operator position text ∈ row → text ≠ []
  classified : ∀ {name start operator position text},
    .comparison name start operator position text ∈ row →
      ∃ literal, Literal.classify options text = some literal
  shallow : Token.Shallow options.maxDepth row
  related : ∀ {before first between next after},
    row = before ++ first ++ between ++ next ++ after → Token.IsTerm first → Token.IsTerm next →
      (∀ token ∈ between, token.isRelation = true ∨ token.isStray = true) →
        ∃ token ∈ between, token.isRelation = true

/-- What parsing asks of a row of tokens. -/
structure Accepted (options : Options) (row : List Token) : Prop extends Orderly options row where
  matched : Token.Matched row

def Described (options : Options) (row : List Token) (tree : Expression) : Prop :=
  ∃ terms read, Content options row terms read ∧ tree = .scope terms

variable {options : Options} {row : List Token}

theorem Token.IsTerm.ends {term : List Token} (is_term : Token.IsTerm term) :
    ∃ before last, term = before ++ [last] ∧ last.endsTerm = true := by
  cases is_term with
  | comparison name start operator position text => exact ⟨[], _, rfl, rfl⟩
  | group matched first last => exact ⟨_, _, rfl, rfl⟩

theorem Faultless.shallow (faultless : Faultless options row) :
    Token.Shallow options.maxDepth row := by
  intro before inside
  induction before using List.reverseRecOn with
  | nil => exact Nat.zero_le _
  | append_singleton before token ih =>
      have earlier := ih ((List.prefix_append _ _).trans inside)
      obtain ⟨after, rfl⟩ := inside
      rw [Token.openings_append, Token.closings_append]
      cases token with
      | opening position =>
          have room : ¬ Token.closings before + options.maxDepth ≤ Token.openings before := by
            intro full
            exact faultless before _ after _ (List.append_cons _ _ _).symm (.nestingTooDeep full)
          rw [Token.openings_opening, Token.closings_opening, Token.openings_nil,
            Token.closings_nil]
          omega
      | _ =>
          rw [Token.openings_neutral [] rfl, Token.openings_nil]
          omega

theorem Faultless.orderly (faultless : Faultless options row) : Orderly options row := by
  have nonempty {name : String} {start : Nat} {operator : Operator} {position : Nat}
      {text : List Char} (member : .comparison name start operator position text ∈ row) :
      text ≠ [] := by
    obtain ⟨before, after, split⟩ := List.append_of_mem member
    rintro rfl
    exact faultless before _ after _ split .danglingOperator
  have classified {name : String} {start : Nat} {operator : Operator} {position : Nat}
      {text : List Char} (member : .comparison name start operator position text ∈ row) :
      ∃ literal, Literal.classify options text = some literal := by
    obtain ⟨before, after, split⟩ := List.append_of_mem member
    rw [← Option.ne_none_iff_exists']
    intro rejected
    exact faultless before _ after _ split (.malformedInterval (nonempty member) rejected)
  refine ⟨nonempty, classified, faultless.shallow, ?_⟩
  intro before first between next after split first_term next_term quiet
  apply Classical.byContradiction
  intro unrelated
  have strays : ∀ token ∈ between, token.isStray = true := by
    intro token member
    rcases quiet token member with related | stray
    · exact absurd ⟨token, member, related⟩ unrelated
    · exact stray
  obtain ⟨start, last, rfl, ends⟩ := first_term.ends
  have awaits : Token.Awaits (before ++ (start ++ [last]) ++ between) :=
    ⟨before ++ start, last, between, by simp, ends, strays⟩
  cases next_term with
  | comparison name start operator position text =>
      have member : Token.comparison name start operator position text ∈ row := by simp [split]
      obtain ⟨literal, read⟩ := classified member
      rw [← List.append_cons] at split
      exact faultless _ _ after _ split (.comparisonUnrelated (nonempty member) read awaits)
  | @group inside matched opened closed =>
      have innermost : Token.InnermostOpen
          (before ++ (start ++ [last]) ++ between ++ .opening opened :: inside)
          (before ++ (start ++ [last]) ++ between) opened := ⟨inside, rfl, matched⟩
      exact faultless _ (.closing closed) after _ (by rw [split]; simp)
        (.groupUnrelated innermost awaits)

theorem Faultless.accepted (faultless : Faultless options row) (matched : Token.Matched row) :
    Accepted options row :=
  ⟨faultless.orderly, matched⟩

theorem Faultless.of_append {before rest : List Token}
    (faultless : Faultless options (before ++ rest)) : Faultless options before := by
  rintro early token late reason rfl
  exact faultless early token (late ++ rest) reason (by simp)

/-- A parenthesis that closes shows no fault only if it was opened. -/
theorem Faultless.exists_opening {before after : List Token} {last : Nat}
    (faultless : Faultless options (before ++ .closing last :: after)) :
    ∃ around first, Token.InnermostOpen before around first := by
  apply Classical.byContradiction
  intro closed
  exact faultless before (.closing last) after _ rfl
    (.unmatchedClose fun around first innermost => closed ⟨around, first, innermost⟩)

/-- Where a term follows in an orderly row, no relation is awaited. -/
theorem Orderly.not_awaits {before next after : List Token} (orderly : Orderly options row)
    (split : row = before ++ next ++ after) (faultless : Faultless options before)
    (next_term : Token.IsTerm next) : ¬ Token.Awaits before := by
  rintro ⟨early, last, strays, rfl, ends, all⟩
  have related {around first : List Token} (whole : early ++ [last] = around ++ first)
      (first_term : Token.IsTerm first) : False := by
    have parts : row = around ++ first ++ strays ++ next ++ after := by
      rw [split, List.append_cons, whole]
    obtain ⟨token, member, relation⟩ := orderly.related parts first_term next_term
      fun token member => Or.inr (all token member)
    have stray := all token member
    cases token <;> simp [Token.isRelation, Token.isStray] at relation stray
  cases last with
  | closing closed =>
      -- The term that ends here began where this parenthesis was opened.
      obtain ⟨around, first, inside, rfl, inner⟩ := faultless.exists_opening
      exact related (by rw [List.append_assoc]) (.group inner first closed)
  | comparison name start operator position text =>
      exact related rfl (.comparison name start operator position text)
  | opening position => cases ends
  | relation value doubled => cases ends
  | stray name start => cases ends

/-- The only faults of an orderly row are parentheses that are not closed or close nothing. -/
theorem Orderly.firstFault_cases (orderly : Orderly options row) {reason : ConditionError}
    (first : FirstFault options row reason) :
    (∃ around position, Token.InnermostOpen row around position ∧
      reason = .mismatchedParenthesis position) ∨
    ∃ before position after, row = before ++ .closing position :: after ∧
      (∀ around first, ¬ Token.InnermostOpen before around first) ∧
      reason = .unmatchedClose position := by
  cases first with
  | leftOpen faultless innermost => exact Or.inl ⟨_, _, innermost, rfl⟩
  | @shown before after token _ split faultless fault =>
      have member : token ∈ row := by
        rw [split]
        exact List.mem_append_right before List.mem_cons_self
      cases fault with
      | @nestingTooDeep position full =>
          have limit := orderly.shallow (before ++ [.opening position]) ⟨after, by simp [split]⟩
          simp only [Token.openings_append, Token.closings_append, Token.openings_opening,
            Token.closings_opening, Token.openings_nil, Token.closings_nil] at limit
          omega
      | unmatchedClose closed => exact Or.inr ⟨before, _, after, split, closed, rfl⟩
      | @groupUnrelated around first last innermost awaits =>
          obtain ⟨inside, rfl, matched⟩ := innermost
          have parts : row = around ++ (.opening first :: inside ++ [.closing last]) ++ after := by
            simp [split]
          exact absurd awaits
            (orderly.not_awaits parts faultless.of_append (.group matched first last))
      | danglingOperator => exact absurd rfl (orderly.nonempty member)
      | malformedInterval nonempty rejected =>
          obtain ⟨literal, classified⟩ := orderly.classified member
          rw [rejected] at classified
          cases classified
      | comparisonUnrelated nonempty classified awaits =>
          exact absurd awaits (orderly.not_awaits (by rw [split, List.append_cons]) faultless
            (.comparison _ _ _ _ _))

theorem Accepted.not_firstFault (accepted : Accepted options row) (reason : ConditionError) :
    ¬ FirstFault options row reason := by
  intro first
  rcases accepted.toOrderly.firstFault_cases first with
    ⟨around, position, innermost, -⟩ | ⟨before, position, after, rfl, closed, -⟩
  · exact accepted.matched.not_innermostOpen around position innermost
  · obtain ⟨around, opened, innermost⟩ := accepted.matched.exists_opening
    exact closed around opened innermost

/-- A condition parses exactly when its one row of tokens is accepted, and then gives exactly the
tree that the row describes. -/
theorem parse_ok_iff (options : Options) (condition : String) :
    ∃ row, (∀ other, Token.Spells .none 0 (normalize condition).toList other ↔ other = row) ∧
      ((∃ tree, (parse options condition).result = .ok tree) ↔ Accepted options row) ∧
      ∀ tree, (parse options condition).result = .ok tree ↔
        Accepted options row ∧ Described options row tree := by
  have spelled := Token.spells_scan (normalize condition).toList
  refine ⟨Token.scan (normalize condition).toList, ?_, ?_, ?_⟩
  · exact fun other => Token.spells_iff
  · rcases parse_outcome options spelled with
      ⟨reason, refused, first⟩ | ⟨terms, read, parsed, content, faultless⟩
    · constructor
      · rintro ⟨tree, parsed⟩
        rw [refused] at parsed
        cases parsed
      · intro accepted
        exact absurd first (accepted.not_firstFault reason)
    · constructor
      · intro _
        exact faultless.accepted content.matched
      · intro _
        exact ⟨_, parsed⟩
  · intro tree
    constructor
    · intro parsed
      rcases parse_outcome options spelled with
        ⟨reason, refused, -⟩ | ⟨terms, read, parsed', content, faultless⟩
      · rw [refused] at parsed
        cases parsed
      · rw [parsed] at parsed'
        cases parsed'
        exact ⟨faultless.accepted content.matched, terms, read, content, rfl⟩
    · rintro ⟨accepted, terms, read, content, rfl⟩
      have reached := content.steps accepted.shallow [] (Nat.le_refl _)
      rw [parse_result options spelled, Progress.start, reached]
      rfl

end AdTargeting
