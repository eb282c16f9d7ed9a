import AdTargeting.Proofs.Condition.Grammar
import AdTargeting.Proofs.Condition.Lexeme

set_option autoImplicit false

/-
Which error a condition gives. Each kind of fault shows at one token, given only the row before it,
and the error is the first fault from the left.
-/

namespace AdTargeting

/-- What is wrong at a token after the row before it. A relation that a group lacks shows only where
the group is closed. -/
inductive Fault (options : Options) : List Token → Token → ConditionError → Prop
  | nestingTooDeep {before : List Token} {position : Nat}
      (full : Token.closings before + options.maxDepth ≤ Token.openings before) :
      Fault options before (.opening position) (.nestingTooDeep options.maxDepth position)
  | unmatchedClose {before : List Token} {position : Nat}
      (closed : ∀ around first, ¬ Token.InnermostOpen before around first) :
      Fault options before (.closing position) (.unmatchedClose position)
  | groupUnrelated {before around : List Token} {first last : Nat}
      (innermost : Token.InnermostOpen before around first) (awaits : Token.Awaits around) :
      Fault options before (.closing last) (.missingRelation first)
  | danglingOperator {before : List Token} {name : String} {start : Nat} {operator : Operator}
      {position : Nat} :
      Fault options before (.comparison name start operator position [])
        (.danglingOperator operator position)
  | malformedInterval {before : List Token} {name : String} {start : Nat} {operator : Operator}
      {position : Nat} {text : List Char} (nonempty : text ≠ [])
      (rejected : Literal.classify options text = none) :
      Fault options before (.comparison name start operator position text)
        (.malformedInterval (String.ofList text) (position + operator.symbol.toList.length))
  | comparisonUnrelated {before : List Token} {name : String} {start : Nat} {operator : Operator}
      {position : Nat} {text : List Char} {literal : Literal} (nonempty : text ≠ [])
      (classified : Literal.classify options text = some literal)
      (awaits : Token.Awaits before) :
      Fault options before (.comparison name start operator position text) (.missingRelation start)

def Faultless (options : Options) (row : List Token) : Prop :=
  ∀ before token after reason, row = before ++ token :: after →
    ¬ Fault options before token reason

/-- The first fault of a row. A parenthesis that is never closed shows only at the end, and then it
is the innermost one. -/
inductive FirstFault (options : Options) (row : List Token) : ConditionError → Prop
  | shown {before after : List Token} {token : Token} {reason : ConditionError}
      (split : row = before ++ token :: after) (faultless : Faultless options before)
      (fault : Fault options before token reason) : FirstFault options row reason
  | leftOpen {around : List Token} {position : Nat} (faultless : Faultless options row)
      (innermost : Token.InnermostOpen row around position) :
      FirstFault options row (.mismatchedParenthesis position)

variable {options : Options} {row : List Token} {progress : Progress}

theorem Faultless.nil : Faultless options [] := by
  intro before token after reason split
  exact absurd split.symm (List.append_ne_nil_of_right_ne_nil _ (List.cons_ne_nil _ _))

theorem Faultless.concat {token : Token} (faultless : Faultless options row)
    (sound : ∀ reason, ¬ Fault options row token reason) : Faultless options (row ++ [token]) := by
  intro before next after reason split
  rcases places_concat split with ⟨rfl, rfl, rfl⟩ | ⟨others, same, -⟩
  · exact sound reason
  · exact faultless before next others reason same

theorem Fault.unique {token : Token} {reason reason' : ConditionError}
    (fault : Fault options row token reason) (fault' : Fault options row token reason') :
    reason = reason' := by
  cases fault with
  | nestingTooDeep full =>
      cases fault' with
      | nestingTooDeep full' => rfl
  | unmatchedClose closed =>
      cases fault' with
      | unmatchedClose closed' => rfl
      | groupUnrelated innermost awaits => exact absurd innermost (closed _ _)
  | groupUnrelated innermost awaits =>
      cases fault' with
      | unmatchedClose closed => exact absurd innermost (closed _ _)
      | groupUnrelated innermost' awaits' =>
          obtain ⟨-, rfl⟩ := innermost.unique innermost'
          rfl
  | danglingOperator =>
      cases fault' with
      | danglingOperator => rfl
      | malformedInterval nonempty rejected => exact absurd rfl nonempty
      | comparisonUnrelated nonempty classified awaits => exact absurd rfl nonempty
  | malformedInterval nonempty rejected =>
      cases fault' with
      | danglingOperator => exact absurd rfl nonempty
      | malformedInterval nonempty' rejected' => rfl
      | comparisonUnrelated nonempty' classified awaits =>
          rw [rejected] at classified
          cases classified
  | comparisonUnrelated nonempty classified awaits =>
      cases fault' with
      | danglingOperator => exact absurd rfl nonempty
      | malformedInterval nonempty' rejected =>
          rw [rejected] at classified
          cases classified
      | comparisonUnrelated nonempty' classified' awaits' => rfl

theorem FirstFault.unique {reason reason' : ConditionError}
    (first : FirstFault options row reason) (first' : FirstFault options row reason') :
    reason = reason' := by
  cases first with
  | @shown before after token reason split faultless fault =>
      cases first' with
      | @shown before' after' token' reason' split' faultless' fault' =>
          rcases places_cases (split.symm.trans split') with
            ⟨rfl, rfl, -⟩ | ⟨gap, earlier, -⟩ | ⟨gap, earlier, -⟩
          · exact fault.unique fault'
          · exact absurd fault (faultless' _ _ _ _ earlier)
          · exact absurd fault' (faultless _ _ _ _ earlier)
      | leftOpen faultless' innermost => exact absurd fault (faultless' _ _ _ _ split)
  | leftOpen faultless innermost =>
      cases first' with
      | shown split faultless' fault => exact absurd fault (faultless _ _ _ _ split)
      | leftOpen faultless' innermost' =>
          obtain ⟨-, rfl⟩ := innermost.unique innermost'
          rfl

/-- What was read into a progress: the content of each open scope, from the outermost to the one
being read. -/
inductive Reading (options : Options) : List Token → Progress → Prop
  | outermost {row : List Token} {terms : List Term} {read : Option Relation}
      (content : Content options row terms read) : Reading options row ⟨terms, read, []⟩
  | inside {before row : List Token} {terms inner : List Term} {read pending : Option Relation}
      {enclosing : List Interrupted} (around : Reading options before ⟨terms, read, enclosing⟩)
      (content : Content options row inner pending) (position : Nat) :
      Reading options (before ++ .opening position :: row)
        ⟨inner, pending, ⟨terms, read, position⟩ :: enclosing⟩

namespace Reading

theorem openings_eq (reading : Reading options row progress) :
    Token.openings row = Token.closings row + progress.enclosing.length := by
  induction reading with
  | outermost content => exact content.matched.total
  | inside around content position ih =>
      have total := content.matched.total
      simp only [Token.openings_append, Token.closings_append, Token.openings_opening,
        Token.closings_opening, List.length_cons] at ih ⊢
      omega

theorem awaits_iff (reading : Reading options row progress) :
    Token.Awaits row ↔ progress.terms ≠ [] ∧ progress.relation = none := by
  cases reading with
  | outermost content => exact content.awaits_iff
  | inside around content position => rw [Token.awaits_inside, content.awaits_iff]

/-- More of the scope being read leaves the scopes around it as they are. -/
theorem extend {more : List Token} {terms : List Term} {read : Option Relation}
    (reading : Reading options row progress)
    (grow : ∀ part, Content options part progress.terms progress.relation →
      Content options (part ++ more) terms read) :
    Reading options (row ++ more) ⟨terms, read, progress.enclosing⟩ := by
  cases reading with
  | outermost content => exact .outermost (grow _ content)
  | inside around content position =>
      rw [List.append_assoc, List.cons_append]
      exact .inside around (grow _ content) position

/-- One token read: either it shows a fault, which the step reports, or it shows none and the step
reads on. -/
inductive Read (options : Options) (row : List Token) (progress : Progress) (token : Token) : Prop
  | refused (reason : ConditionError)
      (stepped : Progress.step options progress token = .error reason)
      (fault : Fault options row token reason)
  | accepted (next : Progress) (stepped : Progress.step options progress token = .ok next)
      (reading : Reading options (row ++ [token]) next)
      (sound : ∀ reason, ¬ Fault options row token reason)

theorem step_opening (reading : Reading options row progress) (position : Nat) :
    Read options row progress (.opening position) := by
  have open_now := reading.openings_eq
  by_cases full : options.maxDepth < progress.enclosing.length + 1
  · refine .refused (.nestingTooDeep options.maxDepth position) ?_ (.nestingTooDeep (by omega))
    simp only [Progress.step, Progress.openScope, full, ↓reduceIte]
  · refine .accepted ⟨[], none, ⟨progress.terms, progress.relation, position⟩ :: progress.enclosing⟩
      ?_ (.inside reading .empty position) ?_
    · simp only [Progress.step, Progress.openScope, full, ↓reduceIte]
    · intro reason fault
      cases fault with
      | nestingTooDeep too_deep => omega

theorem step_closing (reading : Reading options row progress) (position : Nat) :
    Read options row progress (.closing position) := by
  cases reading with
  | @outermost _ terms read content =>
      have closed := content.matched.not_innermostOpen
      exact .refused (.unmatchedClose position) rfl (.unmatchedClose closed)
  | @inside before row terms inner read pending enclosing around content first =>
      have innermost : Token.InnermostOpen (before ++ .opening first :: row) before first :=
        ⟨row, rfl, content.matched⟩
      have awaits := around.awaits_iff
      rcases Progress.add_cases terms read enclosing (.scope inner) first with
        ⟨nonempty, unrelated, added⟩ | ⟨joined, joins, added⟩
      · exact .refused (.missingRelation first) added
          (.groupUnrelated innermost (awaits.mpr ⟨nonempty, unrelated⟩))
      · refine .accepted _ added ?_ ?_
        · rw [List.append_assoc, List.cons_append]
          apply around.extend
          intro part outer
          exact outer.group content joins first position
        · intro reason fault
          cases fault with
          | unmatchedClose closed => exact closed _ _ innermost
          | groupUnrelated innermost' awaits' =>
              obtain ⟨rfl, -⟩ := innermost.unique innermost'
              obtain ⟨nonempty, unrelated⟩ := awaits.mp awaits'
              cases joins with
              | first => exact nonempty rfl
              | later => cases unrelated

theorem step_comparison (reading : Reading options row progress) (name : String) (start : Nat)
    (operator : Operator) (position : Nat) (text : List Char) :
    Read options row progress (.comparison name start operator position text) := by
  obtain ⟨terms, read, enclosing⟩ := progress
  have awaits := reading.awaits_iff
  by_cases nonempty : text = []
  · subst nonempty
    exact .refused (.danglingOperator operator position) rfl .danglingOperator
  cases classified : Literal.classify options text with
  | none =>
      refine .refused (.malformedInterval (String.ofList text)
        (position + operator.symbol.toList.length)) ?_ (.malformedInterval nonempty classified)
      simp only [Progress.step, Progress.addComparison, nonempty, ↓reduceIte, Literal.read,
        classified, operator.length_symbol]
  | some literal =>
      have stepped : Progress.step options ⟨terms, read, enclosing⟩
          (.comparison name start operator position text) =
            Progress.add ⟨terms, read, enclosing⟩ (.compare ⟨name, operator, literal, position⟩)
              start := by
        simp only [Progress.step, Progress.addComparison, nonempty, ↓reduceIte, Literal.read,
          classified]
      rcases Progress.add_cases terms read enclosing
        (.compare ⟨name, operator, literal, position⟩) start with
        ⟨filled, unrelated, added⟩ | ⟨joined, joins, added⟩
      · exact .refused (.missingRelation start) (stepped.trans added)
          (.comparisonUnrelated nonempty classified (awaits.mpr ⟨filled, unrelated⟩))
      · refine .accepted _ (stepped.trans added) ?_ ?_
        · apply reading.extend
          intro part content
          exact content.comparison joins name start operator position nonempty classified
        · intro reason fault
          cases fault with
          | danglingOperator => exact nonempty rfl
          | malformedInterval _ rejected =>
              rw [classified] at rejected
              cases rejected
          | comparisonUnrelated _ _ awaits' =>
              obtain ⟨filled, unrelated⟩ := awaits.mp awaits'
              cases joins with
              | first => exact filled rfl
              | later => cases unrelated

theorem step (reading : Reading options row progress) (token : Token) :
    Read options row progress token := by
  cases token with
  | opening position => exact reading.step_opening position
  | closing position => exact reading.step_closing position
  | relation value doubled =>
      refine .accepted { progress with relation := some value } rfl ?_ nofun
      apply reading.extend
      intro part content
      exact content.relation value doubled
  | comparison name start operator position text =>
      exact reading.step_comparison name start operator position text
  | stray name start =>
      refine .accepted progress rfl ?_ nofun
      apply reading.extend
      intro part content
      exact content.stray name start

/-- Reading on to the end reports the first fault of the whole row, or finds none and gives the tree
of what was read. -/
theorem finish (rest : List Token) (reading : Reading options row progress)
    (faultless : Faultless options row) :
    (∃ reason, (Progress.steps options progress rest).bind Progress.finish = .error reason ∧
      FirstFault options (row ++ rest) reason) ∨
    ∃ terms read, (Progress.steps options progress rest).bind Progress.finish =
        .ok (.scope terms) ∧
      Content options (row ++ rest) terms read ∧ Faultless options (row ++ rest) := by
  induction rest generalizing row progress with
  | nil =>
      rw [List.append_nil]
      cases reading with
      | @outermost _ terms read content => exact Or.inr ⟨terms, read, rfl, content, faultless⟩
      | @inside before row terms inner read pending enclosing around content position =>
          have innermost : Token.InnermostOpen (before ++ .opening position :: row) before
              position := ⟨row, rfl, content.matched⟩
          exact Or.inl ⟨_, rfl, .leftOpen faultless innermost⟩
  | cons token rest ih =>
      cases reading.step token with
      | refused reason stepped fault =>
          refine Or.inl ⟨reason, ?_, .shown rfl faultless fault⟩
          simp only [Progress.steps, List.foldlM_cons, stepped]
          rfl
      | accepted next stepped reading sound =>
          rw [Progress.steps_cons rest stepped, List.append_cons]
          exact ih reading (faultless.concat sound)

end Reading

section Parsing

variable (options : Options) {condition : String}

/-- Records apart, parsing is reading the tokens that the short spelling spells. -/
theorem parse_result (spelled : Token.Spells .none 0 (normalize condition).toList row) :
    (parse options condition).result =
      (Progress.steps options .start row).bind Progress.finish := by
  rw [normalize, String.toList_ofList] at spelled
  have scanned : Token.scan (shortSpelling condition.toList) = row :=
    Token.scanFrom_of_spells spelled
  have ran := @Progress.run_result options .start row
  unfold parse
  rw [scanned]
  cases outcome : (Progress.run options .start row).result with
  | error reason =>
      rw [outcome] at ran
      rw [← ran]
      exact congrArg Logged.result (Logged.bind_of_error _ _ reason outcome)
  | ok tree =>
      rw [outcome] at ran
      rw [← ran]
      exact congrArg Logged.result (Logged.bind_of_ok _ _ tree outcome)

/-- Parsing either fails with the first fault of the row, or there is none and the tree is what the
row says. -/
theorem parse_outcome (spelled : Token.Spells .none 0 (normalize condition).toList row) :
    (∃ reason, (parse options condition).result = .error reason ∧
      FirstFault options row reason) ∨
    ∃ terms read, (parse options condition).result = .ok (.scope terms) ∧
      Content options row terms read ∧ Faultless options row := by
  rw [parse_result options spelled]
  exact Reading.finish row (.outermost .empty) .nil

/-- A condition is refused with the first fault of its tokens, and with no other error. -/
theorem parse_error_iff (options : Options) (condition : String) (reason : ConditionError) :
    (parse options condition).result = .error reason ↔
      ∃ row, Token.Spells .none 0 (normalize condition).toList row ∧
        FirstFault options row reason := by
  constructor
  · intro failed
    have spelled := Token.spells_scan (normalize condition).toList
    rcases parse_outcome options spelled with ⟨reason', refused, first⟩ | ⟨terms, read, accepted, -⟩
    · rw [failed] at refused
      cases refused
      exact ⟨_, spelled, first⟩
    · rw [failed] at accepted
      cases accepted
  · rintro ⟨row, spelled, first⟩
    rcases parse_outcome options spelled with
      ⟨reason', refused, first'⟩ | ⟨terms, read, accepted, content, faultless⟩
    · rw [refused, first.unique first']
    · cases first with
      | shown split _ fault => exact absurd fault (faultless _ _ _ _ split)
      | leftOpen _ innermost => exact absurd innermost (content.matched.not_innermostOpen _ _)

end Parsing

end AdTargeting
