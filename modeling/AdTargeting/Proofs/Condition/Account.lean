import AdTargeting.Proofs.Condition.Laxer
import AdTargeting.Proofs.Condition.Layout
import Mathlib.Data.List.Forall2

set_option autoImplicit false

/-
What becomes of each character of a condition. Parentheses and comparisons are found again in the
tree, in the same order, and a name that no comparison takes is recorded, also when reading fails
later on.
-/

namespace AdTargeting

/-- What the text of a tree shows of its nested scopes and of its comparisons. -/
inductive Landmark where
  | opening
  | closing
  | comparison (comparison : Comparison)

namespace Expression

mutual

/-- The landmarks of a tree in the order of its text. Each scope is opened and closed once, around
those of its terms. -/
def landmarks : Expression → List Landmark
  | .compare comparison => [.comparison comparison]
  | .scope terms => .opening :: termLandmarks terms ++ [.closing]

def termLandmarks : List Term → List Landmark
  | [] => []
  | ⟨_, expression⟩ :: rest => landmarks expression ++ termLandmarks rest

end

theorem termLandmarks_concat (terms : List Term) (relation : Option Relation)
    (expression : Expression) :
    termLandmarks (terms ++ [⟨relation, expression⟩]) =
      termLandmarks terms ++ landmarks expression := by
  induction terms with
  | nil => simp only [List.nil_append, termLandmarks, List.append_nil]
  | cons term terms ih =>
      obtain ⟨_, first⟩ := term
      simp only [List.cons_append, termLandmarks, ih, List.append_assoc]

end Expression

namespace Token

/-- Relations and unused names leave no landmark. -/
def isLandmark : Token → Bool
  | opening _ => true
  | closing _ => true
  | comparison _ _ _ _ _ => true
  | relation _ _ => false
  | stray _ _ => false

theorem filter_isLandmark_concat {token : Token} (row : List Token)
    (silent : token.isLandmark = false) :
    (row ++ [token]).filter isLandmark = row.filter isLandmark := by
  rw [List.filter_append, List.filter_cons_of_neg (by simp [silent]), List.filter_nil,
    List.append_nil]

/-- A token is what the text has for a landmark. -/
inductive Shows (options : Options) : Token → Landmark → Prop
  | opening (position : Nat) : Shows options (.opening position) .opening
  | closing (position : Nat) : Shows options (.closing position) .closing
  | comparison (name : String) (start : Nat) (operator : Operator) (position : Nat)
      {text : List Char} {literal : Literal} (nonempty : text ≠ [])
      (classified : Literal.classify options text = some literal) :
      Shows options (.comparison name start operator position text)
        (.comparison ⟨name, operator, literal, position⟩)

def record? : Token → Option LogRecord
  | stray name start => some (.droppedName name start)
  | _ => none

theorem eq_stray_of_record? {token : Token} {record : LogRecord}
    (recorded : token.record? = some record) :
    ∃ name start, token = .stray name start ∧ record = .droppedName name start := by
  cases token with
  | stray name start => exact ⟨name, start, rfl, (Option.some.inj recorded).symm⟩
  | opening position => cases recorded
  | closing position => cases recorded
  | relation value doubled => cases recorded
  | comparison name start operator position literal => cases recorded

end Token

def Part.record? (part : Part) : Option LogRecord := part.token.record?

theorem Part.exists_stray {parts : List Part} {record : LogRecord}
    (member : record ∈ parts.filterMap Part.record?) :
    ∃ name start, record = .droppedName name start ∧
      ∃ part ∈ parts, part.token = .stray name start := by
  obtain ⟨part, inside, made⟩ := List.mem_filterMap.mp member
  obtain ⟨name, start, token, rfl⟩ := Token.eq_stray_of_record? made
  exact ⟨name, start, rfl, part, inside, token⟩

variable {options : Options} {row before rest : List Token} {terms : List Term}
  {read : Option Relation} {condition : String}

/-- The tokens of a scope that are no relations and no unused names show its terms, one by one. -/
theorem Content.landmarks (content : Content options row terms read) :
    List.Forall₂ (Token.Shows options) (row.filter Token.isLandmark)
      (Expression.termLandmarks terms) := by
  induction content with
  | empty => exact .nil
  | stray earlier name start ih =>
      rw [Token.filter_isLandmark_concat _ rfl]
      exact ih
  | relation earlier value doubled ih =>
      rw [Token.filter_isLandmark_concat _ rfl]
      exact ih
  | comparison earlier joins name start operator position nonempty classified ih =>
      rw [List.filter_append, Expression.termLandmarks_concat]
      have shows := Token.Shows.comparison name start operator position nonempty classified
      exact List.rel_append ih (.cons shows .nil)
  | @group row inside terms inner read pending joined earlier within joins first last ih inner_ih =>
      have group : (.opening first :: inside ++ [Token.closing last]).filter Token.isLandmark =
          .opening first :: inside.filter Token.isLandmark ++ [.closing last] := by
        rw [List.filter_append, List.filter_cons_of_pos rfl]
        rfl
      rw [List.filter_append, group, Expression.termLandmarks_concat, Expression.landmarks]
      have ends : List.Forall₂ (Token.Shows options) [.closing last] [.closing] :=
        .cons (.closing last) .nil
      exact List.rel_append ih (.cons (.opening first) (List.rel_append inner_ih ends))

section Records

variable {progress next : Progress}

/-- While tokens are read, the unused names among them are recorded. -/
theorem Progress.records_of_steps (rest : List Token)
    (reached : steps options progress before = .ok next) :
    (run options progress (before ++ rest)).records =
      before.filterMap Token.record? ++ (run options next rest).records := by
  induction before generalizing progress with
  | nil =>
      cases reached
      rfl
  | cons token before ih =>
      cases stepped : step options progress token with
      | error reason =>
          simp only [steps, List.foldlM_cons, stepped] at reached
          cases reached
      | ok middle =>
          rw [steps_cons before stepped] at reached
          have later := ih reached
          simp only [List.cons_append, run, stepped]
          cases token with
          | stray name position => exact congrArg (LogRecord.droppedName name position :: ·) later
          | opening position => exact later
          | closing position => exact later
          | relation value doubled => exact later
          | comparison name start operator position literal => exact later

theorem Progress.records_of_refusal {token : Token} {reason : ConditionError}
    (refused : step options progress token = .error reason) :
    (run options progress (token :: rest)).records = [] := by
  simp only [run, refused, Logged.fail]

theorem parse_records_of_ok {tree : Expression}
    (parsed : (parse options condition).result = .ok tree) :
    (parse options condition).records =
      (Progress.run options .start (Token.scan (shortSpelling condition.toList))).records ++
        [.parsed condition tree.comparisons.length] := by
  unfold parse at parsed ⊢
  cases outcome :
      (Progress.run options .start (Token.scan (shortSpelling condition.toList))).result with
  | error reason =>
      rw [Logged.result_bind, outcome] at parsed
      cases parsed
  | ok tree' =>
      rw [Logged.result_bind, outcome] at parsed
      cases parsed
      exact Logged.records_bind_of_ok _ _ tree outcome

theorem parse_records_of_error {reason : ConditionError}
    (failed : (parse options condition).result = .error reason) :
    (parse options condition).records =
      (Progress.run options .start (Token.scan (shortSpelling condition.toList))).records := by
  unfold parse at failed ⊢
  cases outcome :
      (Progress.run options .start (Token.scan (shortSpelling condition.toList))).result with
  | error reason' => exact Logged.records_bind_of_error _ _ reason' outcome
  | ok tree =>
      rw [Logged.result_bind, outcome] at failed
      cases failed

end Records

/-- A row without a fault is read to its end. -/
theorem Faultless.exists_reading (faultless : Faultless options row) :
    ∃ progress, Progress.steps options .start row = .ok progress ∧
      Reading options row progress := by
  induction row using List.reverseRecOn with
  | nil => exact ⟨.start, rfl, .outermost .empty⟩
  | append_singleton row token ih =>
      obtain ⟨progress, reached, reading⟩ := ih faultless.of_append
      cases reading.step token with
      | refused reason stepped fault => exact absurd fault (faultless row token [] reason rfl)
      | accepted next stepped reading' sound =>
          refine ⟨next, ?_, reading'⟩
          rw [Progress.steps_append [token] reached, Progress.steps_single, stepped]

theorem Fault.record?_eq_none {token : Token} {reason : ConditionError}
    (fault : Fault options before token reason) : token.record? = none := by
  cases fault <;> rfl

/-- Where a fault shows, reading stops with the records of what was read before. -/
theorem Fault.records {token : Token} {reason : ConditionError}
    (fault : Fault options before token reason) (faultless : Faultless options before)
    (rest : List Token) :
    (Progress.run options .start (before ++ token :: rest)).records =
      before.filterMap Token.record? := by
  obtain ⟨progress, reached, reading⟩ := faultless.exists_reading
  rw [Progress.records_of_steps _ reached]
  cases reading.step token with
  | refused other stepped shown => rw [Progress.records_of_refusal stepped, List.append_nil]
  | accepted next stepped reading' sound => exact absurd fault (sound reason)

theorem Faultless.records (faultless : Faultless options row) :
    (Progress.run options .start row).records = row.filterMap Token.record? := by
  obtain ⟨progress, reached, -⟩ := faultless.exists_reading
  have recorded := Progress.records_of_steps [] reached
  rw [List.append_nil] at recorded
  rw [recorded]
  exact List.append_nil _

/-- How much of a text is read when an error is found: up to the end of the part that shows the
first fault, or all of it when a parenthesis is left open. -/
inductive StopsAt (options : Options) (text : List Char) (parts : List Part) :
    ConditionError → Nat → Prop
  | shown {early late : List Part} {part : Part} {reason : ConditionError}
      (split : parts = early ++ part :: late)
      (faultless : Faultless options (early.map Part.token))
      (fault : Fault options (early.map Part.token) part.token reason) :
      StopsAt options text parts reason part.stop
  | leftOpen {around : List Token} {position : Nat}
      (faultless : Faultless options (parts.map Part.token))
      (innermost : Token.InnermostOpen (parts.map Part.token) around position) :
      StopsAt options text parts (.mismatchedParenthesis position) text.length

/-- The names that have ended in what was read before an error are recorded. -/
theorem FirstFault.exists_stop {text : List Char} {parts : List Part} {reason : ConditionError}
    (layout : Layout text parts) (first : FirstFault options (parts.map Part.token) reason) :
    ∃ place, StopsAt options text parts reason place ∧
      (Progress.run options .start (parts.map Part.token)).records =
        (parts.filter fun part => part.stop ≤ place).filterMap Part.record? := by
  cases first with
  | @shown before after token reason split faultless fault =>
      obtain ⟨early, others, rfl, rfl, tail⟩ := List.map_eq_append_iff.mp split
      obtain ⟨part, late, rfl, rfl, rfl⟩ := List.map_eq_cons_iff.mp tail
      refine ⟨part.stop, .shown rfl faultless fault, ?_⟩
      have unnamed : part.record? = none := fault.record?_eq_none
      rw [List.map_append, List.map_cons, fault.records faultless, layout.filter_stop_le,
        List.filterMap_append, List.filterMap_cons_none unnamed, List.filterMap_nil,
        List.append_nil, List.filterMap_map]
      rfl
  | leftOpen faultless innermost =>
      refine ⟨text.length, .leftOpen faultless innermost, ?_⟩
      have all : parts.filter (fun part => part.stop ≤ text.length) = parts := by
        apply List.filter_eq_self.mpr
        intro part member
        exact decide_eq_true (layout.stop_le_length member)
      rw [faultless.records, all, List.filterMap_map]
      rfl

/-- The text of a condition has one layout whatever the options are. Of a condition that parses,
each parenthesis and each comparison is one landmark of the tree, and the records are the names
that no comparison took and then the condition. Of one that does not parse, the records are the
names that had ended in what was read, and nothing follows them. The place of a recorded name is in
no comparison. -/
theorem parse_accounts_for_text (options : Options) (condition : String) :
    ∃ parts, Layout (normalize condition).toList parts ∧
      (∀ tree, (parse options condition).result = .ok tree →
        ∃ terms, tree = .scope terms ∧
          List.Forall₂ (Token.Shows options) ((parts.map Part.token).filter Token.isLandmark)
            (Expression.termLandmarks terms) ∧
          (parse options condition).records =
            parts.filterMap Part.record? ++ [.parsed condition tree.comparisons.length]) ∧
      (∀ reason, (parse options condition).result = .error reason →
        ∃ place, StopsAt options (normalize condition).toList parts reason place ∧
          (parse options condition).records =
            (parts.filter fun part => part.stop ≤ place).filterMap Part.record? ∧
          ∀ text comparisons, .parsed text comparisons ∉ (parse options condition).records) ∧
      ∀ name start, .droppedName name start ∈ (parse options condition).records →
        ∀ part ∈ parts, part.Covers start → part.token = .stray name start := by
  obtain ⟨parts, tokens, layout⟩ := exists_layout (normalize condition).toList
  have scanned : Token.scan (shortSpelling condition.toList) = parts.map Part.token := by
    rw [tokens, normalize, String.toList_ofList]
  have spelled : Token.Spells .none 0 (normalize condition).toList (parts.map Part.token) := by
    rw [tokens]
    exact Token.spells_scan _
  refine ⟨parts, layout, ?_⟩
  rcases parse_outcome options spelled with
    ⟨reason, failed, first⟩ | ⟨terms, read, parsed, content, faultless⟩
  · obtain ⟨place, stops, records⟩ := first.exists_stop layout
    rw [← scanned, ← parse_records_of_error failed] at records
    refine ⟨?_, ?_, ?_⟩
    · intro tree parsed
      rw [failed] at parsed
      cases parsed
    · intro other failed'
      rw [failed] at failed'
      cases failed'
      refine ⟨place, stops, records, ?_⟩
      intro text comparisons member
      rw [records] at member
      obtain ⟨name, start, same, -⟩ := Part.exists_stray member
      cases same
    · intro name start member
      rw [records] at member
      obtain ⟨_, _, same, part, inside, unused⟩ := Part.exists_stray member
      cases same
      exact layout.token_at_stray (List.mem_of_mem_filter inside) unused
  · have records := parse_records_of_ok parsed
    rw [scanned, faultless.records, List.filterMap_map] at records
    refine ⟨?_, ?_, ?_⟩
    · intro tree parsed'
      rw [parsed] at parsed'
      cases parsed'
      exact ⟨terms, rfl, content.landmarks, records⟩
    · intro reason failed
      rw [parsed] at failed
      cases failed
    · intro name start member
      rw [records] at member
      rcases List.mem_append.mp member with member | last
      · obtain ⟨_, _, same, part, inside, unused⟩ := Part.exists_stray member
        cases same
        exact layout.token_at_stray inside unused
      · cases List.mem_singleton.mp last

/-- Two names that nothing compares, around a name with a blank in it that is compared. Behind a
parenthesis that closes nothing, the last name has not ended when the error is found. -/
theorem parse_accounts_for_text_names :
    let condition := "x (a b = 1) and y"
    let names : List LogRecord := [.droppedName "x" 0, .droppedName "y" 13]
    let refused := "x (a b = 1) y) z"
    let reason := ConditionError.unmatchedClose 11
    let ended : List LogRecord := [.droppedName "x" 0, .droppedName "y" 10]
    (∃ terms parts, (parse {} condition).result = .ok (.scope terms) ∧
      Layout (normalize condition).toList parts ∧
      List.Forall₂ (Token.Shows {}) ((parts.map Part.token).filter Token.isLandmark)
        (Expression.termLandmarks terms) ∧
      parts.filterMap Part.record? = names ∧
      (parse {} condition).records = names ++ [.parsed condition 1] ∧
      ∀ part ∈ parts, part.Covers 13 → part.token = .stray "y" 13) ∧
    (parse {} refused).result = .error reason ∧ (parse {} refused).records = ended ∧
      ∃ parts place, Layout (normalize refused).toList parts ∧
        StopsAt {} (normalize refused).toList parts reason place ∧
        (parts.filter fun part => part.stop ≤ place).filterMap Part.record? = ended := by
  intro condition names refused reason ended
  obtain ⟨tree, parsed, one⟩ : ∃ tree, (parse {} condition).result = .ok tree ∧
      tree.comparisons.length = 1 := exists_ok_of_map (by decide +kernel)
  have records : (parse {} condition).records = names ++ [.parsed condition 1] := by
    decide +kernel
  have failed : (parse {} refused).result = .error reason := eq_error_of_map (by decide +kernel)
  have until_error : (parse {} refused).records = ended := by decide +kernel
  obtain ⟨parts, layout, accepted, -, places⟩ := parse_accounts_for_text {} condition
  obtain ⟨terms, rfl, landmarks, whole⟩ := accepted tree parsed
  have dropped : parts.filterMap Part.record? = names := by
    rw [records, one] at whole
    exact (List.append_cancel_right whole).symm
  have last : LogRecord.droppedName "y" 13 ∈ (parse {} condition).records := by
    rw [records]
    exact List.mem_append_left _ (List.mem_cons_of_mem _ List.mem_cons_self)
  obtain ⟨parts', layout', -, rejected, -⟩ := parse_accounts_for_text {} refused
  obtain ⟨place, stops, made, -⟩ := rejected reason failed
  exact ⟨⟨terms, parts, parsed, layout, landmarks, dropped, records, places "y" 13 last⟩, failed,
    until_error, parts', place, layout', stops, made.symm.trans until_error⟩

end AdTargeting
