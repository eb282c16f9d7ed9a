import AdTargeting.Proofs.Condition.Descent
import AdTargeting.Proofs.Condition.FirstFault

set_option autoImplicit false

/-
The cursor of reading by descent. Each turn of the loop over a scope moves it forward and keeps it
in the text, so reading ends; what a turn has read are the tokens that scanning finds there, so
reading by descent is parsing.
-/

namespace AdTargeting

namespace Descent

/-- The tokens from the cursor on, behind a pending name. -/
def tokensFrom (text : List Char) (name : PendingName) (cursor : Nat) : List Token :=
  Token.scanFrom name cursor (text.drop cursor)

/-- What a scope has gathered as progress of parsing, with the scopes around it. -/
def Gathered.progress (gathered : Gathered) (enclosing : List Interrupted) : Progress :=
  ⟨gathered.terms, gathered.relation, enclosing⟩

section Steps

variable {options : Options}

theorem steps_append_bind (progress : Progress) (first second : List Token) :
    Progress.steps options progress (first ++ second) =
      (Progress.steps options progress first).bind fun next =>
        Progress.steps options next second :=
  List.foldlM_append

theorem steps_cons_bind (progress : Progress) (token : Token) (rest : List Token) :
    Progress.steps options progress (token :: rest) =
      (Progress.step options progress token).bind fun next =>
        Progress.steps options next rest :=
  List.foldlM_cons

theorem steps_stray (progress : Progress) (name : PendingName) (row : List Token) :
    Progress.steps options progress (name.stray ++ row) =
      Progress.steps options progress row := by
  unfold PendingName.stray
  split
  · rfl
  · exact Progress.steps_cons row rfl

theorem steps_stray_alone (progress : Progress) (name : PendingName) :
    Progress.steps options progress name.stray = .ok progress := by
  rw [← List.append_nil name.stray, steps_stray]
  rfl

theorem matched_stray (name : PendingName) : Token.Matched name.stray := by
  unfold PendingName.stray
  split
  · exact .nil
  · exact .single rfl rfl

end Steps

section Spec

variable (options : Options) (text : List Char)

/-- From one state of the loop over a scope to a later one. The tokens between them are those of the
text; they close what they open, and parsing makes the same progress over them. -/
structure Reads (depth : Nat) (gathered : Gathered) (cursor : Nat) (row : List Token)
    (next : Gathered) (stop : Nat) : Prop where
  forward : cursor ≤ stop
  within : stop ≤ text.length
  tokens : tokensFrom text gathered.name cursor = row ++ tokensFrom text next.name stop
  matched : Token.Matched row
  steps : ∀ enclosing : List Interrupted, enclosing.length = depth →
    Progress.steps options (gathered.progress enclosing) row = .ok (next.progress enclosing)

/-- A parenthesis at the cursor that is refused before it is taken. -/
def RefusesParenthesis (cursor : Nat) (reason : ConditionError) : Prop :=
  reason = .unmatchedClose cursor ∨ reason = .nestingTooDeep options.maxDepth cursor

/-- Where a refusal leaves the cursor. It stays in place only for a parenthesis that is refused
there, or at the end of the text. -/
def LeavesAt (cursor : Nat) (reason : ConditionError) (stop : Nat) : Prop :=
  cursor < stop ∨
    stop = cursor ∧ (RefusesParenthesis options cursor reason ∨ cursor = text.length)

/-- Parsing goes wrong from here on for a reason that is the same in all scopes that fit. -/
def Refuses (opened : Option Nat) (depth : Nat) (gathered : Gathered) (cursor : Nat)
    (reason : ConditionError) : Prop :=
  ∀ enclosing : List Interrupted, enclosing.length = depth →
    enclosing.head?.map Interrupted.opened = opened →
      (Progress.steps options (gathered.progress enclosing)
        (tokensFrom text gathered.name cursor)).bind Progress.finish = .error reason

/-- All that reading the rest of a scope can end as. -/
inductive EndsAs (opened : Option Nat) (depth : Nat) (gathered : Gathered) (cursor : Nat) :
    Ending → Prop
  | atEnd {row : List Token} {last : Gathered} (outermost : opened = none)
      (reads : Reads options text depth gathered cursor row last text.length) :
      EndsAs opened depth gathered cursor (.found (.scope last.terms) text.length)
  | closed {first stop : Nat} {row : List Token} {last : Gathered} (inner : opened = some first)
      (reads : Reads options text depth gathered cursor row last stop)
      (closes : text[stop]? = some ')') :
      EndsAs opened depth gathered cursor (.found (.scope last.terms) (stop + 1))
  | refused {reason : ConditionError} {stop : Nat}
      (leaves : LeavesAt options text cursor reason stop) (within : stop ≤ text.length)
      (refuses : Refuses options text opened depth gathered cursor reason) :
      EndsAs opened depth gathered cursor (.refused reason stop)

/-- All that one turn of the loop can come to. -/
inductive TurnsTo (opened : Option Nat) (depth : Nat) (gathered : Gathered) (cursor : Nat) :
    Turn → Prop
  | goesOn {row : List Token} {next : Gathered} {stop : Nat} (moves : cursor < stop)
      (reads : Reads options text depth gathered cursor row next stop) :
      TurnsTo opened depth gathered cursor (.goesOn next stop)
  | ends {ending : Ending} (reaches : EndsAs options text opened depth gathered cursor ending) :
      TurnsTo opened depth gathered cursor (.ends ending)

end Spec

section Tokens

variable {text : List Char} {cursor : Nat}

theorem tokensFrom_end (text : List Char) (name : PendingName) :
    tokensFrom text name text.length = name.stray := by
  rw [tokensFrom, List.drop_length, Token.scanFrom_nil]

theorem tokensFrom_opening (name : PendingName) (found : text[cursor]? = some '(') :
    tokensFrom text name cursor =
      name.stray ++ .opening cursor :: tokensFrom text .none (cursor + 1) := by
  rw [tokensFrom, tokensFrom, drop_of_getElem? found, Token.scanFrom_opening]

theorem tokensFrom_closing (name : PendingName) (found : text[cursor]? = some ')') :
    tokensFrom text name cursor =
      name.stray ++ .closing cursor :: tokensFrom text .none (cursor + 1) := by
  rw [tokensFrom, tokensFrom, drop_of_getElem? found, Token.scanFrom_closing]

end Tokens

section Laws

variable {options : Options} {text : List Char} {opened : Option Nat} {depth cursor stop : Nat}
  {gathered next : Gathered} {row : List Token}

theorem Reads.refl (gathered : Gathered) (within : cursor ≤ text.length) :
    Reads options text depth gathered cursor [] gathered cursor :=
  ⟨Nat.le_refl _, within, rfl, .nil, fun _ _ => rfl⟩

theorem Reads.trans {last : Gathered} {later : List Token} {finish : Nat}
    (first : Reads options text depth gathered cursor row next stop)
    (second : Reads options text depth next stop later last finish) :
    Reads options text depth gathered cursor (row ++ later) last finish where
  forward := Nat.le_trans first.forward second.forward
  within := second.within
  tokens := by rw [first.tokens, second.tokens, List.append_assoc]
  matched := first.matched.append second.matched
  steps := by
    intro enclosing size
    rw [Progress.steps_append later (first.steps enclosing size), second.steps enclosing size]

/-- What was read up to a parenthesis that closes, a name that is left over included. -/
theorem Reads.before_closing (reads : Reads options text depth gathered cursor row next stop)
    (closes : text[stop]? = some ')') :
    ∃ inside, Token.Matched inside ∧
      tokensFrom text gathered.name cursor =
        inside ++ .closing stop :: tokensFrom text .none (stop + 1) ∧
      ∀ enclosing : List Interrupted, enclosing.length = depth →
        Progress.steps options (gathered.progress enclosing) inside =
          .ok (next.progress enclosing) := by
  refine ⟨row ++ next.name.stray, reads.matched.append (matched_stray _), ?_, ?_⟩
  · rw [reads.tokens, tokensFrom_closing _ closes, List.append_assoc]
  · intro enclosing size
    rw [Progress.steps_append _ (reads.steps enclosing size), steps_stray_alone]

theorem LeavesAt.forward {reason : ConditionError}
    (leaves : LeavesAt options text cursor reason stop) : cursor ≤ stop := by
  rcases leaves with moves | ⟨rfl, -⟩
  · exact Nat.le_of_lt moves
  · exact Nat.le_refl _

theorem LeavesAt.after {reason : ConditionError} {middle : Nat}
    (leaves : LeavesAt options text middle reason stop) (forward : cursor ≤ middle) :
    LeavesAt options text cursor reason stop := by
  rcases Nat.eq_or_lt_of_le forward with rfl | moves
  · exact leaves
  · exact .inl (Nat.lt_of_lt_of_le moves leaves.forward)

theorem Refuses.after {reason : ConditionError}
    (refuses : Refuses options text opened depth next stop reason)
    (reads : Reads options text depth gathered cursor row next stop) :
    Refuses options text opened depth gathered cursor reason := by
  intro enclosing size around
  rw [reads.tokens, Progress.steps_append _ (reads.steps enclosing size)]
  exact refuses enclosing size around

theorem EndsAs.after {ending : Ending}
    (reaches : EndsAs options text opened depth next stop ending)
    (reads : Reads options text depth gathered cursor row next stop) :
    EndsAs options text opened depth gathered cursor ending := by
  cases reaches with
  | atEnd outermost later => exact .atEnd outermost (reads.trans later)
  | closed inner later closes => exact .closed inner (reads.trans later) closes
  | refused leaves within refuses =>
      exact .refused (leaves.after reads.forward) within (refuses.after reads)

theorem Refuses.of_steps {reason : ConditionError} {later : List Token}
    (tokens : tokensFrom text gathered.name cursor = row ++ later)
    (failed : ∀ enclosing : List Interrupted, enclosing.length = depth →
      enclosing.head?.map Interrupted.opened = opened →
        Progress.steps options (gathered.progress enclosing) row = .error reason) :
    Refuses options text opened depth gathered cursor reason := by
  intro enclosing size around
  rw [tokens, steps_append_bind, failed enclosing size around]
  rfl

theorem TurnsTo.takeIn {expression : Expression} {position : Nat} (moves : cursor < stop)
    (within : stop ≤ text.length)
    (tokens : tokensFrom text gathered.name cursor = row ++ tokensFrom text .none stop)
    (matched : Token.Matched row)
    (added : ∀ enclosing : List Interrupted, enclosing.length = depth →
      Progress.steps options (gathered.progress enclosing) row =
        Progress.add (gathered.progress enclosing) expression position) :
    TurnsTo options text opened depth gathered cursor
      (gathered.takeIn position (.found expression stop)) := by
  obtain ⟨terms, relation, name⟩ := gathered
  have forward := Nat.le_of_lt moves
  cases terms with
  | nil => exact .goesOn moves ⟨forward, within, tokens, matched, added⟩
  | cons first others =>
      cases relation with
      | some relation => exact .goesOn moves ⟨forward, within, tokens, matched, added⟩
      | none =>
          refine .ends (.refused (.inl moves) within (.of_steps tokens ?_))
          intro enclosing size _
          exact added enclosing size

end Laws

section Turns

variable {options : Options} {text rest : List Char} {nested : Nat → Option Ending}
  {opened : Option Nat} {depth cursor : Nat} {gathered : Gathered}

/-- One turn comes to an end, and to one of the results that it can have. -/
def Settles (options : Options) (text : List Char) (nested : Nat → Option Ending)
    (opened : Option Nat) (depth : Nat) (gathered : Gathered) (cursor : Nat) : Prop :=
  ∃ result, turn options text nested opened depth gathered cursor = some result ∧
    TurnsTo options text opened depth gathered cursor result

theorem Reads.of_relation {name : PendingName} {terms : List Term} {read : Option Relation}
    {stop : Nat} (value : Relation) (doubled : Bool) (forward : cursor ≤ stop)
    (within : stop ≤ text.length)
    (tokens : tokensFrom text name cursor =
      name.stray ++ .relation value doubled :: tokensFrom text .none stop) :
    Reads options text depth ⟨terms, read, name⟩ cursor (name.stray ++ [.relation value doubled])
      ⟨terms, some value, .none⟩ stop where
  forward := forward
  within := within
  tokens := by rw [tokens, List.append_assoc, List.singleton_append]
  matched := (matched_stray name).append (.single rfl rfl)
  steps := by
    intro enclosing _
    rw [steps_stray, Progress.steps_single]
    rfl

theorem settles_at_end : Settles options text nested opened depth gathered text.length := by
  have nothing : text[text.length]? = none := getElem?_end List.drop_length
  have within := Nat.le_refl text.length
  refine ⟨.ends (gathered.atEnd opened text.length), by rw [turn, nothing], .ends ?_⟩
  cases opened with
  | none => exact .atEnd rfl (.refl gathered within)
  | some position =>
      refine .refused (.inr ⟨rfl, .inr rfl⟩) within ?_
      intro enclosing size around
      obtain ⟨outer, head, same⟩ := Option.map_eq_some_iff.mp around
      obtain ⟨others, rfl⟩ := List.head?_eq_some_iff.mp head
      rw [tokensFrom_end, steps_stray_alone, ← same]
      rfl

theorem settles_at_closing (within : cursor ≤ text.length) (found : text[cursor]? = some ')') :
    Settles options text nested opened depth gathered cursor := by
  refine ⟨.ends (gathered.atClosing opened cursor), by rw [turn, found]; rfl, .ends ?_⟩
  cases opened with
  | none =>
      refine .refused (.inr ⟨rfl, .inl (.inl rfl)⟩) within ?_
      intro enclosing size around
      have outermost : enclosing = [] := by
        cases enclosing with
        | nil => rfl
        | cons outer others => cases around
      subst outermost
      rw [tokensFrom_closing _ found, steps_stray]
      rfl
  | some position => exact .closed rfl (.refl gathered within) found

theorem step_opening (room : ¬ options.maxDepth < depth + 1) (enclosing : List Interrupted)
    (size : enclosing.length = depth) (gathered : Gathered) :
    Progress.step options (gathered.progress enclosing) (.opening cursor) =
      .ok (Gathered.start.progress
        (⟨gathered.terms, gathered.relation, cursor⟩ :: enclosing)) := by
  rw [Progress.step, Progress.openScope, if_neg (by rwa [Gathered.progress, size])]
  rfl

/-- A scope that was read to the parenthesis that closes it is taken in as a group. -/
theorem TurnsTo.group {last : Gathered} {row : List Token} {stop : Nat}
    (found : text[cursor]? = some '(') (room : ¬ options.maxDepth < depth + 1)
    (reads : Reads options text (depth + 1) .start (cursor + 1) row last stop)
    (closes : text[stop]? = some ')') :
    TurnsTo options text opened depth gathered cursor
      (gathered.takeIn cursor (.found (.scope last.terms) (stop + 1))) := by
  obtain ⟨inside, matched, inner, body⟩ := reads.before_closing closes
  have forward := reads.forward
  have stop_within := next_le_length closes
  have tokens : tokensFrom text gathered.name cursor = gathered.name.stray ++
      (.opening cursor :: inside ++ [.closing stop]) ++ tokensFrom text .none (stop + 1) := by
    have behind : tokensFrom text .none (cursor + 1) =
        inside ++ .closing stop :: tokensFrom text .none (stop + 1) := inner
    rw [tokensFrom_opening _ found, behind]
    simp only [List.append_assoc, List.cons_append, List.nil_append]
  refine .takeIn (by omega) stop_within tokens ?_ ?_
  · exact (matched_stray _).append (matched.group cursor stop)
  · intro enclosing size
    rw [steps_stray, List.cons_append,
      Progress.steps_cons _ (step_opening room enclosing size gathered),
      Progress.steps_append _ (body _ (by rw [List.length_cons, size])), Progress.steps_single]
    rfl

theorem settles_at_opening (within : cursor ≤ text.length) (found : text[cursor]? = some '(')
    (inner : ∃ ending, nested cursor = some ending ∧
      EndsAs options text (some cursor) (depth + 1) .start (cursor + 1) ending) :
    Settles options text nested opened depth gathered cursor := by
  have tokens := tokensFrom_opening gathered.name found
  by_cases full : options.maxDepth < depth + 1
  · refine ⟨.ends (.refused (.nestingTooDeep options.maxDepth cursor) cursor), ?_, ?_⟩
    · rw [turn, found]
      simp only [↓reduceIte, full]
    · refine .ends (.refused (.inr ⟨rfl, .inl (.inr rfl)⟩) within ?_)
      intro enclosing size _
      rw [tokens, steps_stray, steps_cons_bind, Progress.step, Progress.openScope,
        if_pos (by rwa [Gathered.progress, size])]
      rfl
  · obtain ⟨ending, read, reaches⟩ := inner
    refine ⟨gathered.takeIn cursor ending, ?_, ?_⟩
    · rw [turn, found]
      simp only [↓reduceIte, full, read]
      rfl
    cases reaches with
    | atEnd outermost reads => cases outermost
    | closed _ reads closes => exact .group found full reads closes
    | refused leaves inside refuses =>
        refine .ends (.refused (.inl leaves.forward) inside ?_)
        intro enclosing size _
        rw [tokens, steps_stray, Progress.steps_cons _ (step_opening full enclosing size gathered)]
        exact refuses _ (by rw [List.length_cons, size]) rfl

/-- A relation is read with its copy, if one follows it. -/
theorem settles_at_relation {stop : Nat} (value : Relation) (doubled : Bool)
    (found : text[cursor]? = some value.mark)
    (copied : (if text[cursor + 1]? = some value.mark then cursor + 2 else cursor + 1) = stop)
    (moves : cursor < stop) (within : stop ≤ text.length)
    (tokens : tokensFrom text gathered.name cursor =
      gathered.name.stray ++ .relation value doubled :: tokensFrom text .none stop) :
    Settles options text nested opened depth gathered cursor := by
  refine ⟨.goesOn ⟨gathered.terms, some value, .none⟩ stop, ?_, ?_⟩
  · rw [turn, found, ← copied]
    cases value <;> rfl
  · exact .goesOn moves (.of_relation value doubled (Nat.le_of_lt moves) within tokens)

theorem turn_of_sign {c : Char} (here : text.drop cursor = c :: rest) (sign : c ∈ signs) :
    turn options text nested opened depth gathered cursor =
      some (gathered.takeIn (gathered.name.startOr cursor)
        (readComparison options text gathered.name.text cursor)) := by
  rw [turn, getElem?_cursor here]
  simp only [signs, List.mem_cons, List.not_mem_nil, or_false] at sign
  rcases sign with rfl | rfl | rfl <;> rfl

/-- Taking in what a comparison was read as is reading its token. -/
theorem TurnsTo.comparison {name : String} {start stop : Nat} {operator : Operator}
    {literal : List Char} (moves : cursor < stop) (within : stop ≤ text.length)
    (tokens : tokensFrom text gathered.name cursor =
      [.comparison name start operator cursor literal] ++ tokensFrom text .none stop) :
    TurnsTo options text opened depth gathered cursor (gathered.takeIn start
      (if literal = [] then .refused (.danglingOperator operator cursor) stop
      else
        match Literal.read options literal (cursor + operator.width) with
        | .ok value => .found (.compare ⟨name, operator, value, cursor⟩) stop
        | .error reason => .refused reason stop)) := by
  by_cases empty : literal = []
  · rw [if_pos empty]
    refine .ends (.refused (.inl moves) within (.of_steps tokens ?_))
    intro enclosing _ _
    rw [Progress.steps_single, Progress.step, Progress.addComparison, if_pos empty]
  · rw [if_neg empty]
    cases accepted : Literal.read options literal (cursor + operator.width) with
    | error reason =>
        refine .ends (.refused (.inl moves) within (.of_steps tokens ?_))
        intro enclosing _ _
        rw [Progress.steps_single, Progress.step, Progress.addComparison, if_neg empty, accepted]
    | ok value =>
        refine .takeIn moves within tokens (.single rfl rfl) ?_
        intro enclosing _
        rw [Progress.steps_single, Progress.step, Progress.addComparison, if_neg empty, accepted]

theorem settles_at_comparison {literal : List Char} {operator : Operator}
    (within : cursor ≤ text.length)
    (here : text.drop cursor = operator.symbol.toList ++ (literal ++ rest))
    (longest : operator.Extensible → (literal ++ rest).head? ≠ some '=')
    (inside : ∀ c ∈ literal, ¬ EndsLiteral c)
    (boundary : ∀ c, rest.head? = some c → EndsLiteral c) :
    Settles options text nested opened depth gathered cursor := by
  obtain ⟨first, tail, symbol, sign, -, -⟩ := operatorOf_symbol operator (literal ++ rest) longest
  have whole : text.drop cursor = (operator.symbol.toList ++ literal) ++ rest := by
    rw [here, List.append_assoc]
  have stop_within := behind_le_length whole within
  have behind := drop_behind whole
  have moves : cursor < cursor + operator.width := by
    cases operator <;> exact Nat.lt_add_of_pos_right (by decide)
  rw [List.length_append, operator.length_symbol, ← Nat.add_assoc] at stop_within behind
  have tokens : tokensFrom text gathered.name cursor =
      [.comparison gathered.name.text (gathered.name.startOr cursor) operator cursor literal] ++
        tokensFrom text .none (cursor + operator.width + literal.length) := by
    rw [tokensFrom, tokensFrom, here, Token.scanFrom_comparison _ _ _ _ _ longest inside boundary,
      operator.length_symbol, behind, List.singleton_append]
  refine ⟨_, ?_, .comparison (Nat.lt_of_lt_of_le moves (Nat.le_add_right _ _)) stop_within tokens⟩
  rw [turn_of_sign (here.trans symbol) sign]
  exact congrArg (fun ending => some (gathered.takeIn _ ending))
    (readComparison_eq here longest inside boundary _)

theorem settles_within_name {c : Char} (name : PendingName) (here : text.drop cursor = c :: rest)
    (turned : turn options text nested opened depth gathered cursor =
      some (.goesOn { gathered with name } (cursor + 1)))
    (scanned : Token.scanFrom gathered.name cursor (c :: rest) =
      Token.scanFrom name (cursor + 1) rest) :
    Settles options text nested opened depth gathered cursor := by
  have stop_within := next_le_length (getElem?_cursor here)
  have tokens : tokensFrom text gathered.name cursor = [] ++ tokensFrom text name (cursor + 1) := by
    rw [tokensFrom, tokensFrom, here, scanned, drop_next here, List.nil_append]
  exact ⟨_, turned, .goesOn (Nat.lt_succ_self cursor)
    ⟨Nat.le_succ cursor, stop_within, tokens, .nil, fun _ _ => rfl⟩⟩

theorem turn_of_other {c : Char} (here : text.drop cursor = c :: rest) (ordinary : c ∉ delimiters) :
    turn options text nested opened depth gathered cursor =
      some (if isBlank c then .goesOn gathered (cursor + 1)
        else .goesOn { gathered with name := gathered.name.push c cursor } (cursor + 1)) := by
  simp only [delimiters, List.mem_cons, List.not_mem_nil, or_false, not_or] at ordinary
  obtain ⟨opening, closing, and, or, less, greater, equal⟩ := ordinary
  rw [turn, getElem?_cursor here]
  simp only [opening, closing, Relation.startingWith, and, or, less, greater, equal, or_self,
    ↓reduceIte]
  split <;> rfl

/-- Every turn comes to an end, if a scope that opens at the cursor is read to its end. -/
theorem settles (within : cursor ≤ text.length)
    (inner : cursor + 1 ≤ text.length → ∃ ending, nested cursor = some ending ∧
      EndsAs options text (some cursor) (depth + 1) .start (cursor + 1) ending) :
    Settles options text nested opened depth gathered cursor := by
  -- What stands here does not depend on the name that was read before it.
  have spelled := Token.spells_scanFrom .none cursor (text.drop cursor)
  generalize here : text.drop cursor = remaining at spelled
  generalize Token.scanFrom NamePart.none.pending cursor remaining = tokens at spelled
  cases spelled with
  | finish =>
      obtain rfl : cursor = text.length := Nat.le_antisymm within (List.drop_eq_nil_iff.mp here)
      exact settles_at_end
  | opening later =>
      have found := getElem?_cursor here
      exact settles_at_opening within found (inner (next_le_length found))
  | closing later => exact settles_at_closing within (getElem?_cursor here)
  | @single _ _ rest _ value alone later =>
      have found := getElem?_cursor here
      refine settles_at_relation value false found ?_ (Nat.lt_succ_self cursor)
        (next_le_length found) ?_
      · rw [getElem?_next here, if_neg alone]
      · rw [tokensFrom, tokensFrom, here, Token.scanFrom_single _ _ _ _ alone, drop_next here]
  | @doubled _ _ rest _ value later =>
      have copy : text[cursor + 1]? = some value.mark := getElem?_next here
      have behind : text.drop (cursor + 2) = rest := drop_next (drop_next here)
      refine settles_at_relation value true (getElem?_cursor here) ?_
        (Nat.lt_add_of_pos_right Nat.two_pos) (next_le_length copy) ?_
      · rw [if_pos copy]
      · rw [tokensFrom, tokensFrom, here, Token.scanFrom_doubled, behind]
  | comparison operator literal longest inside boundary later =>
      exact settles_at_comparison within here longest inside boundary
  | @blank _ _ c rest _ space later =>
      refine settles_within_name gathered.name here ?_ (Token.scanFrom_blank _ _ _ _ space)
      rw [turn_of_other here (not_mem_delimiters_of_blank space), if_pos space]
  | @first _ c rest _ inside later =>
      obtain ⟨visible, ordinary⟩ := inName_iff.mp inside
      refine settles_within_name _ here ?_ (Token.scanFrom_letter _ _ _ _ inside)
      rw [turn_of_other here ordinary, visible]
      rfl

theorem readTerms_ends {fuel : Nat} (within : cursor ≤ text.length)
    (enough : text.length - cursor < fuel) :
    ∃ ending, readTerms options text fuel opened depth gathered cursor = some ending ∧
      EndsAs options text opened depth gathered cursor ending := by
  -- Each turn, and each scope that is read in one, starts further on than the turn before it.
  induction fuel generalizing opened depth gathered cursor with
  | zero => exact absurd enough (Nat.not_lt_zero _)
  | succ fuel ih =>
      have settled : Settles options text (readNested options text fuel depth) opened depth gathered
          cursor := by
        apply settles within
        intro inside
        exact ih inside (by omega)
      obtain ⟨result, turned, turns⟩ := settled
      rw [readTerms_succ, turned]
      cases turns with
      | @goesOn row next stop moves reads =>
          have inside := reads.within
          obtain ⟨ending, read, reaches⟩ := @ih opened depth stop next inside (by omega)
          exact ⟨ending, read, reaches.after reads⟩
      | @ends ending reaches => exact ⟨ending, rfl, reaches⟩

end Turns

/-- How a turn that begins at the cursor leaves it: further on and still in the text, but for a
parenthesis that is refused where it stands. No turn asks for what the text does not have. -/
def Turn.Moves (options : Options) (text : List Char) (cursor : Nat) : Turn → Prop
  | .goesOn _ stop => cursor < stop ∧ stop ≤ text.length
  | .ends (.found _ stop) => cursor < stop ∧ stop ≤ text.length
  | .ends (.refused reason stop) =>
      (cursor < stop ∨ stop = cursor ∧ RefusesParenthesis options cursor reason) ∧
        stop ≤ text.length
  | .ends .outOfRange => False

/-- Counted from the parenthesis at `first`, the parentheses balance for the first time with the one
in front of `stop`. Those in literals are no tokens and do not count. -/
def ClosesBefore (text : List Char) (first stop : Nat) : Prop :=
  ∃ before last, stop = last + 1 ∧ text[last]? = some ')' ∧
    tokensFrom text .none first = before ++ .closing last :: tokensFrom text .none stop ∧
    Token.openings (before ++ [.closing last]) = Token.closings (before ++ [.closing last]) ∧
    ∀ early, early <+: before → early ≠ [] → Token.closings early < Token.openings early

/-- What reading a scope from the cursor on does with it. -/
structure KeepsCursor (options : Options) (text : List Char) (opened : Option Nat)
    (depth cursor : Nat) : Prop where
  ends : ∃ ending, ending ≠ .outOfRange ∧ ∀ fuel, text.length - cursor < fuel →
    readScope options text fuel opened depth cursor = some ending
  moves : cursor < text.length → ∀ gathered fuel, text.length - cursor ≤ fuel → ∃ result,
    turn options text (readNested options text fuel depth) opened depth gathered cursor =
      some result ∧ result.Moves options text cursor
  compares : cursor < text.length → ∀ name,
    readComparison options text name cursor ≠ .outOfRange
  closes : ∀ first tree stop fuel, opened = some first → cursor = first + 1 →
    text[first]? = some '(' →
      readScope options text fuel opened depth cursor = some (.found tree stop) →
        ClosesBefore text first stop
  finishes : ∀ tree stop fuel, opened = none →
    readScope options text fuel opened depth cursor = some (.found tree stop) →
      stop = text.length

section Contract

variable {options : Options} {text : List Char} {opened : Option Nat} {depth cursor : Nat}

theorem EndsAs.ne_outOfRange {gathered : Gathered} {ending : Ending}
    (reaches : EndsAs options text opened depth gathered cursor ending) :
    ending ≠ .outOfRange := by
  cases reaches <;> exact Ending.noConfusion

theorem TurnsTo.moves {gathered : Gathered} {result : Turn} (inside : cursor < text.length)
    (turns : TurnsTo options text opened depth gathered cursor result) :
    result.Moves options text cursor := by
  cases turns with
  | goesOn moves reads => exact ⟨moves, reads.within⟩
  | ends reaches =>
      cases reaches with
      | atEnd outermost reads => exact ⟨inside, Nat.le_refl _⟩
      | closed inner reads closes =>
          exact ⟨Nat.lt_succ_of_le reads.forward, next_le_length closes⟩
      | refused leaves within refuses =>
          exact ⟨leaves.imp_right fun stays => ⟨stays.1, stays.2.resolve_right (by omega)⟩, within⟩

/-- However much fuel it takes, reading a scope ends in one of the ways that it can end. -/
theorem endsAs_of_readScope {fuel : Nat} {ending : Ending} (within : cursor ≤ text.length)
    (read : readScope options text fuel opened depth cursor = some ending) :
    EndsAs options text opened depth .start cursor ending := by
  have larger : text.length - cursor < fuel + text.length + 1 := by omega
  obtain ⟨other, read_other, reaches⟩ := readTerms_ends within larger
  have same : some ending = some other :=
    (readTerms_mono (by omega) read).symm.trans read_other
  cases same
  exact reaches

/-- What is read to its parenthesis was opened by the one from which the tokens are counted. -/
theorem closesBefore_of_reads {first stop : Nat} {row : List Token} {last : Gathered}
    (opens : text[first]? = some '(')
    (reads : Reads options text depth .start (first + 1) row last stop)
    (closes : text[stop]? = some ')') : ClosesBefore text first (stop + 1) := by
  obtain ⟨inside, matched, behind, -⟩ := reads.before_closing closes
  have inner : tokensFrom text .none (first + 1) =
      inside ++ .closing stop :: tokensFrom text .none (stop + 1) := behind
  refine ⟨.opening first :: inside, stop, rfl, closes, ?_, (matched.group first stop).total, ?_⟩
  · rw [tokensFrom_opening _ opens, inner]
    rfl
  · intro early part nonempty
    rcases List.prefix_cons_iff.mp part with rfl | ⟨later, rfl, later_part⟩
    · exact absurd rfl nonempty
    · have below := matched.within later later_part
      rw [Token.closings_opening, Token.openings_opening]
      omega

theorem keepsCursor (options : Options) (opened : Option Nat) (depth : Nat)
    (within : cursor ≤ text.length) : KeepsCursor options text opened depth cursor where
  ends := by
    obtain ⟨ending, read, reaches⟩ :=
      @readTerms_ends options text opened depth cursor .start _ within (Nat.lt_succ_self _)
    exact ⟨ending, reaches.ne_outOfRange, fun fuel enough => readTerms_mono enough read⟩
  moves := by
    intro inside gathered fuel enough
    obtain ⟨result, turned, turns⟩ : Settles options text (readNested options text fuel depth)
        opened depth gathered cursor :=
      settles within fun inner => readTerms_ends inner (by omega)
    exact ⟨result, turned, turns.moves inside⟩
  compares := fun inside name => readComparison_ne_outOfRange options name inside
  closes := by
    rintro first tree stop fuel rfl rfl opens found
    cases endsAs_of_readScope within found with
    | closed inner reads closes => exact closesBefore_of_reads opens reads closes
    | atEnd outermost reads => cases outermost
  finishes := by
    rintro tree stop fuel rfl found
    cases endsAs_of_readScope within found with
    | closed inner reads closes => cases inner
    | atEnd outermost reads => rfl

end Contract

def Ending.ofResult (cursor : Nat) : Except ConditionError Expression → Ending
  | .ok tree => .found tree cursor
  | .error reason => .refused reason cursor

/-- Parsing is reading by descent from the start of the short spelling. -/
theorem exists_readScope_eq_parse (options : Options) (condition : String) :
    ∃ stop, ∀ fuel, (normalize condition).toList.length < fuel →
      readScope options (normalize condition).toList fuel none 0 0 =
        some (.ofResult stop (parse options condition).result) := by
  have parsed := parse_result options (Token.spells_scan (normalize condition).toList)
  generalize (normalize condition).toList = text at parsed
  have start : Token.scan text = tokensFrom text .none 0 := rfl
  obtain ⟨⟨ending, -, read⟩, -, -, -, -⟩ := keepsCursor options none 0 (Nat.zero_le text.length)
  have reaches := endsAs_of_readScope (Nat.zero_le _) (read _ (Nat.lt_succ_self _))
  rw [parsed, start]
  cases reaches with
  | closed inner reads closes => cases inner
  | @atEnd row last outermost reads =>
      have tokens : tokensFrom text .none 0 = row ++ tokensFrom text last.name text.length :=
        reads.tokens
      have steps : Progress.steps options .start row = .ok (last.progress []) := reads.steps [] rfl
      have whole : Progress.steps options .start (tokensFrom text .none 0) =
          .ok (last.progress []) := by
        rw [tokens, tokensFrom_end, Progress.steps_append _ steps, steps_stray_alone]
      rw [whole]
      exact ⟨text.length, read⟩
  | @refused reason stop leaves within refuses =>
      have failed : (Progress.steps options .start (tokensFrom text .none 0)).bind
          Progress.finish = .error reason := refuses [] rfl rfl
      rw [failed]
      exact ⟨stop, read⟩

/-- Reading by descent, which is how conditions can be parsed, keeps its cursor. From every place of
every text and at every depth it comes to an end, and to the same with more fuel. Each turn of it
moves on and stays in the text, unless it refuses the parenthesis that it is at. A scope ends behind
the parenthesis that closes it, and the outermost one with the text. -/
theorem descent_keeps_cursor (options : Options) :
    (∀ text opened depth cursor, cursor ≤ text.length →
      KeepsCursor options text opened depth cursor) ∧
    ∀ condition, ∃ stop, ∀ fuel, (normalize condition).toList.length < fuel →
      readScope options (normalize condition).toList fuel none 0 0 =
        some (.ofResult stop (parse options condition).result) :=
  ⟨fun _ opened depth _ within => keepsCursor options opened depth within,
    exists_readScope_eq_parse options⟩

/-- `x (a=() & b`: a scope with a parenthesis in its literal, in a text that goes on behind it. -/
def scopeAndMore : List Char := ['x', ' ', '(', 'a', '=', '(', ')', ' ', '&', ' ', 'b']

/-- The scope in it is read to its own parenthesis, from behind the one that opens it. -/
theorem descent_keeps_cursor_literal :
    let tree := Expression.scope [⟨none, .compare ⟨"a", .equal, .text "(", 4⟩⟩]
    3 ≤ scopeAndMore.length ∧
      readScope {} scopeAndMore 9 (some 2) 1 3 = some (.found tree 7) ∧
      ClosesBefore scopeAndMore 2 7 ∧
      ∃ result, turn {} scopeAndMore (readNested {} scopeAndMore 9 0) none 0 .start 2 =
        some result ∧ result.Moves {} scopeAndMore 2 := by
  intro tree
  let name : PendingName := ⟨"a", 3⟩
  have compared : readComparison {} scopeAndMore name.text 4 =
      .found (.compare ⟨"a", .equal, .text "(", 4⟩) 6 := by
    simp only [readComparison, literalEnd_eq]
    rfl
  have taken : turn {} scopeAndMore (readNested {} scopeAndMore 7 1) (some 2) 1
      ⟨[], none, name⟩ 4 = some (.goesOn ⟨[⟨none, .compare ⟨"a", .equal, .text "(", 4⟩⟩], none,
        .none⟩ 6) := by
    change some (Gathered.takeIn _ 3 (readComparison {} scopeAndMore name.text 4)) = _
    rw [compared]
    rfl
  have read : readScope {} scopeAndMore 9 (some 2) 1 3 = some (.found tree 7) := by
    change readTerms {} scopeAndMore 8 (some 2) 1 ⟨[], none, name⟩ 4 = _
    rw [readTerms_succ, taken]
    rfl
  obtain ⟨keeps, -⟩ := descent_keeps_cursor {}
  have inner := keeps scopeAndMore (some 2) 1 3 (by decide)
  have outer := keeps scopeAndMore none 0 2 (by decide)
  exact ⟨by decide, read, inner.closes 2 tree 7 9 rfl rfl rfl read,
    outer.moves (by decide) .start 9 (by decide)⟩

end Descent

end AdTargeting
