import AdTargeting.Condition.Parse
import AdTargeting.Proofs.Condition.Lexeme

set_option autoImplicit false

/-
Reading a condition by descent. One cursor moves over the characters, a loop reads a scope, and a
scope inside it is read by a call of its own that moves the same cursor. Whether the loop comes to
an end, and whether the cursor stays in the text, is left open here.
-/

namespace AdTargeting

namespace Descent

/-- How reading a scope or a comparison ends, and where the cursor is then. -/
inductive Ending where
  | found (expression : Expression) (cursor : Nat)
  | refused (reason : ConditionError) (cursor : Nat)
  /-- A character or a stretch was asked for that the text does not have. -/
  | outOfRange

/-- What the loop over a scope has gathered. -/
structure Gathered where
  terms : List Term
  relation : Option Relation
  name : PendingName

/-- What one turn of the loop over a scope comes to. -/
inductive Turn where
  | goesOn (gathered : Gathered) (cursor : Nat)
  | ends (ending : Ending)

namespace Gathered

def start : Gathered := ⟨[], none, .none⟩

/-- Takes in what was read as a term, with the relation before it. -/
def takeIn (gathered : Gathered) (position : Nat) : Ending → Turn
  | .found expression cursor =>
      match gathered.terms, gathered.relation with
      | [], _ => .goesOn ⟨[⟨none, expression⟩], none, .none⟩ cursor
      | terms, some relation =>
          .goesOn ⟨terms ++ [⟨some relation, expression⟩], none, .none⟩ cursor
      | _, none => .ends (.refused (.missingRelation position) cursor)
  | .refused reason cursor => .ends (.refused reason cursor)
  | .outOfRange => .ends .outOfRange

def atEnd (gathered : Gathered) (opened : Option Nat) (cursor : Nat) : Ending :=
  match opened with
  | none => .found (.scope gathered.terms) cursor
  | some position => .refused (.mismatchedParenthesis position) cursor

def atClosing (gathered : Gathered) (opened : Option Nat) (cursor : Nat) : Ending :=
  match opened with
  | none => .refused (.unmatchedClose cursor) cursor
  | some _ => .found (.scope gathered.terms) (cursor + 1)

end Gathered

def operatorOf (first : Char) (extended : Bool) : Operator :=
  match first, extended with
  | '<', true => .lessEqual
  | '<', false => .less
  | '>', true => .greaterEqual
  | '>', false => .greater
  | _, _ => .equal

section Reading

variable (options : Options) (text : List Char)

/-- The characters from `start` up to `stop`, if the text has them. -/
def slice (start stop : Nat) : Option (List Char) :=
  if start ≤ stop ∧ stop ≤ text.length then some ((text.drop start).take (stop - start)) else none

/-- Where a literal ends whose next character is at the cursor. -/
def literalEnd (cursor : Nat) : Nat :=
  if inside : cursor < text.length then
    if inLiteral text[cursor] then literalEnd (cursor + 1) else cursor
  else cursor
termination_by text.length - cursor

def comparisonAt (name : String) (operator : Operator) (position start stop : Nat) : Ending :=
  if stop = start then .refused (.danglingOperator operator position) stop
  else
    match slice text start stop with
    | none => .outOfRange
    | some characters =>
        match Literal.read options characters start with
        | .ok literal => .found (.compare { name, operator, literal, position }) stop
        | .error reason => .refused reason stop

def readComparison (name : String) (cursor : Nat) : Ending :=
  match text[cursor]? with
  | none => .outOfRange
  | some first =>
      let extended := first != '=' && text[cursor + 1]? == some '='
      let start := if extended then cursor + 2 else cursor + 1
      comparisonAt options text name (operatorOf first extended) cursor start
        (literalEnd text start)

/-- One turn of the loop over a scope. `nested` is what reading the scope that opens at a place ends
as, if it does. -/
def turn (nested : Nat → Option Ending) (opened : Option Nat) (depth : Nat) (gathered : Gathered)
    (cursor : Nat) : Option Turn :=
  match text[cursor]? with
  | none => some (.ends (gathered.atEnd opened cursor))
  | some c =>
      if c = '(' then
        if options.maxDepth < depth + 1 then
          some (.ends (.refused (.nestingTooDeep options.maxDepth cursor) cursor))
        else (nested cursor).map (gathered.takeIn cursor)
      else if c = ')' then some (.ends (gathered.atClosing opened cursor))
      else
        match Relation.startingWith c with
        | some relation =>
            let stop := if text[cursor + 1]? = some c then cursor + 2 else cursor + 1
            some (.goesOn ⟨gathered.terms, some relation, .none⟩ stop)
        | none =>
            if c = '<' ∨ c = '>' ∨ c = '=' then
              some (gathered.takeIn (gathered.name.startOr cursor)
                (readComparison options text gathered.name.text cursor))
            else if isBlank c then some (.goesOn gathered (cursor + 1))
            else
              some (.goesOn { gathered with name := gathered.name.push c cursor } (cursor + 1))

/-- Reads the rest of a scope. `opened` is where its parenthesis stands; the outermost scope has
none. Nothing is known of a loop that has not ended when the fuel has run out. -/
def readTerms : Nat → Option Nat → Nat → Gathered → Nat → Option Ending
  | 0, _, _, _, _ => none
  | fuel + 1, opened, depth, gathered, cursor =>
      let nested position := readTerms fuel (some position) (depth + 1) .start (position + 1)
      match turn options text nested opened depth gathered cursor with
      | none => none
      | some (.goesOn next stop) => readTerms fuel opened depth next stop
      | some (.ends ending) => some ending

def readScope (fuel : Nat) (opened : Option Nat) (depth cursor : Nat) : Option Ending :=
  readTerms options text fuel opened depth .start cursor

/-- Reads the scope that opens at a place in a scope so deep. -/
def readNested (fuel depth position : Nat) : Option Ending :=
  readScope options text fuel (some position) (depth + 1) (position + 1)

end Reading

section Places

variable {text part rest : List Char} {cursor : Nat} {c : Char}

theorem drop_behind (here : text.drop cursor = part ++ rest) :
    text.drop (cursor + part.length) = rest := by
  rw [← List.drop_drop, here, List.drop_left]

theorem drop_next (here : text.drop cursor = c :: rest) : text.drop (cursor + 1) = rest := by
  rw [← List.drop_drop, here, List.drop_one, List.tail_cons]

theorem getElem?_cursor (here : text.drop cursor = c :: rest) : text[cursor]? = some c := by
  rw [← List.head?_drop, here, List.head?_cons]

theorem getElem?_next (here : text.drop cursor = c :: rest) : text[cursor + 1]? = rest.head? := by
  rw [← List.head?_drop, drop_next here]

theorem drop_of_getElem? (found : text[cursor]? = some c) :
    text.drop cursor = c :: text.drop (cursor + 1) := by
  obtain ⟨inside, same⟩ := List.getElem?_eq_some_iff.mp found
  rw [List.drop_eq_getElem_cons inside, same]

theorem getElem?_end (here : text.drop cursor = []) : text[cursor]? = none := by
  rw [← List.head?_drop, here, List.head?_nil]

theorem next_le_length (found : text[cursor]? = some c) : cursor + 1 ≤ text.length :=
  (List.getElem?_eq_some_iff.mp found).1

theorem behind_le_length (here : text.drop cursor = part ++ rest) (within : cursor ≤ text.length) :
    cursor + part.length ≤ text.length := by
  have size := congrArg List.length here
  rw [List.length_drop, List.length_append] at size
  omega

end Places

section Comparisons

variable {options : Options} {text literal rest : List Char} {cursor : Nat}

theorem literalEnd_eq (text : List Char) (cursor : Nat) :
    literalEnd text cursor = cursor + ((text.drop cursor).takeWhile inLiteral).length := by
  fun_induction literalEnd text cursor with
  | case1 cursor inside literal ih =>
      rw [ih, List.drop_eq_getElem_cons inside, List.takeWhile_cons_of_pos literal,
        List.length_cons, Nat.add_assoc, Nat.add_comm 1]
  | case2 cursor inside other =>
      rw [List.drop_eq_getElem_cons inside, List.takeWhile_cons_of_neg other]
      rfl
  | case3 cursor outside =>
      rw [List.drop_eq_nil_of_le (Nat.le_of_not_lt outside)]
      rfl

theorem slice_eq {part : List Char} (here : text.drop cursor = part ++ rest)
    (within : cursor ≤ text.length) :
    slice text cursor (cursor + part.length) = some part := by
  have inside := behind_le_length here within
  rw [slice, if_pos ⟨Nat.le_add_right _ _, inside⟩, here, Nat.add_sub_cancel_left, List.take_left]

/-- The characters that a comparison is read at. -/
def signs : List Char := ['<', '>', '=']

theorem operatorOf_symbol (operator : Operator) (after : List Char)
    (longest : operator.Extensible → after.head? ≠ some '=') :
    ∃ first tail, operator.symbol.toList ++ after = first :: tail ∧ first ∈ signs ∧
      operatorOf first (first != '=' && tail.head? == some '=') = operator ∧
      (if first != '=' && tail.head? == some '=' then 2 else 1) = operator.width := by
  have alone (extensible : operator.Extensible) : (after.head? == some '=') = false :=
    beq_eq_false_iff_ne.mpr (longest extensible)
  cases operator with
  | equal => exact ⟨'=', after, rfl, by decide, rfl, rfl⟩
  | less =>
      have single := alone (Or.inl rfl)
      exact ⟨'<', after, rfl, by decide, by rw [single]; rfl, by rw [single]; rfl⟩
  | greater =>
      have single := alone (Or.inr rfl)
      exact ⟨'>', after, rfl, by decide, by rw [single]; rfl, by rw [single]; rfl⟩
  | lessEqual => exact ⟨'<', '=' :: after, rfl, by decide, rfl, rfl⟩
  | greaterEqual => exact ⟨'>', '=' :: after, rfl, by decide, rfl, rfl⟩

/-- A comparison is read to the end of its literal. All that is asked for on the way is there. -/
theorem readComparison_eq {operator : Operator}
    (here : text.drop cursor = operator.symbol.toList ++ (literal ++ rest))
    (longest : operator.Extensible → (literal ++ rest).head? ≠ some '=')
    (inside : ∀ c ∈ literal, ¬ EndsLiteral c)
    (boundary : ∀ c, rest.head? = some c → EndsLiteral c) (name : String) :
    readComparison options text name cursor =
      if literal = [] then
        .refused (.danglingOperator operator cursor) (cursor + operator.width + literal.length)
      else
        match Literal.read options literal (cursor + operator.width) with
        | .ok value =>
            .found (.compare ⟨name, operator, value, cursor⟩)
              (cursor + operator.width + literal.length)
        | .error reason => .refused reason (cursor + operator.width + literal.length) := by
  obtain ⟨first, tail, symbol, -, read, width⟩ :=
    operatorOf_symbol operator (literal ++ rest) longest
  have head : text.drop cursor = first :: tail := here.trans symbol
  have behind : text.drop (cursor + operator.width) = literal ++ rest := by
    rw [← operator.length_symbol]
    exact drop_behind here
  have start : (if first != '=' && tail.head? == some '=' then cursor + 2 else cursor + 1) =
      cursor + operator.width := by
    rw [← width]
    split <;> rfl
  have stop : literalEnd text (cursor + operator.width) =
      cursor + operator.width + literal.length := by
    rw [literalEnd_eq, behind, takeWhile_literal inside boundary]
  have within : cursor + operator.width ≤ text.length := by
    rw [← operator.length_symbol]
    refine behind_le_length here ?_
    have size := congrArg List.length head
    rw [List.length_drop, List.length_cons] at size
    omega
  simp only [readComparison, getElem?_cursor head, getElem?_next head, start, stop, read,
    comparisonAt, slice_eq behind within]
  by_cases empty : literal = []
  · rw [if_pos (by rw [empty]; rfl), if_pos empty]
  · have size := List.length_pos_iff.mpr empty
    rw [if_neg (by omega), if_neg empty]

/-- Wherever in the text a comparison is read, nothing is asked for that the text does not have. -/
theorem readComparison_ne_outOfRange (options : Options) (name : String)
    (inside : cursor < text.length) : readComparison options text name cursor ≠ .outOfRange := by
  have found : text[cursor]? = some text[cursor] := List.getElem?_eq_getElem inside
  have start_within : (if text[cursor] != '=' && text[cursor + 1]? == some '=' then cursor + 2
      else cursor + 1) ≤ text.length := by
    split
    · rename_i extended
      rw [Bool.and_eq_true, beq_iff_eq] at extended
      exact next_le_length extended.2
    · exact inside
  simp only [readComparison, found, literalEnd_eq, comparisonAt]
  generalize (if text[cursor] != '=' && text[cursor + 1]? == some '=' then cursor + 2
    else cursor + 1) = start at start_within ⊢
  have run : text.drop start =
      (text.drop start).takeWhile inLiteral ++ (text.drop start).dropWhile inLiteral :=
    List.takeWhile_append_dropWhile.symm
  split
  · exact Ending.noConfusion
  · rw [slice_eq run start_within]
    dsimp only
    split <;> exact Ending.noConfusion

end Comparisons

section Fuel

variable {options : Options} {text : List Char} {opened : Option Nat} {depth cursor : Nat}
  {gathered : Gathered}

theorem readTerms_succ (fuel : Nat) :
    readTerms options text (fuel + 1) opened depth gathered cursor =
      match turn options text (readNested options text fuel depth) opened depth gathered cursor with
      | none => none
      | some (.goesOn next stop) => readTerms options text fuel opened depth next stop
      | some (.ends ending) => some ending := rfl

/-- A turn comes to the same if more of the scopes inside are read to their end. -/
theorem turn_mono {nested further : Nat → Option Ending} {result : Turn}
    (grows : ∀ position ending, nested position = some ending → further position = some ending)
    (turned : turn options text nested opened depth gathered cursor = some result) :
    turn options text further opened depth gathered cursor = some result := by
  simp only [turn] at turned ⊢
  cases found : text[cursor]? with
  | none => rwa [found] at turned
  | some c =>
      simp only [found] at turned ⊢
      by_cases opening : c = '('
      · by_cases full : options.maxDepth < depth + 1
        · rwa [if_pos opening, if_pos full] at turned ⊢
        · rw [if_pos opening, if_neg full, Option.map_eq_some_iff] at turned ⊢
          obtain ⟨ending, read, same⟩ := turned
          exact ⟨ending, grows cursor ending read, same⟩
      · rwa [if_neg opening] at turned ⊢

theorem readTerms_mono {ending : Ending} {fuel more : Nat} (enough : fuel ≤ more)
    (read : readTerms options text fuel opened depth gathered cursor = some ending) :
    readTerms options text more opened depth gathered cursor = some ending := by
  induction fuel generalizing more opened depth gathered cursor ending with
  | zero => cases read
  | succ fuel ih =>
      obtain ⟨more, rfl⟩ : ∃ less, more = less + 1 := ⟨more - 1, by omega⟩
      have less := Nat.le_of_succ_le_succ enough
      rw [readTerms_succ] at read ⊢
      cases turned : turn options text (readNested options text fuel depth) opened depth gathered
        cursor with
      | none =>
          rw [turned] at read
          cases read
      | some result =>
          rw [turned] at read
          have again : turn options text (readNested options text more depth) opened depth gathered
              cursor = some result := turn_mono (fun position ending found => ih less found) turned
          rw [again]
          cases result with
          | goesOn next stop => exact ih less read
          | ends ending => exact read

end Fuel

end Descent

end AdTargeting
