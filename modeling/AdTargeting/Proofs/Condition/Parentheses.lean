import AdTargeting.Proofs.Condition.Printable

set_option autoImplicit false

/-
Parentheses of a text against the scopes of its tree, by counting. One that closes always ends a
scope; one that opens may also stand in a literal, which runs on over it.
-/

namespace AdTargeting

namespace Expression

mutual

def scopes : Expression → Nat
  | .compare _ => 0
  | .scope terms => termScopes terms + 1

def termScopes : List Term → Nat
  | [] => 0
  | ⟨_, expression⟩ :: rest => scopes expression + termScopes rest

end

theorem termScopes_concat (terms : List Term) (joined : Option Relation)
    (expression : Expression) :
    termScopes (terms ++ [⟨joined, expression⟩]) = termScopes terms + expression.scopes := by
  induction terms with
  | nil => simp only [List.nil_append, termScopes, Nat.add_zero, Nat.zero_add]
  | cons term terms ih =>
      obtain ⟨_, first⟩ := term
      simp only [List.cons_append, termScopes, ih, Nat.add_assoc]

end Expression

/-- Reading a literal leaves its parentheses: what is rewritten had none and gets none. -/
theorem Literal.count_opening {options : Options} {text : List Char} {literal : Literal}
    (classified : classify options text = some literal) :
    literal.chars.count '(' = text.count '(' := by
  rcases chars_eq_or_numeric classified with same | ⟨-, numeric⟩
  · rw [same]
  rcases chars_eq_or_numerals classified with same | numerals
  · rw [same]
  · have written : '(' ∉ literal.chars := fun member => absurd (numeric '(' member) (by decide)
    have read : '(' ∉ text := fun member => absurd (numerals '(' member) (by decide)
    rw [List.count_eq_zero.mpr written, List.count_eq_zero.mpr read]

namespace Token

/-- What stands behind the operator of a comparison. Other tokens have no literal. -/
def literal : Token → List Char
  | comparison _ _ _ _ text => text
  | _ => []

/-- The text of a token as far as parentheses can be in it. -/
def bracketed : Token → List Char
  | opening _ => ['(']
  | closing _ => [')']
  | token => token.literal

/-- Each parenthesis of a text is in one token of its row. -/
theorem Spells.count_eq {name : NamePart} {position : Nat} {text : List Char} {row : List Token}
    (spelled : Spells name position text row) {c : Char} (bracket : c = '(' ∨ c = ')') :
    text.count c = (row.flatMap bracketed).count c := by
  have delimits : c ∈ delimiters := by
    rcases bracket with rfl | rfl <;> decide
  have no_relation (value : Relation) : value.mark ≠ c := by
    rcases bracket with rfl | rfl <;> cases value <;> decide
  have no_operator (operator : Operator) : operator.symbol.toList.count c = 0 := by
    rcases bracket with rfl | rfl <;> cases operator <;> decide
  have no_letter (other : Char) (inside : inName other = true) : other ≠ c := by
    rintro rfl
    exact (inName_iff.mp inside).2 delimits
  have after_name (name : NamePart) (token : Token) (row : List Token) :
      (name.unused ++ token :: row).flatMap bracketed =
        token.bracketed ++ row.flatMap bracketed := by
    cases name <;> rfl
  -- A name holds no parenthesis, so its letters are left out, whatever token it goes to.
  induction spelled with
  | finish name position => cases name <;> rfl
  | opening later ih =>
      rw [after_name, List.count_append, ← ih, ← List.count_append]
      rfl
  | closing later ih =>
      rw [after_name, List.count_append, ← ih, ← List.count_append]
      rfl
  | single value alone later ih =>
      rw [after_name, List.count_cons_of_ne (no_relation value), ih]
      rfl
  | doubled value later ih =>
      rw [after_name, List.count_cons_of_ne (no_relation value),
        List.count_cons_of_ne (no_relation value), ih]
      rfl
  | comparison operator literal longest inside boundary later ih =>
      rw [List.flatMap_cons, List.count_append, List.count_append, List.count_append, no_operator,
        Nat.zero_add, ih]
      rfl
  | @blank name position other rest row space later ih =>
      have differs : other ≠ c := by
        rintro rfl
        exact not_mem_delimiters_of_blank space delimits
      rw [List.count_cons_of_ne differs, ih]
  | first inside later ih => rw [List.count_cons_of_ne (no_letter _ inside), ih]
  | further inside later ih => rw [List.count_cons_of_ne (no_letter _ inside), ih]

theorem count_opening_bracketed (row : List Token) :
    (row.flatMap bracketed).count '(' = openings row + (row.flatMap literal).count '(' := by
  induction row with
  | nil => rfl
  | cons token row ih =>
      have here : token.bracketed.count '(' = openings [token] + token.literal.count '(' := by
        cases token with
        | comparison name start operator position text => exact (Nat.zero_add _).symm
        | _ => rfl
      have apart : openings (token :: row) = openings [token] + openings row :=
        openings_append [token] row
      simp only [List.flatMap_cons, List.count_append, ih, here, apart]
      omega

theorem count_closing_bracketed {row : List Token} (lexical : ∀ token ∈ row, token.Lexical) :
    (row.flatMap bracketed).count ')' = closings row := by
  induction row with
  | nil => rfl
  | cons token row ih =>
      obtain ⟨found, later⟩ := List.forall_mem_cons.mp lexical
      have here : token.bracketed.count ')' = closings [token] := by
        cases token with
        | comparison name start operator position text =>
            obtain ⟨-, inside, -⟩ := found
            exact List.count_eq_zero.mpr fun member => absurd (inside ')' member) (by decide)
        | _ => rfl
      have apart : closings (token :: row) = closings [token] + closings row :=
        closings_append [token] row
      rw [List.flatMap_cons, List.count_append, ih later, here, apart]

section Counts

variable {text : List Char} {row : List Token} {name : NamePart} {position : Nat}

/-- Every parenthesis that opens is a token or in a literal. -/
theorem Spells.count_opening (spelled : Spells name position text row) :
    text.count '(' = openings row + (row.flatMap literal).count '(' := by
  rw [spelled.count_eq (Or.inl rfl), count_opening_bracketed]

theorem Spells.openings_le (spelled : Spells name position text row) :
    openings row ≤ text.count '(' := by
  rw [spelled.count_opening]
  exact Nat.le_add_right _ _

/-- Every parenthesis that closes is a token. -/
theorem Spells.count_closing (spelled : Spells .none position text row) :
    text.count ')' = closings row := by
  rw [spelled.count_eq (Or.inr rfl), count_closing_bracketed (spelled.lexical nofun)]

end Counts

end Token

variable {options : Options} {row : List Token} {terms : List Term} {read : Option Relation}

theorem Content.closings_eq (content : Content options row terms read) :
    Token.closings row = Expression.termScopes terms := by
  induction content with
  | empty => rfl
  | stray earlier name start ih =>
      rw [Token.closings_append, ih]
      rfl
  | relation earlier value doubled ih =>
      rw [Token.closings_append, ih]
      rfl
  | comparison earlier joins name start operator position nonempty classified ih =>
      rw [Token.closings_append, ih, Expression.termScopes_concat]
      rfl
  | group earlier within joins first last ih inner =>
      rw [Token.closings_append, ih, List.cons_append, Token.closings_opening,
        Token.closings_append, inner, Expression.termScopes_concat]
      rfl

/-- The literals of a tree have the parentheses of the literals that were read. -/
theorem Content.count_literals (content : Content options row terms read) :
    (row.flatMap Token.literal).count '(' =
      ((Expression.termComparisons terms).flatMap fun comparison =>
        comparison.literal.chars).count '(' := by
  induction content with
  | empty => rfl
  | stray earlier name start ih =>
      rw [List.flatMap_append, List.count_append, ih]
      rfl
  | relation earlier value doubled ih =>
      rw [List.flatMap_append, List.count_append, ih]
      rfl
  | comparison earlier joins name start operator position nonempty classified ih =>
      rw [List.flatMap_append, List.count_append, ih, Expression.termComparisons_concat,
        List.flatMap_append, List.count_append]
      simp only [Expression.comparisons, List.flatMap_cons, List.flatMap_nil, List.append_nil,
        Token.literal, Literal.count_opening classified]
  | @group row inside terms inner read pending joined earlier within joins first last ih inner_ih =>
      have enclosed : (Token.opening first :: inside ++ [Token.closing last]).flatMap
          Token.literal = inside.flatMap Token.literal := by
        rw [List.cons_append, List.flatMap_cons, List.flatMap_append]
        exact List.append_nil _
      rw [List.flatMap_append, List.count_append, ih, enclosed, inner_ih,
        Expression.termComparisons_concat, List.flatMap_append, List.count_append,
        Expression.comparisons]

end AdTargeting
