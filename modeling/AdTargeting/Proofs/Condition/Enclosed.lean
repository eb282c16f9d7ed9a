import AdTargeting.Proofs.Condition.RoundTrip

set_option autoImplicit false

/-
A condition inside parentheses of a longer one. Its tokens and its tree are those it has alone, at
positions that are further on by a fixed number of characters.
-/

namespace AdTargeting

namespace Expression

mutual

/-- The same tree, read `offset` characters further on. -/
def shift (offset : Nat) : Expression → Expression
  | .compare comparison => .compare { comparison with position := comparison.position + offset }
  | .scope terms => .scope (shiftTerms offset terms)

def shiftTerms (offset : Nat) : List Term → List Term
  | [] => []
  | ⟨relation, expression⟩ :: later =>
      ⟨relation, shift offset expression⟩ :: shiftTerms offset later

end

mutual

theorem withoutPositions_shift (offset : Nat) (expression : Expression) :
    withoutPositions (shift offset expression) = withoutPositions expression := by
  match expression with
  | .compare comparison => rfl
  | .scope terms =>
      rw [shift, withoutPositions, withoutPositions, termsWithoutPositions_shift offset terms]

theorem termsWithoutPositions_shift (offset : Nat) (terms : List Term) :
    termsWithoutPositions (shiftTerms offset terms) = termsWithoutPositions terms := by
  match terms with
  | [] => rfl
  | ⟨relation, expression⟩ :: later =>
      rw [shiftTerms, termsWithoutPositions, termsWithoutPositions,
        withoutPositions_shift offset expression, termsWithoutPositions_shift offset later]

end

theorem termDepth_shiftTerms (offset : Nat) (terms : List Term) :
    termDepth (shiftTerms offset terms) = termDepth terms := by
  rw [← termDepth_withoutPositions, termsWithoutPositions_shift, termDepth_withoutPositions]

theorem shiftTerms_concat (offset : Nat) (terms : List Term) (joined : Option Relation)
    (expression : Expression) :
    shiftTerms offset (terms ++ [⟨joined, expression⟩]) =
      shiftTerms offset terms ++ [⟨joined, shift offset expression⟩] := by
  induction terms with
  | nil => rfl
  | cons term terms ih =>
      obtain ⟨relation, first⟩ := term
      simp only [List.cons_append, shiftTerms, ih]

end Expression

theorem Joins.shift {terms : List Term} {read joined : Option Relation}
    (joins : Joins terms read joined) (offset : Nat) :
    Joins (Expression.shiftTerms offset terms) read joined := by
  cases joins with
  | first read => exact .first read
  | later relation nonempty =>
      obtain ⟨⟨unrelated, first⟩, others, rfl⟩ := List.exists_cons_of_ne_nil nonempty
      exact .later relation (List.cons_ne_nil _ _)

def Token.shift (offset : Nat) : Token → Token
  | opening position => opening (position + offset)
  | closing position => closing (position + offset)
  | relation value doubled => relation value doubled
  | comparison name start operator position literal =>
      comparison name (start + offset) operator (position + offset) literal
  | stray name start => stray name (start + offset)

section Content

variable {options : Options} {row : List Token} {terms : List Term} {read : Option Relation}

theorem Content.shift (content : Content options row terms read) (offset : Nat) :
    Content options (row.map (Token.shift offset)) (Expression.shiftTerms offset terms) read := by
  induction content with
  | empty => exact .empty
  | stray earlier name start ih =>
      rw [List.map_append]
      exact ih.stray name (start + offset)
  | relation earlier value doubled ih =>
      rw [List.map_append]
      exact ih.relation value doubled
  | comparison earlier joins name start operator position nonempty classified ih =>
      rw [List.map_append, Expression.shiftTerms_concat]
      exact ih.comparison (joins.shift offset) name (start + offset) operator (position + offset)
        nonempty classified
  | group earlier within joins first last ih inner =>
      rw [Expression.shiftTerms_concat]
      simp only [List.map_append, List.map_cons, List.map_nil]
      exact ih.group inner (joins.shift offset) (first + offset) (last + offset)

theorem Content.with_maxDepth (content : Content options row terms read) (limit : Nat) :
    Content { options with maxDepth := limit } row terms read := by
  induction content with
  | empty => exact .empty
  | stray earlier name start ih => exact ih.stray name start
  | relation earlier value doubled ih => exact ih.relation value doubled
  | comparison earlier joins name start operator position nonempty classified ih =>
      exact ih.comparison joins name start operator position nonempty classified
  | group earlier within joins first last ih inner => exact ih.group inner joins first last

end Content

namespace NamePart

def shift (offset : Nat) : NamePart → NamePart
  | none => none
  | begun start first later => begun (start + offset) first later

variable (name : NamePart) (offset : Nat)

theorem text_shift : (name.shift offset).text = name.text := by
  cases name <;> rfl

theorem unused_shift : (name.shift offset).unused = name.unused.map (Token.shift offset) := by
  cases name <;> rfl

theorem beginning_shift (position : Nat) :
    (name.shift offset).beginning (position + offset) = name.beginning position + offset := by
  cases name <;> rfl

end NamePart

namespace Token

theorem head?_closed {text rest : List Char} {c : Char}
    (first : (text ++ ')' :: rest).head? = some c) : text.head? = some c ∨ c = ')' := by
  cases text with
  | nil => exact Or.inr (Option.some.inj first).symm
  | cons next text => exact Or.inl first

/-- A text that a parenthesis closes spells there what it spells alone, further on. -/
theorem Spells.enclosed {name : NamePart} {position : Nat} {text : List Char}
    {row : List Token} (spelled : Spells name position text row) {offset place last : Nat}
    (placed : place = position + offset) (ends : last = place + text.length) {rest : List Char}
    {later : List Token} (after : Spells .none (last + 1) rest later) :
    Spells (name.shift offset) place (text ++ ')' :: rest)
      (row.map (Token.shift offset) ++ .closing last :: later) := by
  induction spelled generalizing place with
  | finish name position =>
      rw [← name.unused_shift]
      rw [List.length_nil, Nat.add_zero] at ends
      subst ends
      exact .closing after
  | @opening name position tail row _ ih =>
      rw [List.length_cons] at ends
      have inner := @ih (place + 1) (by omega) (by omega)
      rw [List.map_append, ← name.unused_shift, List.append_assoc, List.map_cons, Token.shift,
        ← placed]
      exact .opening inner
  | @closing name position tail row _ ih =>
      rw [List.length_cons] at ends
      have inner := @ih (place + 1) (by omega) (by omega)
      rw [List.map_append, ← name.unused_shift, List.append_assoc, List.map_cons, Token.shift,
        ← placed]
      exact .closing inner
  | @single name position tail row value alone _ ih =>
      rw [List.length_cons] at ends
      have inner := @ih (place + 1) (by omega) (by omega)
      rw [List.map_append, ← name.unused_shift, List.append_assoc, List.map_cons, Token.shift]
      refine .single value ?_ inner
      intro first
      rcases head?_closed first with same | mark
      · exact alone same
      · cases value <;> cases mark
  | @doubled name position tail row value _ ih =>
      rw [List.length_cons, List.length_cons] at ends
      have inner := @ih (place + 2) (by omega) (by omega)
      rw [List.map_append, ← name.unused_shift, List.append_assoc, List.map_cons, Token.shift]
      exact .doubled value inner
  | @comparison name position tail row operator literal longest inside boundary _ ih =>
      rw [List.length_append, List.length_append] at ends
      have inner := @ih (place + operator.symbol.toList.length + literal.length) (by omega)
        (by omega)
      rw [List.map_cons, Token.shift, ← name.text_shift offset, ← name.beginning_shift, ← placed,
        List.append_assoc, List.append_assoc]
      refine .comparison operator literal ?_ inside ?_ inner
      · intro extensible first
        rw [← List.append_assoc] at first
        rcases head?_closed first with same | mark
        · exact longest extensible same
        · cases mark
      · intro c first
        rcases head?_closed first with same | rfl
        · exact boundary c same
        · exact Or.inr rfl
  | blank space _ ih =>
      rw [List.length_cons] at ends
      exact .blank space (ih (by omega) (by omega))
  | @first position c tail row inside _ ih =>
      rw [List.length_cons] at ends
      have inner := @ih (place + 1) (by omega) (by omega)
      rw [NamePart.shift, ← placed] at inner
      exact .first inside inner
  | further inside _ ih =>
      rw [List.length_cons] at ends
      exact .further inside (ih (by omega) (by omega))

end Token

end AdTargeting
