import AdTargeting.Proofs.Condition.Classification
import AdTargeting.Proofs.Condition.Grammar
import AdTargeting.Proofs.Condition.Lexeme

set_option autoImplicit false

/-
Trees that a text can stand for: what names, literals, relations and nesting are in every tree that
parsing gives. Positions play no part in it, nor in the canonical text.
-/

namespace AdTargeting

/-- What a text can say of one comparison. Its literal is not read as anything else, and its
operator does not take the first character of it. -/
structure Comparison.Printable (options : Options) (comparison : Comparison) : Prop where
  name : ∀ c ∈ comparison.name.toList, inName c = true
  nonempty : comparison.literal.chars ≠ []
  inside : ∀ c ∈ comparison.literal.chars, inLiteral c = true
  longest : comparison.operator.Extensible → comparison.literal.chars.head? ≠ some '='
  classified : Literal.classify options comparison.literal.chars = some comparison.literal

namespace Expression

mutual

/-- A tree of which each scope has relations exactly before its later terms. -/
def Printable (options : Options) : Expression → Prop
  | .compare comparison => comparison.Printable options
  | .scope [] => True
  | .scope (⟨relation, expression⟩ :: later) =>
      relation = none ∧ Printable options expression ∧ PrintableLater options later

def PrintableLater (options : Options) : List Term → Prop
  | [] => True
  | ⟨relation, expression⟩ :: later =>
      relation ≠ none ∧ Printable options expression ∧ PrintableLater options later

end

mutual

def withoutPositions : Expression → Expression
  | .compare comparison => .compare { comparison with position := 0 }
  | .scope terms => .scope (termsWithoutPositions terms)

def termsWithoutPositions : List Term → List Term
  | [] => []
  | ⟨relation, expression⟩ :: later =>
      ⟨relation, withoutPositions expression⟩ :: termsWithoutPositions later

end

mutual

theorem depth_withoutPositions (expression : Expression) :
    depth (withoutPositions expression) = depth expression := by
  match expression with
  | .compare comparison => rfl
  | .scope terms => simp only [withoutPositions, depth, termDepth_withoutPositions terms]

theorem termDepth_withoutPositions (terms : List Term) :
    termDepth (termsWithoutPositions terms) = termDepth terms := by
  match terms with
  | [] => rfl
  | ⟨relation, expression⟩ :: later =>
      simp only [termsWithoutPositions, termDepth, depth_withoutPositions expression,
        termDepth_withoutPositions later]

end

mutual

theorem chars_withoutPositions (expression : Expression) :
    chars (withoutPositions expression) = chars expression := by
  match expression with
  | .compare comparison => rfl
  | .scope terms => simp only [withoutPositions, chars, scopeChars_withoutPositions terms]

theorem scopeChars_withoutPositions (terms : List Term) :
    scopeChars (termsWithoutPositions terms) = scopeChars terms := by
  match terms with
  | [] => rfl
  | ⟨relation, expression⟩ :: later =>
      simp only [termsWithoutPositions, scopeChars, chars_withoutPositions expression,
        laterChars_withoutPositions later]

theorem laterChars_withoutPositions (terms : List Term) :
    laterChars (termsWithoutPositions terms) = laterChars terms := by
  match terms with
  | [] => rfl
  | ⟨relation, expression⟩ :: later =>
      simp only [termsWithoutPositions, laterChars, chars_withoutPositions expression,
        laterChars_withoutPositions later]

end

theorem rootText_eq {expression other : Expression}
    (same : expression.withoutPositions = other.withoutPositions) :
    expression.rootText = other.rootText := by
  have unplaced (expression : Expression) :
      expression.withoutPositions.rootChars = expression.rootChars := by
    cases expression with
    | compare comparison => rfl
    | scope terms => exact scopeChars_withoutPositions terms
  rw [rootText, ← unplaced, same, unplaced, rootText]

theorem termDepth_concat (terms : List Term) (relation : Option Relation)
    (expression : Expression) :
    termDepth (terms ++ [⟨relation, expression⟩]) = max (termDepth terms) (depth expression) := by
  induction terms with
  | nil => simp only [List.nil_append, termDepth, Nat.max_zero, Nat.zero_max]
  | cons term terms ih =>
      obtain ⟨_, first⟩ := term
      simp only [List.cons_append, termDepth, ih, Nat.max_assoc]

theorem termComparisons_concat (terms : List Term) (joined : Option Relation)
    (expression : Expression) :
    termComparisons (terms ++ [⟨joined, expression⟩]) =
      termComparisons terms ++ expression.comparisons := by
  rw [termComparisons_append]
  simp only [termComparisons, List.append_nil]

variable {options : Options}

theorem printableLater_concat {terms : List Term} {relation : Relation} {expression : Expression}
    (later : PrintableLater options terms) (last : expression.Printable options) :
    PrintableLater options (terms ++ [⟨some relation, expression⟩]) := by
  induction terms with
  | nil => exact ⟨Option.some_ne_none relation, last, trivial⟩
  | cons term terms ih =>
      obtain ⟨_, first⟩ := term
      obtain ⟨related, printable, others⟩ := later
      exact ⟨related, printable, ih others⟩

theorem printable_concat {terms : List Term} {read joined : Option Relation}
    {expression : Expression} (scope : (Expression.scope terms).Printable options)
    (joins : Joins terms read joined) (last : expression.Printable options) :
    (Expression.scope (terms ++ [⟨joined, expression⟩])).Printable options := by
  cases joins with
  | first read => exact ⟨rfl, last, trivial⟩
  | later relation nonempty =>
      obtain ⟨⟨_, first⟩, others, rfl⟩ := List.exists_cons_of_ne_nil nonempty
      obtain ⟨unrelated, printable, later⟩ := scope
      exact ⟨unrelated, printable, printableLater_concat later last⟩

end Expression

namespace Token

/-- What scanning can find in a comparison. -/
def Lexical : Token → Prop
  | .comparison name _ operator _ text =>
      (∀ c ∈ name.toList, inName c = true) ∧ (∀ c ∈ text, inLiteral c = true) ∧
        (operator.Extensible → text.head? ≠ some '=')
  | _ => True

theorem lexical_stray (text : String) (start : Nat) : (stray text start).Lexical := trivial

theorem Spells.lexical {name : NamePart} {position : Nat} {text : List Char} {row : List Token}
    (spelled : Spells name position text row)
    (letters : ∀ c ∈ name.text.toList, inName c = true) : ∀ token ∈ row, token.Lexical := by
  have no_name : ∀ c ∈ NamePart.none.text.toList, inName c = true := nofun
  induction spelled with
  | finish name position => exact name.forall_unused lexical_stray
  | opening later ih => exact NamePart.forall_unused_cons lexical_stray _ trivial (ih no_name)
  | closing later ih => exact NamePart.forall_unused_cons lexical_stray _ trivial (ih no_name)
  | single value alone later ih =>
      exact NamePart.forall_unused_cons lexical_stray _ trivial (ih no_name)
  | doubled value later ih =>
      exact NamePart.forall_unused_cons lexical_stray _ trivial (ih no_name)
  | @comparison name position rest row operator literal longest inside boundary later ih =>
      intro token member
      rcases List.mem_cons.mp member with rfl | after
      · refine ⟨letters, fun c member => inLiteral_iff.mpr (inside c member), ?_⟩
        intro extensible first
        apply longest extensible
        rw [List.head?_append, first]
        rfl
      · exact ih no_name token after
  | blank space later ih => exact ih letters
  | first inside later ih =>
      apply ih
      rw [NamePart.toList_text]
      exact List.forall_mem_singleton.mpr inside
  | @further start first read position c rest row inside later ih =>
      apply ih
      rw [NamePart.toList_text] at letters ⊢
      rw [← List.cons_append]
      exact List.forall_mem_append.mpr ⟨letters, List.forall_mem_singleton.mpr inside⟩

end Token

variable {options : Options} {row : List Token} {terms : List Term} {read : Option Relation}

/-- A scanned comparison that is read can be printed. -/
theorem Comparison.printable_of_lexical {name : String} {start : Nat} {operator : Operator}
    {position : Nat} {text : List Char} {literal : Literal}
    (lexical : (Token.comparison name start operator position text).Lexical) (nonempty : text ≠ [])
    (classified : Literal.classify options text = some literal) :
    Comparison.Printable options ⟨name, operator, literal, position⟩ := by
  obtain ⟨letters, inside, longest⟩ := lexical
  have again := Literal.classify_chars classified
  rcases Literal.chars_eq_or_numeric classified with same | ⟨filled, numeric⟩
  · exact ⟨letters, same ▸ nonempty, same ▸ inside, same ▸ longest, again⟩
  · refine ⟨letters, filled, ?_, ?_, again⟩
    · intro c member
      exact (Literal.inLiteral_of_numeric c (numeric c member)).1
    · intro _ first
      exact (Literal.inLiteral_of_numeric '=' (numeric '=' (List.mem_of_mem_head? first))).2 rfl

/-- What a row of scanned tokens says can be printed. -/
theorem Content.printable (content : Content options row terms read)
    (lexical : ∀ token ∈ row, token.Lexical) : (Expression.scope terms).Printable options := by
  induction content with
  | empty => trivial
  | stray earlier name start ih =>
      obtain ⟨before, -⟩ := List.forall_mem_append.mp lexical
      exact ih before
  | relation earlier value doubled ih =>
      obtain ⟨before, -⟩ := List.forall_mem_append.mp lexical
      exact ih before
  | comparison earlier joins name start operator position nonempty classified ih =>
      obtain ⟨before, added⟩ := List.forall_mem_append.mp lexical
      have last := added _ (List.mem_singleton_self _)
      exact Expression.printable_concat (ih before) joins
        (Comparison.printable_of_lexical last nonempty classified)
  | group earlier within joins first last ih inner =>
      obtain ⟨before, added⟩ := List.forall_mem_append.mp lexical
      obtain ⟨opened, -⟩ := List.forall_mem_append.mp added
      obtain ⟨-, inside⟩ := List.forall_mem_cons.mp opened
      exact Expression.printable_concat (ih before) joins (inner inside)

/-- The nesting of a tree is that of its parentheses: no deeper than the row allows. -/
theorem Content.termDepth_le (content : Content options row terms read) (limit : Nat)
    (shallow : Token.Shallow limit row) : Expression.termDepth terms ≤ limit := by
  induction content generalizing limit with
  | empty => exact Nat.zero_le _
  | stray earlier name start ih => exact ih limit shallow.of_append
  | relation earlier value doubled ih => exact ih limit shallow.of_append
  | comparison earlier joins name start operator position nonempty classified ih =>
      rw [Expression.termDepth_concat, Expression.depth, Nat.max_zero]
      exact ih limit shallow.of_append
  | group earlier within joins first last ih inner =>
      obtain ⟨less, rfl, inside⟩ := shallow.inside_group earlier.matched
      have outer := ih (less + 1) shallow.of_append
      have below := inner less inside
      rw [Expression.termDepth_concat, Expression.depth]
      omega

theorem Content.shallow (content : Content options row terms read) :
    Token.Shallow (Expression.termDepth terms) row := by
  induction content with
  | empty => exact .nil _
  | stray earlier name start ih => exact ih.append earlier.matched (.single _ rfl)
  | relation earlier value doubled ih => exact ih.append earlier.matched (.single _ rfl)
  | comparison earlier joins name start operator position nonempty classified ih =>
      rw [Expression.termDepth_concat, Expression.depth, Nat.max_zero]
      exact ih.append earlier.matched (.single _ rfl)
  | group earlier within joins first last ih inner =>
      rw [Expression.termDepth_concat, Expression.depth]
      have group := inner.group within.matched first last
      exact (ih.mono (Nat.le_max_left _ _)).append earlier.matched
        (group.mono (Nat.le_max_right _ _))

end AdTargeting
