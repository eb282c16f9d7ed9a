import AdTargeting.Proofs.Condition.Printable
import AdTargeting.Proofs.Text.Substitution

set_option autoImplicit false

/-
The short spelling of a canonical text: its relations become symbols, and names and literals stay as
they are, even those that look like the words of a relation.
-/

namespace AdTargeting

namespace Expression

def connectorWith (word : Relation → List Char) : Option Relation → List Char
  | none => [' ']
  | some relation => ' ' :: word relation ++ [' ']

mutual

def charsWith (word : Relation → List Char) : Expression → List Char
  | .compare comparison => comparison.chars
  | .scope terms => '(' :: scopeCharsWith word terms ++ [')']

def scopeCharsWith (word : Relation → List Char) : List Term → List Char
  | [] => []
  | ⟨_, expression⟩ :: later => charsWith word expression ++ laterCharsWith word later

def laterCharsWith (word : Relation → List Char) : List Term → List Char
  | [] => []
  | ⟨relation, expression⟩ :: later =>
      connectorWith word relation ++ charsWith word expression ++ laterCharsWith word later

end

end Expression

namespace Relation

def letters (relation : Relation) : List Char := relation.word.toList

/-- Relations once conjunctions have become symbols. -/
def halfMarks : Relation → List Char
  | and => ['&', '&']
  | or => ['o', 'r']

def marks (relation : Relation) : List Char := [relation.mark, relation.mark]

end Relation

namespace Expression

mutual

theorem charsWith_letters (expression : Expression) :
    charsWith Relation.letters expression = chars expression := by
  match expression with
  | .compare comparison => rfl
  | .scope terms => rw [charsWith, chars, scopeCharsWith_letters terms]

theorem scopeCharsWith_letters (terms : List Term) :
    scopeCharsWith Relation.letters terms = scopeChars terms := by
  match terms with
  | [] => rfl
  | ⟨relation, expression⟩ :: later =>
      rw [scopeCharsWith, scopeChars, charsWith_letters expression, laterCharsWith_letters later]

theorem laterCharsWith_letters (terms : List Term) :
    laterCharsWith Relation.letters terms = laterChars terms := by
  match terms with
  | [] => rfl
  | ⟨none, expression⟩ :: later =>
      rw [laterCharsWith, laterChars, charsWith_letters expression, laterCharsWith_letters later]
      rfl
  | ⟨some relation, expression⟩ :: later =>
      rw [laterCharsWith, laterChars, charsWith_letters expression, laterCharsWith_letters later]
      rfl

end

end Expression

/-- What normalization looks for between single spaces. -/
def spacedSymbols : List (List Char) := [['a', 'n', 'd'], ['o', 'r'], ['=']]

namespace Comparison

variable {options : Options} {comparison : Comparison}

theorem Printable.space_not_mem (printable : comparison.Printable options) :
    ' ' ∉ comparison.chars := by
  intro member
  rw [chars, List.mem_append, List.mem_append] at member
  rcases member with (named | symbol) | literal
  · exact absurd (printable.name ' ' named) (by decide)
  · revert symbol
    cases comparison.operator <;> decide
  · exact absurd (printable.inside ' ' literal) (by decide)

/-- A comparison is longer than an equality sign, and the other words have no operator in them. -/
theorem Printable.not_prefix (printable : comparison.Printable options) {symbol : List Char}
    (known : symbol ∈ spacedSymbols) : ¬ comparison.chars <+: symbol := by
  intro inside
  obtain ⟨c, member, mark⟩ := comparison.operator.exists_sign
  have size := inside.length_le
  have long : 2 ≤ comparison.chars.length := by
    have first := List.length_pos_of_mem member
    have last := List.length_pos_iff.mpr printable.nonempty
    simp only [chars, List.length_append]
    omega
  have shown : c ∈ symbol := by
    apply inside.subset
    simp only [chars, List.mem_append, member, or_true, true_or]
  simp only [spacedSymbols, List.mem_cons, List.not_mem_nil, or_false] at known
  rcases known with rfl | rfl | rfl
  · rcases mark with rfl | rfl | rfl <;> exact absurd shown (by decide)
  · rcases mark with rfl | rfl | rfl <;> exact absurd shown (by decide)
  · exact absurd (Nat.le_trans long size) (by decide)

end Comparison

theorem Expression.Printable.not_prefix {options : Options} {expression : Expression}
    (printable : expression.Printable options) {symbol : List Char}
    (known : symbol ∈ spacedSymbols) (word : Relation → List Char) (rest : List Char) :
    ¬ symbol ++ [' '] <+: charsWith word expression ++ rest := by
  intro occurs
  cases expression with
  | scope terms =>
      rw [charsWith] at occurs
      simp only [spacedSymbols, List.mem_cons, List.not_mem_nil, or_false] at known
      rcases known with rfl | rfl | rfl
      · exact not_prefix_cons (by decide) occurs
      · exact not_prefix_cons (by decide) occurs
      · exact not_prefix_cons (by decide) occurs
  | compare comparison =>
      rw [charsWith] at occurs
      rcases List.prefix_or_prefix_of_prefix occurs (List.prefix_append _ rest) with short | long
      · apply Comparison.Printable.space_not_mem printable
        exact short.subset (List.mem_append_right _ (List.mem_singleton_self ' '))
      · rcases List.prefix_concat_iff.mp long with whole | inside
        · apply Comparison.Printable.space_not_mem printable
          rw [whole]
          exact List.mem_concat_self
        · exact Comparison.Printable.not_prefix printable known inside

/-- One substitution of normalization, said of a single connector: it puts other words for the
relations and leaves the terms alone. -/
structure Rewrites (symbol new : List Char) (word word' : Relation → List Char) : Prop where
  known : symbol ∈ spacedSymbols
  connector : ∀ (relation : Relation) (rest : List Char), ¬ symbol ++ [' '] <+: rest →
    substitute (' ' :: (symbol ++ [' '])) new (' ' :: (word relation ++ ' ' :: rest)) =
      ' ' :: (word' relation ++ ' ' :: substitute (' ' :: (symbol ++ [' '])) new rest)

namespace Rewrites

variable {symbol new : List Char} {word word' : Relation → List Char} {options : Options}

/-- A word that does not begin like what is sought is kept with the spaces around it. -/
theorem connector_kept {word rest : List Char} (spaceless : ' ' ∉ word)
    (differs : ¬ symbol ++ [' '] <+: word ++ ' ' :: rest) (after : ¬ symbol ++ [' '] <+: rest) :
    substitute (' ' :: (symbol ++ [' '])) new (' ' :: (word ++ ' ' :: rest)) =
      ' ' :: (word ++ ' ' :: substitute (' ' :: (symbol ++ [' '])) new rest) := by
  have elsewhere : ¬ ' ' :: (symbol ++ [' ']) <+: ' ' :: (word ++ ' ' :: rest) := by
    rw [List.prefix_cons_inj]
    exact differs
  have elsewhere_after : ¬ ' ' :: (symbol ++ [' ']) <+: ' ' :: rest := by
    rw [List.prefix_cons_inj]
    exact after
  rw [substitute_cons elsewhere, substitute_run _ spaceless, substitute_cons elsewhere_after]

theorem connector_replaced (rest : List Char) :
    substitute (' ' :: (symbol ++ [' '])) new (' ' :: (symbol ++ ' ' :: rest)) =
      new ++ substitute (' ' :: (symbol ++ [' '])) new rest := by
  have occurrence := @substitute_occurrence (' ' :: (symbol ++ [' '])) new rest
    (List.cons_ne_nil ' ' (symbol ++ [' ']))
  rw [List.cons_append, List.append_assoc] at occurrence
  exact occurrence

mutual

theorem expression (rewrites : Rewrites symbol new word word') (expression : Expression)
    (printable : expression.Printable options) (rest : List Char) :
    substitute (' ' :: (symbol ++ [' '])) new (expression.charsWith word ++ rest) =
      expression.charsWith word' ++ substitute (' ' :: (symbol ++ [' '])) new rest := by
  match expression with
  | .compare comparison =>
      rw [Expression.charsWith, Expression.charsWith]
      exact substitute_run rest (Comparison.Printable.space_not_mem printable)
  | .scope [] => exact substitute_run rest (by decide : ' ' ∉ ['(', ')'])
  | .scope (⟨_, first⟩ :: later) =>
      obtain ⟨-, first_printable, later_printable⟩ := printable
      simp only [Expression.charsWith, Expression.scopeCharsWith, List.cons_append,
        List.append_assoc, List.nil_append]
      rw [substitute_cons (not_prefix_cons (by decide)),
        rewrites.expression first first_printable, rewrites.laterTerms later later_printable,
        substitute_cons (not_prefix_cons (by decide))]

theorem laterTerms (rewrites : Rewrites symbol new word word') (terms : List Term)
    (printable : Expression.PrintableLater options terms) (rest : List Char) :
    substitute (' ' :: (symbol ++ [' '])) new (Expression.laterCharsWith word terms ++ rest) =
      Expression.laterCharsWith word' terms ++
        substitute (' ' :: (symbol ++ [' '])) new rest := by
  match terms with
  | [] => rfl
  | ⟨none, first⟩ :: later => exact absurd rfl printable.1
  | ⟨some relation, first⟩ :: later =>
      obtain ⟨-, first_printable, later_printable⟩ := printable
      have after := first_printable.not_prefix rewrites.known word
        (Expression.laterCharsWith word later ++ rest)
      simp only [Expression.laterCharsWith, Expression.connectorWith, List.cons_append,
        List.append_assoc, List.nil_append]
      rw [rewrites.connector relation _ after, rewrites.expression first first_printable,
        rewrites.laterTerms later later_printable]

end

theorem scope (rewrites : Rewrites symbol new word word') (terms : List Term)
    (printable : (Expression.scope terms).Printable options) :
    substitute (' ' :: (symbol ++ [' '])) new (Expression.scopeCharsWith word terms) =
      Expression.scopeCharsWith word' terms := by
  match terms with
  | [] => rfl
  | ⟨_, first⟩ :: later =>
      obtain ⟨-, first_printable, later_printable⟩ := printable
      have rest := rewrites.laterTerms later later_printable []
      rw [List.append_nil] at rest
      rw [Expression.scopeCharsWith, rewrites.expression first first_printable, rest,
        Expression.scopeCharsWith]
      exact congrArg _ (List.append_nil _)

theorem conjunctions :
    Rewrites ['a', 'n', 'd'] " && ".toList Relation.letters Relation.halfMarks := by
  refine ⟨by decide, ?_⟩
  intro relation rest after
  cases relation with
  | and => exact connector_replaced rest
  | or => exact connector_kept (by decide) (not_prefix_cons (by decide)) after

theorem disjunctions :
    Rewrites ['o', 'r'] " || ".toList Relation.halfMarks Relation.marks := by
  refine ⟨by decide, ?_⟩
  intro relation rest after
  cases relation with
  | and => exact connector_kept (by decide) (not_prefix_cons (by decide)) after
  | or => exact connector_replaced rest

theorem equalities : Rewrites ['='] "=".toList Relation.marks Relation.marks := by
  refine ⟨by decide, ?_⟩
  intro relation rest after
  cases relation with
  | and => exact connector_kept (by decide) (not_prefix_cons (by decide)) after
  | or => exact connector_kept (by decide) (not_prefix_cons (by decide)) after

end Rewrites

/-- The short spelling of a canonical text is that text with symbols for its relations. -/
theorem shortSpelling_scopeChars {options : Options} {terms : List Term}
    (printable : (Expression.scope terms).Printable options) :
    shortSpelling (Expression.scopeChars terms) =
      Expression.scopeCharsWith Relation.marks terms := by
  have conjunctions := Rewrites.conjunctions.scope terms printable
  have disjunctions := Rewrites.disjunctions.scope terms printable
  have equalities := Rewrites.equalities.scope terms printable
  rw [Expression.scopeCharsWith_letters] at conjunctions
  show substitute (' ' :: (['='] ++ [' '])) _ (substitute (' ' :: (['o', 'r'] ++ [' '])) _
    (substitute (' ' :: (['a', 'n', 'd'] ++ [' '])) _ _)) = _
  rw [conjunctions, disjunctions, equalities]

end AdTargeting
