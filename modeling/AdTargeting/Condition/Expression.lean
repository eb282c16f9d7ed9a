import AdTargeting.Condition.Literal

set_option autoImplicit false

/-
Conditions as trees. A scope holds terms in order; each says how it joins those before it. Trees
may also be built by hand, so the first term can carry a relation and a later one can lack it.
-/

namespace AdTargeting

structure Comparison where
  /-- The attribute it looks at, possibly empty. -/
  name : String
  operator : Operator
  literal : Literal
  /-- Where the operator stands. -/
  position : Nat
deriving DecidableEq

mutual

structure Term where
  relation : Option Relation
  expression : Expression

inductive Expression where
  | scope (terms : List Term)
  | compare (comparison : Comparison)

end

def Comparison.agrees (left right : Comparison) : Bool :=
  left.name = right.name && left.operator = right.operator &&
    left.literal.agrees right.literal && left.position = right.position

def Comparison.chars (comparison : Comparison) : List Char :=
  comparison.name.toList ++ comparison.operator.symbol.toList ++ comparison.literal.chars

namespace Expression

mutual

/-- The comparisons of a tree in the order of its text. -/
def comparisons : Expression → List Comparison
  | .compare comparison => [comparison]
  | .scope terms => termComparisons terms

def termComparisons : List Term → List Comparison
  | [] => []
  | ⟨_, expression⟩ :: rest => comparisons expression ++ termComparisons rest

end

theorem termComparisons_append (terms later : List Term) :
    termComparisons (terms ++ later) = termComparisons terms ++ termComparisons later := by
  induction terms with
  | nil => rfl
  | cons term terms ih =>
      obtain ⟨relation, first⟩ := term
      rw [List.cons_append, termComparisons, termComparisons, ih, List.append_assoc]

mutual

/-- How many scopes enclose the most deeply nested place, the tree's own included. -/
def depth : Expression → Nat
  | .compare _ => 0
  | .scope terms => termDepth terms + 1

def termDepth : List Term → Nat
  | [] => 0
  | ⟨_, expression⟩ :: rest => max (depth expression) (termDepth rest)

end

mutual

/-- Equality of trees that compares numbers as numbers. -/
def agrees : Expression → Expression → Bool
  | .compare left, .compare right => left.agrees right
  | .scope left, .scope right => termsAgree left right
  | _, _ => false

def termsAgree : List Term → List Term → Bool
  | [], [] => true
  | ⟨relation, expression⟩ :: rest, ⟨relation', expression'⟩ :: rest' =>
      relation = relation' && agrees expression expression' && termsAgree rest rest'
  | _, _ => false

end

/-- What stands before a later term: its relation as a word, or only a space. -/
def connector : Option Relation → List Char
  | none => [' ']
  | some relation => ' ' :: relation.word.toList ++ [' ']

mutual

/-- The canonical text of a tree, scopes in parentheses. -/
def chars : Expression → List Char
  | .compare comparison => comparison.chars
  | .scope terms => '(' :: scopeChars terms ++ [')']

def scopeChars : List Term → List Char
  | [] => []
  | ⟨_, expression⟩ :: rest => chars expression ++ laterChars rest

def laterChars : List Term → List Char
  | [] => []
  | ⟨relation, expression⟩ :: rest =>
      connector relation ++ chars expression ++ laterChars rest

end

/-- The canonical text of a whole condition, whose outermost scope has no parentheses. -/
def rootChars : Expression → List Char
  | .compare comparison => comparison.chars
  | .scope terms => scopeChars terms

def text (expression : Expression) : String := String.ofList expression.chars

def rootText (expression : Expression) : String := String.ofList expression.rootChars

end Expression

end AdTargeting
