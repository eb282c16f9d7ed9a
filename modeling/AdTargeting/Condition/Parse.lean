import AdTargeting.Condition.Token
import AdTargeting.Log

set_option autoImplicit false

/-
Building the tree of a condition from its tokens. Enclosing scopes wait on a stack while an inner
one is read, so each fault is found at the first token that shows it.
-/

namespace AdTargeting

/-- A scope that is interrupted by an inner one. -/
structure Interrupted where
  terms : List Term
  relation : Option Relation
  /-- Where the inner scope was opened. -/
  opened : Nat

/-- The scope being read, and those around it, innermost first. -/
structure Progress where
  terms : List Term
  relation : Option Relation
  enclosing : List Interrupted

namespace Progress

def start : Progress := ⟨[], none, []⟩

/-- Adds a term with the relation read before it. Before the first term a relation has nothing to
join, and later terms need one. -/
def add (progress : Progress) (expression : Expression) (position : Nat) :
    Except ConditionError Progress :=
  match progress.terms, progress.relation with
  | [], _ => .ok { progress with terms := [⟨none, expression⟩], relation := none }
  | terms, some relation =>
      .ok { progress with terms := terms ++ [⟨some relation, expression⟩], relation := none }
  | _, none => .error (.missingRelation position)

def openScope (options : Options) (progress : Progress) (position : Nat) :
    Except ConditionError Progress :=
  if options.maxDepth < progress.enclosing.length + 1 then
    .error (.nestingTooDeep options.maxDepth position)
  else
    .ok ⟨[], none, ⟨progress.terms, progress.relation, position⟩ :: progress.enclosing⟩

def closeScope (progress : Progress) (position : Nat) : Except ConditionError Progress :=
  match progress.enclosing with
  | [] => .error (.unmatchedClose position)
  | outer :: enclosing =>
      add ⟨outer.terms, outer.relation, enclosing⟩ (.scope progress.terms) outer.opened

def addComparison (options : Options) (progress : Progress) (name : String) (start : Nat)
    (operator : Operator) (position : Nat) (text : List Char) : Except ConditionError Progress :=
  if text = [] then
    .error (.danglingOperator operator position)
  else
    match Literal.read options text (position + operator.width) with
    | .ok literal => progress.add (.compare { name, operator, literal, position }) start
    | .error reason => .error reason

def step (options : Options) (progress : Progress) : Token → Except ConditionError Progress
  | .opening position => progress.openScope options position
  | .closing position => progress.closeScope position
  | .relation relation _ => .ok { progress with relation := some relation }
  | .comparison name start operator position literal =>
      progress.addComparison options name start operator position literal
  | .stray _ _ => .ok progress

/-- The finished tree, unless a scope is still open. -/
def finish (progress : Progress) : Except ConditionError Expression :=
  match progress.enclosing with
  | [] => .ok (.scope progress.terms)
  | outer :: _ => .error (.mismatchedParenthesis outer.opened)

def run (options : Options) : Progress → List Token → Logged ConditionError Expression
  | progress, [] => .returned progress.finish
  | progress, token :: rest =>
      match progress.step options token with
      | .error reason => .fail reason
      | .ok next =>
          match token with
          | .stray name position => .after (.droppedName name position) (run options next rest)
          | _ => run options next rest

end Progress

/-- The tree of a condition. A text without a comparison or a scope is an empty tree. -/
def parse (options : Options) (condition : String) : Logged ConditionError Expression := do
  let tree ← Progress.run options .start (Token.scan (shortSpelling condition.toList))
  Logged.record (.parsed condition tree.comparisons.length)
  return tree

end AdTargeting
