import AdTargeting.Condition.Parse
import AdTargeting.Evaluation

set_option autoImplicit false

/-
Deciding whether content guarded by a condition is served, at once or with the condition compiled
beforehand. Without attributes nothing is served; a blank condition asks for nothing else.
-/

namespace AdTargeting

def isBlankText (text : String) : Bool := trimBlank text.toList = []

def shouldServe (options : Options) (attributes : Attributes) (condition : String) :
    Logged ConditionError Bool :=
  if attributes.isEmpty then .after .noAttributes (.pure false)
  else if isBlankText condition then .pure true
  else do
    let tree ← parse options condition
    tree.evaluate attributes

/-- A condition ready for use. A blank one has no tree. -/
structure Compiled where
  source : String
  tree : Option Expression

namespace Compiled

def canonical (compiled : Compiled) : String :=
  match compiled.tree with
  | some tree => tree.rootText
  | none => ""

/-- Equality of source and tree that compares numbers as numbers. -/
def agrees (left right : Compiled) : Bool :=
  left.source = right.source &&
    match left.tree, right.tree with
    | some tree, some tree' => tree.agrees tree'
    | none, none => true
    | _, _ => false

end Compiled

def compile (options : Options) (condition : String) : Logged ConditionError Compiled :=
  if isBlankText condition then .pure ⟨condition, none⟩
  else do return ⟨condition, some (← parse options condition)⟩

def Compiled.serves (compiled : Compiled) (attributes : Attributes) :
    Logged ConditionError Bool :=
  if attributes.isEmpty then .pure false
  else
    match compiled.tree with
    | some tree => tree.evaluate attributes
    | none => .pure true

end AdTargeting
