import AdTargeting.Error
import AdTargeting.Serving

set_option autoImplicit false

/-
A run of the library: attributes that change, options that are replaced, and conditions
compiled into named slots. A slot keeps the options it was compiled under.
-/

namespace AdTargeting

structure Session where
  attributes : Attributes
  options : Options
  slots : NameMap Compiled

inductive Action where
  | insert (name : String) (value : AttributeValue)
  | replaceJson (value : Json)
  /-- Writes the pairs in order into fresh attributes, which stay empty if there are no pairs. -/
  | replacePairs (pairs : List (String × AttributeValue))
  | setOptions (options : Options)
  | compile (slot : String) (condition : String)
  /-- Tries the condition of a slot on the attributes. -/
  | serve (slot : String)

namespace Session

def start (options : Options) : Session := ⟨NameMap.empty, options, NameMap.empty⟩

/-- What the condition of a slot decides on the attributes. An empty slot decides nothing. -/
def verdict? (session : Session) (slot : String) : Option (Except ConditionError Bool) :=
  (session.slots.get? slot).map fun compiled => (compiled.serves session.attributes).result

/-- The session after an action. A failing action has no session of its own, so the one before it
stays. -/
def act (session : Session) : Action → Except ServeError Session
  | .insert name value =>
      .ok { session with attributes := session.attributes.insert name value }
  | .replaceJson value =>
      match Attributes.ofJson value with
      | .ok attributes => .ok { session with attributes }
      | .error reason => .error (.invalidAttribute reason)
  | .replacePairs pairs => .ok { session with attributes := NameMap.ofList pairs }
  | .setOptions options => .ok { session with options }
  | .compile slot condition =>
      match (AdTargeting.compile session.options condition).result with
      | .ok compiled => .ok { session with slots := session.slots.insert slot compiled }
      | .error reason => .error (.condition reason)
  | .serve slot =>
      match session.verdict? slot with
      | some (.error reason) => .error (.condition reason)
      | _ => .ok session

/-- The session after an action that may fail. -/
def next (session : Session) (action : Action) : Session :=
  match session.act action with
  | .ok after => after
  | .error _ => session

def run (session : Session) (actions : List Action) : Session := actions.foldl next session

end Session

end AdTargeting
