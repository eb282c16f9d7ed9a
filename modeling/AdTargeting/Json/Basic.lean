import AdTargeting.Double.Basic
import AdTargeting.NameMap

set_option autoImplicit false

/-
JSON values. Integers of 64 bits are told apart from other numbers, which are doubles.
-/

namespace AdTargeting

inductive Json where
  | null
  | bool (value : Bool)
  | integer (value : Int)
  | real (value : Double)
  | text (value : String)
  | list (items : List Json)
  /-- The fields as written. A repeated name means its last value. -/
  | object (fields : List (String × Json))

namespace Json

def fields? : Json → Option (NameMap Json)
  | object fields => some (NameMap.ofList fields)
  | _ => none

def field? (value : Json) (name : String) : Option Json := do (← value.fields?).get? name

def number? : Json → Option Double
  | integer value => some (Double.ofInt value)
  | real value => some value
  | _ => none

def text? : Json → Option String
  | text value => some value
  | _ => none

def bool? : Json → Option Bool
  | bool value => some value
  | _ => none

def list? : Json → Option (List Json)
  | list items => some items
  | _ => none

/-- An integer that 64 bits hold without a sign. -/
def nat? : Json → Option Nat
  | integer value => if 0 ≤ value then some value.toNat else none
  | _ => none

end Json

end AdTargeting
