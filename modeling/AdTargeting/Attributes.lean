import AdTargeting.Condition.Error
import AdTargeting.Json.Basic

set_option autoImplicit false

/-
What is known about a request: named scalar values. Names are compared character by character.
-/

namespace AdTargeting

inductive AttributeValue where
  | number (value : Double)
  | text (value : String)
deriving DecidableEq

/-- Why a JSON value cannot be used for attributes. -/
inductive AttributeFault where
  | notAnObject
  | boolean
  | null
  | collection
deriving DecidableEq

def AttributeFault.message : AttributeFault → String
  | notAnObject => "expected a JSON object"
  | boolean => "booleans are not supported"
  | null => "null is not supported"
  | collection => "only scalar values are supported"

namespace AttributeValue

def kind : AttributeValue → ValueKind
  | number _ => .number
  | text _ => .text

def display : AttributeValue → String
  | number value => value.text
  | text value => value

def number? : AttributeValue → Option Double
  | number value => some value
  | text _ => none

def text? : AttributeValue → Option String
  | number _ => none
  | text value => some value

/-- Integers are taken as the nearest double. -/
def ofInt (value : Int) : AttributeValue := number (Double.ofInt value)

def ofJson : Json → Except AttributeFault AttributeValue
  | .integer value => .ok (ofInt value)
  | .real value => .ok (number value)
  | .text value => .ok (text value)
  | .bool _ => .error .boolean
  | .null => .error .null
  | .list _ => .error .collection
  | .object _ => .error .collection

/-- A JSON value taken for the first kind that fits, a number before a text. -/
def ofScalar? (value : Json) : Option AttributeValue :=
  match value.number? with
  | some held => some (number held)
  | none => value.text?.map text

/-- Equality that compares numbers as numbers. -/
def agrees : AttributeValue → AttributeValue → Bool
  | number left, number right => left.equal right
  | text left, text right => left = right
  | _, _ => false

end AttributeValue

abbrev Attributes := NameMap AttributeValue

namespace Attributes

/-- A fault with the name of the entry that has it. -/
structure Invalid where
  name : String
  fault : AttributeFault
deriving DecidableEq

def writeEntry (attributes : Attributes) (entry : String × Json) : Except Invalid Attributes :=
  match AttributeValue.ofJson entry.2 with
  | .ok value => .ok (attributes.insert entry.1 value)
  | .error fault => .error ⟨entry.1, fault⟩

/-- The attributes of a JSON object. Entries are visited in the order of their names, so a fault is
that of the least name that has one. -/
def ofJson (value : Json) : Except Invalid Attributes :=
  match value.fields? with
  | some fields => fields.entries.foldlM writeEntry NameMap.empty
  | none => .error ⟨"<root>", .notAnObject⟩

/-- As many entries on both sides, and for each one that agrees under its name. -/
def agrees (left right : Attributes) : Bool :=
  left.size = right.size &&
    left.entries.all fun entry => (right.get? entry.1).any entry.2.agrees

end Attributes

end AdTargeting
