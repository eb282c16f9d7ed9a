import AdTargeting.Suite.Basic
import AdTargeting.Yaml.Decoder

set_option autoImplicit false

/-
Reading suites. Fields that are not known are passed over; those that are known may not be written
twice.
-/

namespace AdTargeting

open Yaml (Decoder Document Node)

namespace ErrorKind

/-- The kind a JSON value names: by a text, or as the only field of an object. -/
def ofJson? : Json → Option ErrorKind
  | .text name => ofName? name
  | value => do
      match (← value.fields?).entries with
      | [(name, .null)] => ofName? name
      | _ => none

end ErrorKind

namespace Expectation

def ofJson? : Json → Option Expectation
  | .bool value => some (verdict value)
  | value => do return error (← ErrorKind.ofJson? (← value.field? "error"))

end Expectation

/-- The kind a value names: by a text, or as the only entry of a mapping that has nothing in it. There
the kinds may be counted instead, from zero. -/
def ErrorKind.ofValue? : Yaml.Value → Option ErrorKind
  | .text name => ofName? name
  | .mapping [(.text name, .null)] => ofName? name
  | .mapping [(.whole index, .null)] => all[index]?
  | _ => none

namespace Expectation

/-- Whether a key is that of an expected error. A key that is no text may count the fields instead,
from zero; other keys are refused. -/
def isErrorKey : Yaml.Value → Option Bool
  | .text key => some (key = "error")
  | .whole index => some (index = 0)
  | _ => none

def ofValue? : Yaml.Value → Option Expectation
  | .bool value => some (verdict value)
  | .mapping entries => do
      let errors ← entries.filterMapM fun entry => do
        return if ← isErrorKey entry.1 then some entry.2 else none
      match errors with
      | [kind] => return error (← ErrorKind.ofValue? kind)
      | _ => none
  | _ => none

end Expectation

def AttributeValue.ofValue? : Yaml.Value → Option AttributeValue
  | .whole value => some (ofInt value)
  | .negative magnitude => some (ofInt (-magnitude))
  | .real value => some (number value)
  | .text value => some (text value)
  | _ => none

/-- How many collections a document may have one inside another, where its values are used. -/
def nestingLimit : Nat := 128

/-- The meaning of a field, or its default when it is not there. -/
def fieldOr {α : Type} (fields : List (String × Node)) (name : String) (unset : α)
    (decoder : Node → Decoder α) : Decoder α := do
  match ← Node.field? fields name with
  | some node => decoder node
  | none => return unset

def requiredField {α : Type} (fields : List (String × Node)) (name : String)
    (decoder : Node → Decoder α) : Decoder α := do
  decoder (← (← Node.field? fields name))

def Options.ofNode (node : Node) : Decoder Options := do
  let fields ← node.fields
  let defaults : Options := {}
  let numericIntervals ← fieldOr fields "numeric_intervals" defaults.numericIntervals Node.bool
  let stringSets ← fieldOr fields "string_sets" defaults.stringSets Node.bool
  let maxDepth ← fieldOr fields "max_depth" defaults.maxDepth Node.nat
  return { numericIntervals, stringSets, maxDepth }

def Attributes.ofNode (node : Node) : Decoder Attributes := do
  let pairs ← (← node.fields).mapM fun field => do
    return (field.1, ← AttributeValue.ofValue? (← field.2.value (nestingLimit - 4)))
  return NameMap.ofList pairs

def Scenario.ofNode (node : Node) : Decoder Scenario := do
  let fields ← node.fields
  let description ← requiredField fields "description" Node.text
  let attributes ← fieldOr fields "attributes" NameMap.empty Attributes.ofNode
  let condition ← fieldOr fields "condition" "" Node.text
  let expected ← requiredField fields "expect" fun node => do
    Expectation.ofValue? (← node.value (nestingLimit - 3))
  return { description, attributes, condition, expected }

namespace Suite

def ofNode (node : Node) : Decoder Suite := do
  let fields ← node.fields
  let name ← fieldOr fields "name" none Node.optionalText
  let options ← fieldOr fields "options" {} Options.ofNode
  let scenarios ← requiredField fields "scenarios" fun list => do
    (← list.items).mapM Scenario.ofNode
  return { name, options, scenarios }

def decode? (source : String) : Option Suite :=
  (Document.ofText? source).bind (·.decode? ofNode)

def read (source : String) : Except ServeError Suite := readWith decode? source

def load (contents : Option String) : Except ServeError Suite := loadWith decode? contents

end Suite

end AdTargeting
