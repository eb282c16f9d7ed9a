import AdTargeting.Yaml.Document
import AdTargeting.Yaml.Value

set_option autoImplicit false

/-
What the nodes of a document mean where a text, a number, a list or any value is wanted. A reference
means what the node it refers to means. As a node may refer to one around it or to one with many
references of its own, references are only followed so many times in all.
-/

namespace AdTargeting

namespace Yaml

/-- Computations over the anchored nodes of a document that may fail. The state is how many
references may still be followed. -/
abbrev Decoder := ReaderT (List (Nat × Node)) (StateT Nat Option)

mutual

/-- How many marks a node is made of: one for a scalar or a reference, two around a collection. -/
def Node.size : Node → Nat
  | .scalar _ => 1
  | .sequence _ items => Node.sizeOfItems items + 2
  | .mapping _ entries => Node.sizeOfEntries entries + 2
  | .reference _ => 1

def Node.sizeOfItems : List Node → Nat
  | [] => 0
  | item :: items => Node.size item + Node.sizeOfItems items

def Node.sizeOfEntries : List (Node × Node) → Nat
  | [] => 0
  | (key, value) :: entries => Node.size key + Node.size value + Node.sizeOfEntries entries

end

/-- Decodes the root. A document may follow a hundred references for each mark it is made of. -/
def Document.decode? {α : Type} (document : Document) (decoder : Node → Decoder α) : Option α :=
  ((decoder document.root).run document.anchored).run' (100 * document.root.size)

/-- The anchored node of a number, if one may still be asked for. -/
def Decoder.anchored (number : Nat) : Decoder Node := do
  let allowance ← get
  if allowance = 0 then failure
  set (allowance - 1)
  (← read).lookup number

namespace Node

/-- The node itself or, for a reference, the one it refers to. -/
def follow : Node → Decoder Node
  | reference number => Decoder.anchored number
  | node => return node

/-- What a node means, if it has no more than so many collections one inside another. -/
def value : Nat → Node → Decoder Value
  | 0, node => do
      match ← node.follow with
      | scalar written => written.value?
      | _ => failure
  | depth + 1, node => do
      match ← node.follow with
      | scalar written => written.value?
      | sequence type items =>
          if type = some .own then failure else return .list (← items.mapM (value depth))
      | mapping type entries =>
          if type = some .own then failure
          else
            return .mapping (← entries.mapM fun entry => do
              return (← value depth entry.1, ← value depth entry.2))
      | reference _ => failure

/-- A scalar as a text, by what is written and whatever it means. -/
def text (node : Node) : Decoder String := do
  match ← node.follow with
  | scalar written => return written.text
  | _ => failure

def isMissing : Node → Bool
  | scalar written => written.style = .plain && written.text = ""
  | _ => false

def optionalText (node : Node) : Decoder (Option String) := do
  match ← node.follow with
  | scalar written => written.optionalText?
  | _ => failure

/-- The items of a sequence. Nothing at all is the empty one. -/
def items (node : Node) : Decoder (List Node) := do
  match ← node.follow with
  | sequence _ items => return items
  | node => if node.isMissing then return [] else failure

/-- The entries of a mapping whose keys are taken as texts. Nothing at all is the empty one. -/
def fields (node : Node) : Decoder (List (String × Node)) := do
  match ← node.follow with
  | mapping _ entries => entries.mapM fun entry => do return (← entry.1.text, entry.2)
  | node => if node.isMissing then return [] else failure

def bool (node : Node) : Decoder Bool := do
  match ← node.follow with
  | scalar written => if written.isBare .bool then readBool written.text else failure
  | _ => failure

/-- A whole number of 64 bits, written without a minus sign. -/
def nat (node : Node) : Decoder Nat := do
  match ← node.follow with
  | scalar written => if written.isBare .int then readNat64 written.text.toList else failure
  | _ => failure

/-- The value of a field, none when it is not there. Fails when it is there more than once. -/
def field? (fields : List (String × Node)) (name : String) : Option (Option Node) :=
  match fields.filter (·.1 = name) with
  | [] => some none
  | [field] => some (some field.2)
  | _ => none

end Node

end Yaml

end AdTargeting
