import AdTargeting.Double.Basic
import AdTargeting.Yaml.Node

set_option autoImplicit false

/-
What scalars mean where any value may stand. Plain ones are resolved by how they look, tagged ones
as their tags say, and all others are texts.
-/

namespace AdTargeting

namespace Yaml

/-- A value. Whole numbers behind a minus sign are told apart, zero included. -/
inductive Value where
  | null
  | bool (value : Bool)
  | whole (value : Nat)
  | negative (magnitude : Nat)
  | real (value : Double)
  | text (value : String)
  | list (items : List Value)
  | mapping (entries : List (Value × Value))

def isNullWord (text : String) : Bool := ["~", "null", "Null", "NULL"].contains text

def readBool (text : String) : Option Bool :=
  if ["true", "True", "TRUE"].contains text then some true
  else if ["false", "False", "FALSE"].contains text then some false
  else none

/-- The digits of a base, not empty. -/
def readRadix (radix : Nat) (digits : List Char) : Option Nat :=
  if digits = [] then none
  else
    digits.foldlM
      (fun value c => do
        let digit ← hexDigit? c
        if digit < radix then some (radix * value + digit) else none)
      0

/-- A whole number by whether it has a minus sign and by its magnitude, in decimal notation or,
after a mark, in another base. A decimal number with a needless zero in front is none. -/
def readWhole (text : List Char) : Option (Bool × Nat) := do
  let (negative, unsigned) := Decimal.takeSign text
  let magnitude ← match unsigned with
    | '0' :: 'x' :: digits => readRadix 16 digits
    | '0' :: 'o' :: digits => readRadix 8 digits
    | '0' :: 'b' :: digits => readRadix 2 digits
    | '0' :: _ :: _ => none
    | digits => readRadix 10 digits
  return (negative, magnitude)

/-- A whole number without a minus sign that 64 bits hold. -/
def readNat64 (text : List Char) : Option Nat :=
  match readWhole text with
  | some (false, value) => if value < 2 ^ 64 then some value else none
  | _ => none

/-- Digits after a needless zero are a text. -/
def isZeroPadded (text : List Char) : Bool :=
  match (Decimal.takeSign text).2 with
  | '0' :: c :: rest => (c :: rest).all Char.isDigit
  | _ => false

def readReal (text : String) : Option Double :=
  if [".inf", ".Inf", ".INF", "+.inf", "+.Inf", "+.INF"].contains text then some (.infinite false)
  else if ["-.inf", "-.Inf", "-.INF"].contains text then some (.infinite true)
  else if [".nan", ".NaN", ".NAN"].contains text then some .undefined
  else Double.readFinite text.toList

/-- The whole number of at most 128 bits that a text is, if any. Those that do not fit 64 bits are
recognized but have no value. -/
def Value.readWhole? (text : String) : Option (Option Value) :=
  match readWhole text.toList with
  | none => none
  | some (false, magnitude) =>
      if magnitude < 2 ^ 64 then some (some (whole magnitude))
      else if magnitude < 2 ^ 128 then some none
      else none
  | some (true, magnitude) =>
      if magnitude ≤ 2 ^ 63 then some (some (negative magnitude))
      else if magnitude ≤ 2 ^ 127 then some none
      else none

def Value.ofPlain? (text : String) : Option Value :=
  if text = "" ∨ isNullWord text then some null
  else
    match readBool text, readWhole? text with
    | some value, _ => some (bool value)
    | none, some number => number
    | none, none =>
        match if isZeroPadded text.toList then none else readReal text with
        | some value => some (real value)
        | none => some (.text text)

namespace Scalar

/-- What a scalar means. Types of a document's own have no meaning here. -/
def value? (scalar : Scalar) : Option Value :=
  match scalar.type with
  | none => if scalar.style = .plain then Value.ofPlain? scalar.text else some (.text scalar.text)
  | some .null => if isNullWord scalar.text then some .null else none
  | some .bool => .bool <$> readBool scalar.text
  | some .int => do ← Value.readWhole? scalar.text
  | some .float => .real <$> readReal scalar.text
  | some .own => none
  | some .other => some (.text scalar.text)

/-- The scalar is plain, or a literal one whose type is what is wanted. -/
def isBare (scalar : Scalar) (wanted : NodeType) : Bool :=
  scalar.style = .plain || (scalar.style = .literal && scalar.type = some wanted)

/-- A text that may be left open. -/
def optionalText? (scalar : Scalar) : Option (Option String) :=
  if scalar.style ≠ .plain then some (some scalar.text)
  else
    match scalar.type with
    | none => some (if scalar.text = "" ∨ isNullWord scalar.text then none else some scalar.text)
    | some .null => if isNullWord scalar.text then some none else none
    | some _ => some (some scalar.text)

end Scalar

end Yaml

end AdTargeting
