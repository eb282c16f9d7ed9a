import AdTargeting.Condition.Error
import AdTargeting.Options.Basic
import AdTargeting.Text.Split

set_option autoImplicit false

/-
The right-hand side of a comparison. Its shape decides what it is: a number before an interval, an
interval before a set, and plain text last.
-/

namespace AdTargeting

inductive Literal where
  | number (value : Double)
  | interval (low high : Double)
  | set (members : List String)
  | text (value : String)
deriving DecidableEq

namespace Literal

def kind : Literal → LiteralKind
  | number _ => .number
  | interval _ _ => .interval
  | set _ => .set
  | text _ => .text

/-- What stands between the brackets of a text with the shape of an interval. -/
def betweenBrackets : List Char → Option (List Char)
  | '[' :: rest =>
      if rest.getLast? = some ']' ∧ '-' ∈ rest then some rest.dropLast else none
  | _ => none

/-- Two bounds around the only hyphen, so neither bound can have a minus sign. -/
def readBounds (text : List Char) : Option Literal :=
  match splitAt '-' text with
  | [low, high] => do return interval (← Double.readFinite low) (← Double.readFinite high)
  | _ => none

/-- The literal a text stands for. Only an interval can be malformed. -/
def classify (options : Options) (text : List Char) : Option Literal :=
  match Double.readFinite text with
  | some value => some (number value)
  | none =>
      match (if options.numericIntervals then betweenBrackets text else none) with
      | some bounds => readBounds bounds
      | none =>
          if options.stringSets ∧ ',' ∈ text then
            some (set ((splitAt ',' text).map String.ofList))
          else
            some (Literal.text (String.ofList text))

def read (options : Options) (text : List Char) (position : Nat) :
    Except ConditionError Literal :=
  match classify options text with
  | some literal => .ok literal
  | none => .error (.malformedInterval (String.ofList text) position)

def chars : Literal → List Char
  | number value => value.chars
  | interval low high => '[' :: low.chars ++ '-' :: high.chars ++ [']']
  | set members => joinWith ',' (members.map String.toList)
  | text value => value.toList

/-- Equality that compares numbers as numbers. -/
def agrees : Literal → Literal → Bool
  | number left, number right => left.equal right
  | interval low high, interval low' high' => low.equal low' && high.equal high'
  | set members, set members' => members = members'
  | text value, text value' => value = value'
  | _, _ => false

end Literal

end AdTargeting
