import AdTargeting.Decimal.Digits

set_option autoImplicit false

/-
Decimal numerals: an optional sign, digits with at most one point among or around them, and an
optional exponent. Nothing else is a numeral, neither words nor other bases.
-/

namespace AdTargeting

/-- The value `coefficient * 10 ^ exponent`, negated when `negative`. A negative zero is kept
apart from zero. -/
structure Decimal where
  negative : Bool
  coefficient : Nat
  exponent : Int
deriving DecidableEq

namespace Decimal

def takeSign : List Char → Bool × List Char
  | '-' :: rest => (true, rest)
  | '+' :: rest => (false, rest)
  | text => (false, text)

/-- The digits after a point, and what follows them. -/
def takeFraction : List Char → List Char × List Char
  | '.' :: rest => (rest.takeWhile Char.isDigit, rest.dropWhile Char.isDigit)
  | text => ([], text)

/-- Reads what may follow the digits of a numeral: nothing, or an exponent. -/
def readExponent : List Char → Option Int
  | [] => some 0
  | mark :: rest =>
      let (negative, digits) := takeSign rest
      if (mark = 'e' ∨ mark = 'E') ∧ digits ≠ [] ∧ digits.all Char.isDigit then
        some (if negative then -digitsValue digits else digitsValue digits)
      else
        none

def read (text : List Char) : Option Decimal :=
  let (negative, unsigned) := takeSign text
  let whole := unsigned.takeWhile Char.isDigit
  let (fraction, tail) := takeFraction (unsigned.dropWhile Char.isDigit)
  if whole ++ fraction = [] then none
  else
    (readExponent tail).map fun exponent =>
      { negative
        coefficient := digitsValue (whole ++ fraction)
        exponent := exponent - fraction.length }

end Decimal

end AdTargeting
