import AdTargeting.Decimal.Numeral
import AdTargeting.Double.Shortest

set_option autoImplicit false

/-
Doubles: signed magnitudes, the two infinities and one undefined value. Comparisons see neither the
sign of zero nor, in any direction, the undefined value.
-/

namespace AdTargeting

inductive Double where
  | finite (negative : Bool) (magnitude : Magnitude)
  | infinite (negative : Bool)
  | undefined
deriving DecidableEq

namespace Double

def ofMagnitude (negative : Bool) : Option Magnitude → Double
  | some magnitude => .finite negative magnitude
  | none => .infinite negative

/-- The double nearest to a decimal, with the sign of the decimal also at zero. -/
def ofDecimal (value : Decimal) : Double :=
  ofMagnitude value.negative (Magnitude.ofDecimal value.coefficient value.exponent)

def ofInt (value : Int) : Double :=
  ofMagnitude (value < 0) (Magnitude.ofNat value.natAbs)

def isFinite : Double → Bool
  | .finite _ _ => true
  | _ => false

/-- The double nearest to a numeral, when it is finite. -/
def readFinite (text : List Char) : Option Double :=
  match Decimal.read text with
  | none => none
  | some value =>
      let double := ofDecimal value
      if double.isFinite then some double else none

def signed (negative : Bool) (units : Nat) : Int :=
  if negative then -units else units

/-- The place on the number line in units, infinities just beyond all magnitudes. -/
def rank? : Double → Option Int
  | .finite negative magnitude => some (signed negative magnitude.units)
  | .infinite negative => some (signed negative unitsLimit)
  | .undefined => none

/-- Both are defined and their ranks are related. -/
def related (relation : Int → Int → Bool) (left right : Double) : Bool :=
  match left.rank?, right.rank? with
  | some x, some y => relation x y
  | _, _ => false

/-- Numeric equality, which identifies the zeros and is not reflexive. -/
def equal (left right : Double) : Bool := related (fun x y => x == y) left right

def less (left right : Double) : Bool := related (fun x y => x < y) left right

def lessEqual (left right : Double) : Bool := related (fun x y => x ≤ y) left right

def signText (negative : Bool) : List Char := if negative then ['-'] else []

def chars : Double → List Char
  | .finite negative magnitude => signText negative ++ magnitude.text
  | .infinite negative => signText negative ++ ['i', 'n', 'f']
  | .undefined => ['N', 'a', 'N']

/-- The shortest positional decimal that reads back. -/
def text (value : Double) : String := String.ofList value.chars

end Double

end AdTargeting
