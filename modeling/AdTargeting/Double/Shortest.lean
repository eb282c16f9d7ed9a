import AdTargeting.Decimal.Digits
import AdTargeting.Double.Magnitude

set_option autoImplicit false

/-
The shortest decimal that reads back as a given magnitude. Grids of decimals are tried from coarse
to fine; on a grid only the two neighbours of the magnitude can be its nearest decimal.
-/

namespace AdTargeting

namespace Magnitude

def readsBack (magnitude : Magnitude) (coefficient : Nat) (exponent : Int) : Bool :=
  ofDecimal coefficient exponent = some magnitude

/-- The magnitude divided by `10 ^ exponent`, as a quotient. -/
def scaled (magnitude : Magnitude) : Int → Nat × Nat
  | .ofNat power => (magnitude.units, unitsPerOne * 10 ^ power)
  | .negSucc power => (magnitude.units * 10 ^ (power + 1), unitsPerOne)

/-- The nearest multiple of `10 ^ exponent` that reads back. Of two that are equally near, the
larger is taken. -/
def onGrid (magnitude : Magnitude) (exponent : Int) : Option Nat :=
  let (numerator, denominator) := magnitude.scaled exponent
  let below := numerator / denominator
  let ordered :=
    if 2 * (numerator % denominator) < denominator then [below, below + 1]
    else [below + 1, below]
  ordered.find? fun coefficient => magnitude.readsBack coefficient exponent

def searchGrids (magnitude : Magnitude) : Nat → Int → Option (Nat × Int)
  | 0, _ => none
  | remaining + 1, exponent =>
      match magnitude.onGrid exponent with
      | some coefficient => some (coefficient, exponent)
      | none => searchGrids magnitude remaining (exponent - 1)

/-- A grid coarser than the magnitude itself: `bits` bounds its binary exponent, and three bits
are less than a decimal digit. -/
def coarsestGrid (magnitude : Magnitude) : Int :=
  let bits : Int := magnitude.units.log2 - 1073
  if bits < 0 then bits * 3 / 10 + 1 else bits / 3 + 1

/-- The coefficient and exponent of the shortest decimal. The exact expansion ends the search, so
that the result reads back whatever grids were tried. -/
def shortest (magnitude : Magnitude) : Nat × Int :=
  (magnitude.searchGrids 64 magnitude.coarsestGrid).getD
    (magnitude.units * 5 ^ 1074, -1074)

end Magnitude

def dropTrailingZeros : Nat → Nat → Nat × Nat
  | coefficient, 0 => (coefficient, 0)
  | coefficient, places + 1 =>
      if coefficient % 10 = 0 then dropTrailingZeros (coefficient / 10) places
      else (coefficient, places + 1)

/-- Positional text of `coefficient * 10 ^ exponent`: no exponent, and no point without a nonzero
digit after it. -/
def positional (coefficient : Nat) : Int → List Char
  | .ofNat power => digitsOf (coefficient * 10 ^ power)
  | .negSucc power =>
      match dropTrailingZeros coefficient (power + 1) with
      | (whole, 0) => digitsOf whole
      | (shifted, places) =>
          digitsOf (shifted / 10 ^ places) ++ '.' :: fixedDigits places (shifted % 10 ^ places)

def Magnitude.text (magnitude : Magnitude) : List Char :=
  positional magnitude.shortest.1 magnitude.shortest.2

end AdTargeting
