set_option autoImplicit false

/-
Magnitudes of finite doubles. Every finite double is a whole multiple of 2^-1074, so a magnitude
is that multiple, and comparing two magnitudes is comparing natural numbers.
-/

namespace AdTargeting

/-- The distance from `units` to the next larger magnitude: 53 significant bits are kept. -/
def spacing (units : Nat) : Nat := 2 ^ (units.log2 - 52)

/-- The number of units in one. -/
def unitsPerOne : Nat := 2 ^ 1074

/-- The least number of units that is no magnitude because it is too large. -/
def unitsLimit : Nat := 2 ^ 2098

/-- The quotient rounded to the nearest whole number, a half to the even one. -/
def nearestEven (numerator denominator : Nat) : Nat :=
  let whole := numerator / denominator
  let twice := 2 * (numerator % denominator)
  if twice < denominator then whole
  else if denominator < twice then whole + 1
  else if whole % 2 = 0 then whole else whole + 1

theorem nearestEven_le (numerator denominator : Nat) :
    nearestEven numerator denominator ≤ numerator / denominator + 1 := by
  unfold nearestEven
  dsimp only
  split
  · omega
  · split
    · omega
    · split <;> omega

theorem lt_two_pow_spacing (units : Nat) : units < 2 ^ 53 * spacing units := by
  rw [spacing, ← Nat.pow_add]
  have below := Nat.lt_log2_self (n := units)
  have raised : 2 ^ (units.log2 + 1) ≤ 2 ^ (53 + (units.log2 - 52)) :=
    Nat.pow_le_pow_right (by decide) (by omega)
  omega

theorem spacing_dvd_of_le (significand shift : Nat) (small : significand ≤ 2 ^ 53) :
    spacing (significand * 2 ^ shift) ∣ significand * 2 ^ shift := by
  by_cases top : significand = 2 ^ 53
  · rw [top, ← Nat.pow_add, spacing, Nat.log2_two_pow]
    exact Nat.pow_dvd_pow 2 (by omega)
  · have below : significand * 2 ^ shift < 2 ^ (53 + shift) := by
      rw [Nat.pow_add]
      exact Nat.mul_lt_mul_of_pos_right (by omega) (Nat.two_pow_pos shift)
    refine Nat.dvd_trans (Nat.pow_dvd_pow 2 ?_) (Nat.dvd_mul_left _ _)
    by_cases zero : significand * 2 ^ shift = 0
    · simp [zero]
    · have := (Nat.log2_lt zero).mpr below
      omega

/-- The nearest number of units to a quotient that 53 significant bits can hold. -/
def nearestUnits (numerator denominator : Nat) : Nat :=
  let step := spacing (numerator / denominator)
  nearestEven numerator (denominator * step) * step

/-- A quotient is rounded to so many of its steps that 53 bits, or the next power of two, hold
them. -/
theorem nearestEven_spacing_le (numerator denominator : Nat) :
    nearestEven numerator (denominator * spacing (numerator / denominator)) ≤ 2 ^ 53 := by
  have bound := nearestEven_le numerator
    (denominator * spacing (numerator / denominator))
  have whole : numerator / denominator / spacing (numerator / denominator) < 2 ^ 53 :=
    Nat.div_lt_of_lt_mul (by
      rw [Nat.mul_comm]
      exact lt_two_pow_spacing _)
  rw [Nat.div_div_eq_div_mul] at whole
  exact Nat.le_trans bound whole

theorem nearestUnits_spaced (numerator denominator : Nat) :
    spacing (nearestUnits numerator denominator) ∣ nearestUnits numerator denominator :=
  spacing_dvd_of_le _ _ (nearestEven_spacing_le numerator denominator)

theorem unitsLimit_pos : 0 < unitsLimit := by
  unfold unitsLimit
  apply Nat.two_pow_pos

structure Magnitude where
  units : Nat
  spaced : spacing units ∣ units
  bounded : units < unitsLimit
deriving DecidableEq

namespace Magnitude

def zero : Magnitude where
  units := 0
  spaced := Nat.dvd_zero _
  bounded := unitsLimit_pos

/-- The magnitude nearest to a quotient of units, or none when that is too large. -/
def nearest (numerator denominator : Nat) : Option Magnitude :=
  if bounded : nearestUnits numerator denominator < unitsLimit then
    some ⟨nearestUnits numerator denominator, nearestUnits_spaced _ _, bounded⟩
  else
    none

def ofNat (value : Nat) : Option Magnitude :=
  nearest (value * unitsPerOne) 1

/-- The magnitude nearest to `coefficient * 10 ^ exponent`. Exponents that decide the answer by
themselves are not raised to. -/
def ofDecimal (coefficient : Nat) : Int → Option Magnitude
  | .ofNat power =>
      if coefficient = 0 then some zero
      else if 400 < power then none
      else nearest (coefficient * 10 ^ power * unitsPerOne) 1
  | .negSucc power =>
      if coefficient.log2 + 1080 < 3 * (power + 1) then some zero
      else nearest (coefficient * unitsPerOne) (10 ^ (power + 1))

end Magnitude

end AdTargeting
