import AdTargeting.Double.Basic
import AdTargeting.Proofs.Double.Rounding
import Mathlib.Algebra.Order.Field.Basic
import Mathlib.Data.Rat.Cast.Order
import Mathlib.Tactic.Linarith
import Mathlib.Tactic.FieldSimp

set_option autoImplicit false

/-
What it means to be the double nearest to a number, with ties going to the even neighbour. There is
exactly one, larger numbers have larger ones, and rounding finds it.
-/

namespace AdTargeting

/-- A number of units is nearest to a value among those that 53 significant bits can hold, however
large. Of two that are equally near, it is the one whose last bit is zero. -/
structure NearestUnits (value : ℚ) (units : Nat) : Prop where
  spaced : spacing units ∣ units
  closest : ∀ other, spacing other ∣ other → |value - units| ≤ |value - other|
  even : ∀ other, spacing other ∣ other → other ≠ units → |value - other| = |value - units| →
    2 * spacing units ∣ units

/-- A double is nearest to the number with a sign and an absolute value. It is infinite when the
nearest number of units is too large for a magnitude. -/
inductive Double.Nearest (negative : Bool) (value : ℚ) : Double → Prop
  | finite {magnitude : Magnitude}
      (nearest : NearestUnits (value * unitsPerOne) magnitude.units) :
      Nearest negative value (.finite negative magnitude)
  | infinite {units : Nat} (nearest : NearestUnits (value * unitsPerOne) units)
      (large : unitsLimit ≤ units) : Nearest negative value (.infinite negative)

section Spacing

variable {units other : Nat}

theorem spacing_dvd_spacing (ordered : units ≤ other) : spacing units ∣ spacing other := by
  apply Nat.pow_dvd_pow
  by_cases nothing : units = 0
  · simp [nothing]
  · have floor : 2 ^ units.log2 ≤ other := Nat.le_trans (Nat.log2_self_le nothing) ordered
    have top := (Nat.le_log2 (by omega)).mpr floor
    omega

/-- One spacing further on is the next number that 53 significant bits can hold. -/
theorem spacing_dvd_next (spaced : spacing units ∣ units) :
    spacing (units + spacing units) ∣ units + spacing units := by
  obtain ⟨significand, product⟩ := spaced
  have bound := lt_two_pow_spacing units
  have next : units + spacing units = (significand + 1) * spacing units := by
    rw [Nat.add_mul, Nat.one_mul, Nat.mul_comm significand, ← product]
  have small : significand < 2 ^ 53 := by
    apply Nat.lt_of_mul_lt_mul_left (a := spacing units)
    rwa [← product, Nat.mul_comm]
  rw [next]
  exact spacing_dvd_of_le (significand + 1) _ small

/-- Numbers whose last bits are zero leave room for another between them. -/
theorem next_lt_of_even (below : units < other)
    (even : 2 * spacing units ∣ units) (even' : 2 * spacing other ∣ other) :
    units + spacing units < other := by
  have finer : 2 * spacing units ∣ other :=
    Nat.dvd_trans (Nat.mul_dvd_mul_left 2 (spacing_dvd_spacing (Nat.le_of_lt below))) even'
  have gap := Nat.le_of_dvd (by omega) (Nat.dvd_sub finer even)
  have positive := spacing_pos units
  omega

end Spacing

section Distances

variable {value : ℚ} {below above : Nat}

/-- The nearer of two numbers is on the same side of the middle between them. -/
theorem le_middle_of_closer (ordered : below < above)
    (closer : |value - below| ≤ |value - above|) : value ≤ (below + above) / 2 := by
  have cast : (below : ℚ) < above := Nat.cast_lt.mpr ordered
  by_contra beyond
  have nearer : |value - above| < value - below := abs_lt.mpr ⟨by linarith, by linarith⟩
  have far := le_abs_self (value - below)
  linarith

theorem middle_le_of_closer (ordered : below < above)
    (closer : |value - above| ≤ |value - below|) : (below + above) / 2 ≤ value := by
  have cast : (below : ℚ) < above := Nat.cast_lt.mpr ordered
  by_contra beyond
  have nearer : |value - below| < above - value := abs_lt.mpr ⟨by linarith, by linarith⟩
  have far := neg_le_abs (value - above)
  linarith

end Distances

namespace NearestUnits

variable {value value' : ℚ} {units units' : Nat}

/-- Two numbers on either side of the middle cannot both be nearest: one of them is odd, or there is
another between them. -/
theorem not_lt (nearest : NearestUnits value units) (nearest' : NearestUnits value units') :
    ¬ units < units' := by
  intro below
  have cast : (units : ℚ) < units' := Nat.cast_lt.mpr below
  have upper := le_middle_of_closer below (nearest.closest units' nearest'.spaced)
  have lower := middle_le_of_closer below (nearest'.closest units nearest.spaced)
  have equal : |value - units'| = |value - units| :=
    le_antisymm (nearest'.closest units nearest.spaced) (nearest.closest units' nearest'.spaced)
  have between := next_lt_of_even below
    (nearest.even units' nearest'.spaced (Nat.ne_of_gt below) equal)
    (nearest'.even units nearest.spaced (Nat.ne_of_lt below) equal.symm)
  have next : |value - units| ≤ |value - (units + spacing units : Nat)| :=
    nearest.closest _ (spacing_dvd_next nearest.spaced)
  have after : (units : ℚ) < (units + spacing units : Nat) :=
    Nat.cast_lt.mpr (Nat.lt_add_of_pos_right (spacing_pos units))
  have before : ((units + spacing units : Nat) : ℚ) < units' := Nat.cast_lt.mpr between
  have nearer : |value - (units + spacing units : Nat)| < value - units :=
    abs_lt.mpr ⟨by linarith, by linarith⟩
  have far := le_abs_self (value - units)
  linarith

theorem unique (nearest : NearestUnits value units) (nearest' : NearestUnits value units') :
    units = units' :=
  Nat.le_antisymm (Nat.not_lt.mp (nearest'.not_lt nearest))
    (Nat.not_lt.mp (nearest.not_lt nearest'))

/-- Rounding does not reverse the order of numbers. -/
theorem mono (nearest : NearestUnits value units) (nearest' : NearestUnits value' units')
    (ordered : value ≤ value') : units ≤ units' := by
  by_contra reversed
  have above : units' < units := Nat.not_le.mp reversed
  have lower := middle_le_of_closer above (nearest.closest units' nearest'.spaced)
  have upper := le_middle_of_closer above (nearest'.closest units nearest.spaced)
  have same : value = value' := by linarith
  rw [← same] at nearest'
  exact nearest'.not_lt nearest above

end NearestUnits

/-- How far a number of units is from a quotient, in parts of a unit. -/
def distance (numerator denominator units : Nat) : Nat :=
  ((numerator : Int) - (units * denominator : Nat)).natAbs

section Quotients

variable {numerator denominator : Nat}

theorem abs_quotient_sub (positive : 0 < denominator) (units : Nat) :
    |(numerator : ℚ) / denominator - units| =
      (distance numerator denominator units : ℚ) / denominator := by
  have cast : (0 : ℚ) < denominator := Nat.cast_pos.mpr positive
  have quotient : (numerator : ℚ) / denominator - units =
      (((numerator : Int) - (units * denominator : Nat) : Int) : ℚ) / denominator := by
    push_cast
    field_simp
  rw [quotient, abs_div, abs_of_pos cast, distance, Nat.cast_natAbs, Int.cast_abs]

theorem closer_iff (positive : 0 < denominator) (units other : Nat) :
    |(numerator : ℚ) / denominator - units| ≤ |(numerator : ℚ) / denominator - other| ↔
      distance numerator denominator units ≤ distance numerator denominator other := by
  have cast : (0 : ℚ) < denominator := Nat.cast_pos.mpr positive
  rw [abs_quotient_sub positive, abs_quotient_sub positive, div_le_div_iff_of_pos_right cast,
    Nat.cast_le]

/-- Counting in steps of several units is dividing into larger parts. -/
theorem distance_mul (units step : Nat) :
    distance numerator (denominator * step) units =
      distance numerator denominator (units * step) := by
  rw [distance, distance, Nat.mul_assoc, Nat.mul_comm step]

/-- No whole number is nearer to a quotient than the one it is rounded to, and one that is as near
has an odd neighbour. -/
theorem distance_nearestEven (positive : 0 < denominator) (other : Nat) :
    distance numerator denominator (nearestEven numerator denominator) ≤
        distance numerator denominator other ∧
      (other ≠ nearestEven numerator denominator →
        distance numerator denominator other =
            distance numerator denominator (nearestEven numerator denominator) →
          2 ∣ nearestEven numerator denominator) := by
  have split := Nat.div_add_mod numerator denominator
  have rest := Nat.mod_lt numerator positive
  unfold distance nearestEven
  dsimp only
  generalize numerator / denominator = whole at *
  generalize numerator % denominator = part at *
  rw [Nat.mul_comm] at split
  have places : other = whole ∨ other = whole + 1 ∨ other + 1 ≤ whole ∨ whole + 2 ≤ other := by
    omega
  have next : (whole + 1) * denominator = whole * denominator + denominator := by
    rw [Nat.add_mul, Nat.one_mul]
  rcases places with rfl | rfl | before | after
  · split_ifs <;> omega
  · split_ifs <;> omega
  · have far : other * denominator + denominator ≤ whole * denominator := by
      rw [← Nat.succ_mul]
      exact Nat.mul_le_mul_right denominator before
    split_ifs <;> omega
  · have far : whole * denominator + 2 * denominator ≤ other * denominator := by
      rw [← Nat.add_mul]
      exact Nat.mul_le_mul_right denominator after
    split_ifs <;> omega

/-- An even number of steps has zero as its last bit, also when it is carried into a bit more. -/
theorem two_mul_spacing_dvd {significand shift : Nat} (small : significand ≤ 2 ^ 53)
    (even : 2 ∣ significand) :
    2 * spacing (significand * 2 ^ shift) ∣ significand * 2 ^ shift := by
  by_cases top : significand = 2 ^ 53
  · rw [top, ← Nat.pow_add, spacing, Nat.log2_two_pow, ← Nat.pow_succ']
    exact Nat.pow_dvd_pow 2 (by omega)
  · refine Nat.dvd_trans ?_ (Nat.mul_dvd_mul_right even _)
    apply Nat.mul_dvd_mul_left
    have below : significand * 2 ^ shift < 2 ^ (53 + shift) := by
      rw [Nat.pow_add]
      exact Nat.mul_lt_mul_of_pos_right (by omega) (Nat.two_pow_pos shift)
    apply Nat.pow_dvd_pow
    by_cases zero : significand * 2 ^ shift = 0
    · simp [zero]
    · have := (Nat.log2_lt zero).mpr below
      omega

/-- What is no whole number of steps lies below all quotients that are rounded to such steps. -/
theorem other_lt_of_not_dvd {whole other : Nat} (spaced : spacing other ∣ other)
    (between : ¬ spacing whole ∣ other) : other < 2 ^ whole.log2 := by
  by_contra reached
  have top : whole.log2 ≤ other.log2 := by
    apply (Nat.le_log2 ?_).mpr (Nat.not_lt.mp reached)
    rintro rfl
    exact between (Nat.dvd_zero _)
  exact between (Nat.dvd_trans (Nat.pow_dvd_pow 2 (by omega)) spaced)

/-- No number that 53 significant bits can hold is nearer to a quotient than the one it is rounded
to. If another is as near, the last bit is zero. -/
theorem distance_nearestUnits (positive : 0 < denominator) {other : Nat}
    (spaced : spacing other ∣ other) :
    distance numerator denominator (nearestUnits numerator denominator) ≤
        distance numerator denominator other ∧
      (other ≠ nearestUnits numerator denominator →
        distance numerator denominator other =
            distance numerator denominator (nearestUnits numerator denominator) →
          2 * spacing (nearestUnits numerator denominator) ∣
            nearestUnits numerator denominator) := by
  have steps : 0 < denominator * spacing (numerator / denominator) :=
    Nat.mul_pos positive (spacing_pos _)
  have grid (count : Nat) := @distance_nearestEven numerator _ steps count
  simp only [distance_mul] at grid
  by_cases multiple : spacing (numerator / denominator) ∣ other
  · obtain ⟨count, rfl⟩ := multiple
    obtain ⟨closer, even⟩ := grid count
    rw [Nat.mul_comm (spacing _)]
    refine ⟨closer, fun differs equal => ?_⟩
    apply two_mul_spacing_dvd (nearestEven_spacing_le numerator denominator)
    apply even _ equal
    rintro rfl
    exact differs rfl
  · -- Below the power of two that starts the steps there is nothing as near as that power.
    have below := other_lt_of_not_dvd spaced multiple
    have whole : numerator / denominator ≠ 0 := by
      intro zero
      rw [zero] at multiple
      exact multiple (Nat.one_dvd other)
    have floor := Nat.log2_self_le whole
    have bottom : spacing (numerator / denominator) ∣ 2 ^ (numerator / denominator).log2 :=
      Nat.pow_dvd_pow 2 (Nat.sub_le _ _)
    obtain ⟨count, power⟩ := bottom
    have closer := (grid count).1
    rw [Nat.mul_comm count, ← power] at closer
    have held : 2 ^ (numerator / denominator).log2 * denominator ≤ numerator :=
      Nat.le_trans (Nat.mul_le_mul_right denominator floor) (Nat.div_mul_le_self _ _)
    have apart : other * denominator < 2 ^ (numerator / denominator).log2 * denominator :=
      Nat.mul_lt_mul_of_pos_right below positive
    have further : distance numerator denominator (2 ^ (numerator / denominator).log2) <
        distance numerator denominator other := by
      unfold distance
      omega
    have nearer := Nat.lt_of_le_of_lt closer further
    exact ⟨Nat.le_of_lt nearer, fun _ equal => absurd equal (Nat.ne_of_gt nearer)⟩

theorem nearestUnits_nearest (positive : 0 < denominator) :
    NearestUnits ((numerator : ℚ) / denominator) (nearestUnits numerator denominator) := by
  refine ⟨nearestUnits_spaced numerator denominator, ?_, ?_⟩
  · intro other spaced
    exact (closer_iff positive _ _).mpr (distance_nearestUnits positive spaced).1
  · intro other spaced differs equal
    apply (distance_nearestUnits positive spaced).2 differs
    exact Nat.le_antisymm ((closer_iff positive _ _).mp equal.le)
      ((closer_iff positive _ _).mp equal.ge)

end Quotients

end AdTargeting
