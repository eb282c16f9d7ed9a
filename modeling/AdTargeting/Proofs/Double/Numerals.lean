import AdTargeting.Proofs.Double.Nearest
import AdTargeting.Proofs.Double.Reading

set_option autoImplicit false

/-
A numeral is read as the double nearest to its exact value, however long it is and however small the
value. It is not read if the value is beyond the middle between the largest double and the next
power of two.
-/

namespace AdTargeting

section Limits

variable {value : ℚ} {units size : Nat}

theorem spacing_eq (bottom : 2 ^ 52 * 2 ^ size ≤ units) (below : units < 2 ^ 53 * 2 ^ size) :
    spacing units = 2 ^ size := by
  rw [← Nat.pow_add] at bottom below
  have something : units ≠ 0 := by
    have positive := Nat.two_pow_pos (52 + size)
    omega
  have least := (Nat.le_log2 something).mpr bottom
  have most := (Nat.log2_lt something).mpr below
  have exponent : units.log2 - 52 = size := by omega
  rw [spacing, exponent]

/-- The largest number below a power of two that 53 significant bits can hold. -/
theorem le_of_lt_two_pow (spaced : spacing units ∣ units) (below : units < 2 ^ 53 * 2 ^ size) :
    units ≤ (2 ^ 53 - 1) * 2 ^ size := by
  by_contra above
  rw [spacing_eq (by omega) below] at spaced
  obtain ⟨count, rfl⟩ := spaced
  rw [Nat.mul_comm (2 ^ size)] at above below
  have many := Nat.lt_of_mul_lt_mul_right (Nat.not_le.mp above)
  have few := Nat.lt_of_mul_lt_mul_right below
  omega

theorem top_lt_two_pow (size : Nat) : (2 ^ 53 - 1) * 2 ^ size < 2 ^ 53 * 2 ^ size :=
  Nat.mul_lt_mul_of_pos_right (by decide) (Nat.two_pow_pos size)

/-- The number before a power of two has all its bits set, so the middle between them is not rounded
to it. -/
theorem NearestUnits.lt_middle (nearest : NearestUnits value units)
    (below : units < 2 ^ 53 * 2 ^ size) :
    value < (((2 ^ 53 - 1) * 2 ^ size : Nat) + (2 ^ 53 * 2 ^ size : Nat)) / 2 := by
  have limit_spaced : spacing (2 ^ 53 * 2 ^ size) ∣ 2 ^ 53 * 2 ^ size :=
    spacing_dvd_of_le _ _ (Nat.le_refl _)
  have held := le_of_lt_two_pow nearest.spaced below
  have upper := le_middle_of_closer below (nearest.closest _ limit_spaced)
  have cast : (units : ℚ) ≤ ((2 ^ 53 - 1) * 2 ^ size : Nat) := Nat.cast_le.mpr held
  by_contra reached
  -- What is nearest is then the largest number, and the power is as near.
  have largest : units = (2 ^ 53 - 1) * 2 ^ size := by
    apply Nat.le_antisymm held
    rw [← Nat.cast_le (α := ℚ)]
    linarith
  subst largest
  have gap : (((2 ^ 53 - 1) * 2 ^ size : Nat) : ℚ) < (2 ^ 53 * 2 ^ size : Nat) :=
    Nat.cast_lt.mpr below
  have limit : |value - (2 ^ 53 * 2 ^ size : Nat)| =
      |value - ((2 ^ 53 - 1) * 2 ^ size : Nat)| := by
    rw [abs_of_neg (by linarith), abs_of_pos (by linarith)]
    linarith
  have even := nearest.even _ limit_spaced (Nat.ne_of_gt below) limit
  rw [spacing_eq (Nat.mul_le_mul_right _ (by decide)) below] at even
  have bit := Nat.dvd_of_mul_dvd_mul_right (Nat.two_pow_pos size) even
  omega

theorem NearestUnits.middle_le (nearest : NearestUnits value units)
    (reached : 2 ^ 53 * 2 ^ size ≤ units) :
    (((2 ^ 53 - 1) * 2 ^ size : Nat) + (2 ^ 53 * 2 ^ size : Nat)) / 2 ≤ value := by
  have top_spaced : spacing ((2 ^ 53 - 1) * 2 ^ size) ∣ (2 ^ 53 - 1) * 2 ^ size :=
    spacing_dvd_of_le _ _ (by decide)
  have above := Nat.lt_of_lt_of_le (top_lt_two_pow size) reached
  have lower := middle_le_of_closer above (nearest.closest _ top_spaced)
  have cast : ((2 ^ 53 * 2 ^ size : Nat) : ℚ) ≤ units := Nat.cast_le.mpr reached
  linarith

theorem NearestUnits.lt_two_pow_iff (nearest : NearestUnits value units) (size : Nat) :
    units < 2 ^ 53 * 2 ^ size ↔ value < (2 ^ 54 - 1) * 2 ^ size / 2 := by
  have middle : ((2 ^ 54 - 1) * 2 ^ size / 2 : ℚ) =
      (((2 ^ 53 - 1) * 2 ^ size : Nat) + (2 ^ 53 * 2 ^ size : Nat)) / 2 := by
    push_cast
    ring
  rw [middle]
  constructor
  · exact nearest.lt_middle
  · intro below
    by_contra reached
    exact (nearest.middle_le (Nat.not_lt.mp reached)).not_gt below

end Limits

namespace Double

variable {negative : Bool} {value : ℚ} {double double' : Double}

theorem eq_of_units {left right : Magnitude} (same : left.units = right.units) : left = right := by
  cases left
  cases right
  cases same
  rfl

theorem Nearest.unique (nearest : Nearest negative value double)
    (nearest' : Nearest negative value double') : double = double' := by
  cases nearest with
  | finite near =>
      cases nearest' with
      | finite near' => rw [eq_of_units (near.unique near')]
      | infinite near' large =>
          rw [← near.unique near'] at large
          exact absurd (Magnitude.bounded _) (Nat.not_lt.mpr large)
  | infinite near large =>
      cases nearest' with
      | finite near' =>
          rw [near.unique near'] at large
          exact absurd (Magnitude.bounded _) (Nat.not_lt.mpr large)
      | infinite => rfl

theorem nearest_ofMagnitude (negative : Bool) {numerator denominator : Nat}
    (positive : 0 < denominator)
    (quotient : value * unitsPerOne = (numerator : ℚ) / denominator) :
    Nearest negative value (ofMagnitude negative (Magnitude.nearest numerator denominator)) := by
  have nearest := @nearestUnits_nearest numerator denominator positive
  rw [← quotient] at nearest
  unfold Magnitude.nearest
  split
  · exact .finite nearest
  · rename_i large
    exact .infinite nearest (Nat.not_lt.mp large)

theorem nearest_ofDecimal (decimal : Decimal) :
    Nearest decimal.negative (decimal.coefficient * 10 ^ decimal.exponent)
      (ofDecimal decimal) := by
  obtain ⟨negative, coefficient, exponent⟩ := decimal
  cases exponent with
  | ofNat power =>
      rw [ofDecimal, Magnitude.ofDecimal_ofNat]
      apply nearest_ofMagnitude negative Nat.one_pos
      push_cast
      rw [Int.ofNat_eq_natCast, zpow_natCast, div_one]
  | negSucc power =>
      rw [ofDecimal, Magnitude.ofDecimal_negSucc]
      apply nearest_ofMagnitude negative (Nat.pow_pos (by decide))
      rw [zpow_negSucc]
      push_cast
      rw [div_eq_mul_inv, mul_right_comm]

/-- The double of a numeral is nearest to its exact value. -/
theorem nearest_numeral (numeral : Numeral) :
    Nearest numeral.sign.negative numeral.absolute (ofDecimal numeral.decimal) := by
  rw [numeral.absolute_eq]
  exact nearest_ofDecimal numeral.decimal

theorem unitsLimit_eq : unitsLimit = 2 ^ 53 * 2 ^ 2045 := by
  have size : 2098 = 53 + 2045 := rfl
  rw [unitsLimit, size]
  exact Nat.pow_add 2 53 2045

theorem cast_two_pow (size : Nat) : ((2 ^ size : Nat) : ℚ) = 2 ^ size := by
  push_cast
  rfl

/-- The middle between the largest double and the next power of two, in units and as a number. -/
theorem middle_eq (shift scale : Nat) :
    ((2 ^ 54 - 1) * 2 ^ (shift + scale + 1) / 2 : ℚ) =
      (2 ^ (54 + shift) - 2 ^ shift) * 2 ^ scale := by
  rw [pow_succ, pow_add, pow_add]
  ring

/-- The nearest double is finite up to the middle between the largest one and the next power. -/
theorem Nearest.isFinite_iff (nearest : Nearest negative value double) :
    double.isFinite = true ↔ value < 2 ^ 1024 - 2 ^ 970 := by
  have positive : (0 : ℚ) < 2 ^ 1074 := pow_pos two_pos 1074
  have middle : value * unitsPerOne < (2 ^ 54 - 1) * 2 ^ 2045 / 2 ↔
      value < 2 ^ 1024 - 2 ^ 970 := by
    rw [unitsPerOne, cast_two_pow 1074, middle_eq 970 1074]
    exact mul_lt_mul_iff_left₀ positive
  rw [← middle]
  cases nearest with
  | finite near =>
      rename_i magnitude
      have bounded := magnitude.bounded
      rw [unitsLimit_eq, near.lt_two_pow_iff 2045] at bounded
      exact iff_of_true rfl bounded
  | infinite near large =>
      rw [← Nat.not_lt, unitsLimit_eq, near.lt_two_pow_iff 2045] at large
      exact iff_of_false Bool.false_ne_true large

/-- A text is read exactly when it is a numeral with a finite nearest double, which is then what it
is read as, sign included. Every numeral has one nearest double, and only a value that is too large
makes it infinite. -/
theorem readFinite_eq_some_iff :
    (∀ (text : List Char) (double : Double),
      readFinite text = some double ↔
        ∃ numeral : Numeral, numeral.chars = text ∧ double.isFinite = true ∧
          Nearest numeral.sign.negative numeral.absolute double) ∧
      (∀ numeral : Numeral, ∃! double, Nearest numeral.sign.negative numeral.absolute double) ∧
      ∀ numeral : Numeral,
        (∃ double, readFinite numeral.chars = some double) ↔
          numeral.absolute < 2 ^ 1024 - 2 ^ 970 := by
  refine ⟨fun text double => ⟨fun reading => ?_, ?_⟩, fun numeral => ?_, fun numeral => ?_⟩
  · obtain ⟨numeral, rfl, rfl, bounded⟩ := exists_numeral_of_readFinite reading
    exact ⟨numeral, rfl, bounded, nearest_numeral numeral⟩
  · rintro ⟨numeral, rfl, bounded, nearest⟩
    have same := nearest.unique (nearest_numeral numeral)
    rw [readFinite_numeral, ← same, if_pos bounded]
  · exact ⟨_, nearest_numeral numeral, fun other nearest =>
      nearest.unique (nearest_numeral numeral)⟩
  · rw [← (nearest_numeral numeral).isFinite_iff, readFinite_numeral]
    split
    · rename_i bounded
      exact iff_of_true ⟨_, rfl⟩ bounded
    · rename_i unbounded
      refine iff_of_false ?_ unbounded
      rintro ⟨double, found⟩
      cases found

end Double

end AdTargeting
