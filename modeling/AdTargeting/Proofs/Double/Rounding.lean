import AdTargeting.Double.Shortest

set_option autoImplicit false

/-
Rounding depends on the value of a quotient and not on how it is written, and keeps what is
already a magnitude. Hence the shortest decimal of a magnitude reads back.
-/

namespace AdTargeting

theorem nearestEven_mul_right (numerator denominator scale : Nat) (positive : 0 < scale) :
    nearestEven (numerator * scale) (denominator * scale) = nearestEven numerator denominator := by
  have half (x y : Nat) : 2 * (x * scale) < y * scale ↔ 2 * x < y := by
    rw [← Nat.mul_assoc, Nat.mul_lt_mul_right positive]
  have double (x y : Nat) : y * scale < 2 * (x * scale) ↔ y < 2 * x := by
    rw [← Nat.mul_assoc, Nat.mul_lt_mul_right positive]
  simp only [nearestEven, Nat.mul_div_mul_right _ _ positive, Nat.mul_mod_mul_right, half, double]

theorem nearestUnits_mul_right (numerator denominator scale : Nat) (positive : 0 < scale) :
    nearestUnits (numerator * scale) (denominator * scale) =
      nearestUnits numerator denominator := by
  have step (width : Nat) : denominator * scale * width = denominator * width * scale := by
    rw [Nat.mul_assoc, Nat.mul_comm scale, ← Nat.mul_assoc]
  simp only [nearestUnits, Nat.mul_div_mul_right _ _ positive, step,
    nearestEven_mul_right _ _ _ positive]

theorem spacing_pos (units : Nat) : 0 < spacing units := Nat.two_pow_pos _

theorem unitsPerOne_pos : 0 < unitsPerOne := by
  unfold unitsPerOne
  apply Nat.two_pow_pos

theorem two_pow_mul_unitsPerOne (size : Nat) :
    2 ^ size * unitsPerOne = 2 ^ (size + 1074) := by
  unfold unitsPerOne
  apply (Nat.pow_add _ _ _).symm

theorem unitsLimit_le (size : Nat) (large : 2098 ≤ size) : unitsLimit ≤ 2 ^ size := by
  unfold unitsLimit
  apply Nat.pow_le_pow_right
  · decide
  · exact large

theorem lt_unitsLimit (size : Nat) (small : size < 2098) : 2 ^ size < unitsLimit := by
  unfold unitsLimit
  apply Nat.pow_lt_pow_right
  · decide
  · exact small

theorem nearestEven_of_dvd (numerator denominator : Nat) (positive : 0 < denominator)
    (whole : denominator ∣ numerator) :
    nearestEven numerator denominator = numerator / denominator := by
  have rest : numerator % denominator = 0 := Nat.mod_eq_zero_of_dvd whole
  simp only [nearestEven, rest, Nat.mul_zero, positive, ↓reduceIte]

/-- What 53 significant bits hold already is not moved. -/
theorem nearestUnits_of_spaced (units : Nat) (spaced : spacing units ∣ units) :
    nearestUnits units 1 = units := by
  simp only [nearestUnits, Nat.div_one, Nat.one_mul]
  rw [nearestEven_of_dvd units _ (spacing_pos units) spaced, Nat.div_mul_cancel spaced]

theorem le_nearestEven (numerator denominator : Nat) :
    numerator / denominator ≤ nearestEven numerator denominator := by
  simp only [nearestEven]
  split
  · exact Nat.le_refl _
  · split
    · omega
    · split <;> omega

theorem two_pow_le_nearestUnits (numerator denominator size : Nat)
    (large : 2 ^ size ≤ numerator / denominator) :
    2 ^ size ≤ nearestUnits numerator denominator := by
  have positive : numerator / denominator ≠ 0 := by
    have := Nat.two_pow_pos size
    omega
  have top : size ≤ (numerator / denominator).log2 := (Nat.le_log2 positive).mpr large
  have floor : 2 ^ (numerator / denominator).log2 ≤ numerator / denominator :=
    Nat.log2_self_le positive
  have spaced : spacing (numerator / denominator) ∣ 2 ^ (numerator / denominator).log2 :=
    Nat.pow_dvd_pow 2 (Nat.sub_le _ _)
  calc
    2 ^ size ≤ 2 ^ (numerator / denominator).log2 := Nat.pow_le_pow_right (by decide) top
    _ = 2 ^ (numerator / denominator).log2 / spacing (numerator / denominator) *
          spacing (numerator / denominator) := (Nat.div_mul_cancel spaced).symm
    _ ≤ numerator / denominator / spacing (numerator / denominator) *
          spacing (numerator / denominator) :=
        Nat.mul_le_mul_right _ (Nat.div_le_div_right floor)
    _ ≤ nearestUnits numerator denominator := by
        rw [Nat.div_div_eq_div_mul]
        exact Nat.mul_le_mul_right _ (le_nearestEven _ _)

theorem nearestUnits_eq_zero (numerator denominator : Nat) (small : 2 * numerator < denominator) :
    nearestUnits numerator denominator = 0 := by
  have whole : numerator / denominator = 0 := Nat.div_eq_of_lt (by omega)
  have rest : numerator % denominator = numerator := Nat.mod_eq_of_lt (by omega)
  have unit : spacing 0 = 1 := by decide
  simp only [nearestUnits, nearestEven, whole, unit, Nat.mul_one, rest, small, ↓reduceIte]

namespace Magnitude

theorem nearest_mul_right (numerator denominator scale : Nat) (positive : 0 < scale) :
    nearest (numerator * scale) (denominator * scale) = nearest numerator denominator := by
  simp only [nearest, nearestUnits_mul_right _ _ _ positive]

theorem nearest_units (magnitude : Magnitude) : nearest magnitude.units 1 = some magnitude := by
  have same := nearestUnits_of_spaced magnitude.units magnitude.spaced
  simp only [nearest, same, magnitude.bounded, ↓reduceDIte]

theorem nearest_eq_none (numerator denominator : Nat)
    (large : unitsLimit ≤ numerator / denominator) : nearest numerator denominator = none := by
  have above : ¬ nearestUnits numerator denominator < unitsLimit := by
    unfold unitsLimit at large ⊢
    apply Nat.not_lt.mpr
    apply two_pow_le_nearestUnits
    exact large
  simp only [nearest, above, ↓reduceDIte]

theorem nearest_eq_zero (numerator denominator : Nat) (small : 2 * numerator < denominator) :
    nearest numerator denominator = some zero := by
  have nothing := nearestUnits_eq_zero numerator denominator small
  simp only [nearest, nothing, unitsLimit_pos, ↓reduceDIte, zero]

/-- The shortcut for large exponents agrees with rounding. -/
theorem ofDecimal_ofNat (coefficient power : Nat) :
    ofDecimal coefficient (Int.ofNat power) =
      nearest (coefficient * 10 ^ power * unitsPerOne) 1 := by
  simp only [ofDecimal]
  split
  · rename_i nothing
    rw [nothing, Nat.zero_mul, Nat.zero_mul]
    exact (nearest_eq_zero 0 1 (by decide)).symm
  · split
    · rename_i something far
      refine (nearest_eq_none _ _ ?_).symm
      have product : 10 ^ power ≤ coefficient * 10 ^ power :=
        Nat.le_mul_of_pos_left _ (by omega)
      calc
        unitsLimit ≤ 2 ^ (3 * power + 1074) := unitsLimit_le _ (by omega)
        _ = 2 ^ (3 * power) * unitsPerOne := (two_pow_mul_unitsPerOne _).symm
        _ = 8 ^ power * unitsPerOne := by rw [Nat.pow_mul]
        _ ≤ 10 ^ power * unitsPerOne :=
          Nat.mul_le_mul_right _ (Nat.pow_le_pow_left (by decide) power)
        _ ≤ coefficient * 10 ^ power * unitsPerOne / 1 := by
          rw [Nat.div_one]
          exact Nat.mul_le_mul_right _ product
    · rfl

/-- The shortcut for small values agrees with rounding. -/
theorem ofDecimal_negSucc (coefficient power : Nat) :
    ofDecimal coefficient (Int.negSucc power) =
      nearest (coefficient * unitsPerOne) (10 ^ (power + 1)) := by
  simp only [ofDecimal]
  split
  · rename_i far
    refine (nearest_eq_zero _ _ ?_).symm
    calc
      2 * (coefficient * unitsPerOne) < 2 * (2 ^ (coefficient.log2 + 1) * unitsPerOne) := by
        have := (Nat.mul_lt_mul_right unitsPerOne_pos).mpr (Nat.lt_log2_self (n := coefficient))
        omega
      _ = 2 ^ (coefficient.log2 + 1 + 1074 + 1) := by
        rw [two_pow_mul_unitsPerOne, Nat.pow_succ 2 (coefficient.log2 + 1 + 1074), Nat.mul_comm]
      _ ≤ 2 ^ (3 * (power + 1)) := Nat.pow_le_pow_right (by decide) (by omega)
      _ = 8 ^ (power + 1) := Nat.pow_mul 2 3 (power + 1)
      _ ≤ 10 ^ (power + 1) := Nat.pow_le_pow_left (by decide) _
  · rfl

/-- The exponent as a difference: the value is `coefficient * 10 ^ up / 10 ^ down`. -/
theorem ofDecimal_sub (coefficient up down : Nat) :
    ofDecimal coefficient ((up : Int) - down) =
      nearest (coefficient * 10 ^ up * unitsPerOne) (10 ^ down) := by
  by_cases ordered : down ≤ up
  · have whole : (up : Int) - down = Int.ofNat (up - down) := by
      rw [Int.ofNat_eq_natCast]
      omega
    have power : 10 ^ up = 10 ^ (up - down) * 10 ^ down := by
      rw [← Nat.pow_add, Nat.sub_add_cancel ordered]
    rw [whole, ofDecimal_ofNat, power,
      ← nearest_mul_right _ 1 (10 ^ down) (Nat.pow_pos (by decide)), Nat.one_mul,
      ← Nat.mul_assoc, Nat.mul_right_comm]
  · have fraction : (up : Int) - down = Int.negSucc (down - up - 1) := by
      rw [Int.negSucc_eq]
      omega
    have power : 10 ^ down = 10 ^ (down - up - 1 + 1) * 10 ^ up := by
      rw [← Nat.pow_add, show down - up - 1 + 1 + up = down by omega]
    rw [fraction, ofDecimal_negSucc, power,
      ← nearest_mul_right _ _ (10 ^ up) (Nat.pow_pos (by decide)), Nat.mul_right_comm]

theorem ofDecimal_mul_pow (coefficient zeros down : Nat) :
    ofDecimal (coefficient * 10 ^ zeros) ((0 : Nat) - (down + zeros : Nat)) =
      ofDecimal coefficient ((0 : Nat) - (down : Nat)) := by
  rw [ofDecimal_sub, ofDecimal_sub, Nat.pow_add, Nat.pow_zero, Nat.mul_one, Nat.mul_one,
    ← nearest_mul_right _ (10 ^ down) (10 ^ zeros) (Nat.pow_pos (by decide)),
    Nat.mul_right_comm]

theorem ofDecimal_of_searchGrids (magnitude : Magnitude) (remaining : Nat) (start : Int)
    (coefficient : Nat) (exponent : Int)
    (found : magnitude.searchGrids remaining start = some (coefficient, exponent)) :
    ofDecimal coefficient exponent = some magnitude := by
  induction remaining generalizing start with
  | zero => cases found
  | succ remaining ih =>
      simp only [searchGrids] at found
      split at found
      · rename_i nearest hit
        cases found
        have back := List.find?_some hit
        exact of_decide_eq_true back
      · exact ih _ found

/-- The exact expansion of a magnitude: `places` is the number of places of a unit. -/
theorem nearest_expansion (magnitude : Magnitude) (places : Nat) :
    nearest (magnitude.units * 5 ^ places * 2 ^ places) (10 ^ places) = some magnitude := by
  have tens : 10 ^ places = 5 ^ places * 2 ^ places := by rw [← Nat.mul_pow]
  have positive : 0 < 10 ^ places := Nat.pow_pos (by decide)
  have scaled := nearest_mul_right magnitude.units 1 (10 ^ places) positive
  rw [nearest_units, Nat.one_mul] at scaled
  rw [Nat.mul_assoc, ← tens, scaled]

theorem ofDecimal_expansion (magnitude : Magnitude) :
    ofDecimal (magnitude.units * 5 ^ 1074) (-1074) = some magnitude := by
  have places : 1073 + 1 = 1074 := rfl
  have expanded := ofDecimal_negSucc (magnitude.units * 5 ^ 1074) 1073
  rw [places, unitsPerOne, magnitude.nearest_expansion 1074] at expanded
  exact expanded

theorem ofDecimal_shortest (magnitude : Magnitude) :
    ofDecimal magnitude.shortest.1 magnitude.shortest.2 = some magnitude := by
  unfold shortest
  cases found : magnitude.searchGrids 64 magnitude.coarsestGrid with
  | none => exact magnitude.ofDecimal_expansion
  | some decimal => exact magnitude.ofDecimal_of_searchGrids _ _ _ _ found

end Magnitude

end AdTargeting
