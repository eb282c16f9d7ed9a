import AdTargeting.Condition.Operator
import AdTargeting.Proofs.Double.Numerals

set_option autoImplicit false

/-
Integers as doubles, whether converted or read. Both roundings lead to the same place on the number
line, places keep the order of the integers, and up to 2^53 they are exact.
-/

namespace AdTargeting

/-- The units of the double nearest to a whole number, if it is not too large. -/
def integerUnits (value : Nat) : Nat := nearestUnits (value * unitsPerOne) 1

theorem integerUnits_nearest (value : Nat) :
    NearestUnits (value * unitsPerOne : Nat) (integerUnits value) := by
  have nearest := @nearestUnits_nearest (value * unitsPerOne) 1 Nat.one_pos
  rw [Nat.cast_one, div_one] at nearest
  exact nearest

theorem integerUnits_mono {left right : Nat} (ordered : left ≤ right) :
    integerUnits left ≤ integerUnits right := by
  apply (integerUnits_nearest left).mono (integerUnits_nearest right)
  exact Nat.cast_le.mpr (Nat.mul_le_mul_right unitsPerOne ordered)

theorem integerUnits_of_small {value : Nat} (small : value ≤ 2 ^ 53) :
    integerUnits value = value * unitsPerOne := by
  apply nearestUnits_of_spaced
  unfold unitsPerOne
  exact spacing_dvd_of_le value 1074 small

theorem units_lt_unitsLimit {value size : Nat} (small : value ≤ 2 ^ size)
    (fits : size + 1074 < 2098) : value * unitsPerOne < unitsLimit := by
  apply Nat.lt_of_le_of_lt (Nat.mul_le_mul_right unitsPerOne small)
  rw [two_pow_mul_unitsPerOne]
  exact lt_unitsLimit _ fits

/-- The place of the double nearest to an integer on the number line. -/
def integerRank (value : Int) : Int :=
  Double.signed (value < 0) (min (integerUnits value.natAbs) unitsLimit)

section Places

variable {left right : Int}

theorem integerRank_mono (ordered : left ≤ right) : integerRank left ≤ integerRank right := by
  have nonnegative (value : Nat) : 0 ≤ min (integerUnits value) unitsLimit := Nat.zero_le _
  unfold integerRank Double.signed
  by_cases below : left < 0
  · by_cases below' : right < 0
    · have units := @integerUnits_mono right.natAbs left.natAbs (by omega)
      simp only [below, below', decide_true, ↓reduceIte]
      omega
    · simp only [below, below', decide_true, decide_false, Bool.false_eq_true, ↓reduceIte]
      omega
  · have units := @integerUnits_mono left.natAbs right.natAbs (by omega)
    have above : ¬ right < 0 := by omega
    simp only [below, above, decide_false, Bool.false_eq_true, ↓reduceIte]
    omega

theorem integerRank_of_small {value : Int} (small : value.natAbs ≤ 2 ^ 53) :
    integerRank value = value * unitsPerOne := by
  have bounded := units_lt_unitsLimit small (by decide)
  rw [integerRank, integerUnits_of_small small, Nat.min_eq_left (Nat.le_of_lt bounded)]
  unfold Double.signed
  split
  · rename_i below
    have negative := of_decide_eq_true below
    rw [Nat.cast_mul, ← Int.neg_mul, Int.ofNat_natAbs_of_nonpos (by omega), Int.neg_neg]
  · rename_i above
    have positive : 0 ≤ value := by simpa using above
    rw [Nat.cast_mul, Int.natAbs_of_nonneg positive]

/-- Integers that differ have different places if one is exact, and so is its neighbour towards the
other. -/
theorem integerRank_lt (below : left < right)
    (exact : (-2 ^ 53 < right ∧ right ≤ 2 ^ 53) ∨ (-2 ^ 53 ≤ left ∧ left < 2 ^ 53)) :
    integerRank left < integerRank right := by
  have positive : (0 : Int) < unitsPerOne := Int.natCast_pos.mpr unitsPerOne_pos
  have step (value : Int) : value * unitsPerOne < (value + 1) * unitsPerOne := by
    rw [Int.add_mul]
    omega
  rcases exact with high | low
  · calc
      integerRank left ≤ integerRank (right - 1) := integerRank_mono (by omega)
      _ = (right - 1) * unitsPerOne := integerRank_of_small (by omega)
      _ < (right - 1 + 1) * unitsPerOne := step (right - 1)
      _ = integerRank right := by
        rw [Int.sub_add_cancel, integerRank_of_small (by omega)]
  · calc
      integerRank left = left * unitsPerOne := integerRank_of_small (by omega)
      _ < (left + 1) * unitsPerOne := step left
      _ = integerRank (left + 1) := (integerRank_of_small (by omega)).symm
      _ ≤ integerRank right := integerRank_mono (by omega)

theorem lt_of_integerRank_lt (below : integerRank left < integerRank right) : left < right := by
  by_contra above
  have ordered := integerRank_mono (Int.not_lt.mp above)
  omega

theorem integerRank_le_iff (exact : right < left →
      (-2 ^ 53 < left ∧ left ≤ 2 ^ 53) ∨ (-2 ^ 53 ≤ right ∧ right < 2 ^ 53)) :
    integerRank left ≤ integerRank right ↔ left ≤ right := by
  refine ⟨fun ordered => ?_, integerRank_mono⟩
  by_contra reversed
  have below := Int.not_le.mp reversed
  have apart := integerRank_lt below (exact below)
  omega

end Places

namespace Double

theorem rank?_ofMagnitude (negative : Bool) (numerator denominator : Nat) :
    (ofMagnitude negative (Magnitude.nearest numerator denominator)).rank? =
      some (signed negative (min (nearestUnits numerator denominator) unitsLimit)) := by
  unfold Magnitude.nearest
  split
  · rename_i bounded
    rw [Nat.min_eq_left (Nat.le_of_lt bounded)]
    rfl
  · rename_i large
    rw [Nat.min_eq_right (Nat.not_lt.mp large)]
    rfl

theorem isFinite_ofMagnitude (negative : Bool) {numerator denominator : Nat}
    (bounded : nearestUnits numerator denominator < unitsLimit) :
    (ofMagnitude negative (Magnitude.nearest numerator denominator)).isFinite = true := by
  rw [Magnitude.nearest, dif_pos bounded]
  rfl

theorem rank?_ofInt (value : Int) : (ofInt value).rank? = some (integerRank value) :=
  rank?_ofMagnitude _ _ _

end Double

namespace IntegerText

theorem natAbs_value (text : IntegerText) : text.value.natAbs = digitsValue text.digits := by
  unfold value
  split <;> omega

/-- Only zero can have a sign that its value does not show. -/
theorem negative_or_zero (text : IntegerText) :
    text.sign.negative = decide (text.value < 0) ∨ text.value = 0 := by
  unfold value
  cases text.sign.negative with
  | true =>
      rw [if_pos rfl, eq_comm, decide_eq_true_iff]
      omega
  | false =>
      left
      symm
      apply decide_eq_false
      rw [if_neg Bool.false_ne_true]
      omega

theorem decimal_eq (text : IntegerText) :
    (Numeral.integer text).decimal = ⟨text.sign.negative, text.value.natAbs, 0⟩ := by
  rw [Numeral.integer_decimal, natAbs_value]

theorem absolute_eq (text : IntegerText) : (Numeral.integer text).absolute = text.value.natAbs := by
  rw [Numeral.absolute_eq, decimal_eq, zpow_zero, mul_one]

def double (text : IntegerText) : Double := Double.ofDecimal (Numeral.integer text).decimal

theorem double_eq (text : IntegerText) :
    text.double = Double.ofMagnitude text.sign.negative
      (Magnitude.nearest (text.value.natAbs * unitsPerOne) 1) := by
  have exponent : (0 : Int) = Int.ofNat 0 := rfl
  rw [double, decimal_eq, Double.ofDecimal, exponent, Magnitude.ofDecimal_ofNat, Nat.pow_zero,
    Nat.mul_one]

/-- A minus sign before zero is not seen. -/
theorem rank?_double (text : IntegerText) : text.double.rank? = some (integerRank text.value) := by
  rw [double_eq, Double.rank?_ofMagnitude]
  rcases text.negative_or_zero with sign | zero
  · rw [sign]
    rfl
  · have nothing : nearestUnits (0 * unitsPerOne) 1 = 0 := by
      rw [Nat.zero_mul]
      exact nearestUnits_eq_zero 0 1 (by decide)
    rw [zero, integerRank, integerUnits, Int.natAbs_zero, nothing, Nat.zero_min]
    cases text.sign.negative <;> rfl

theorem readFinite_chars (text : IntegerText) (bounded : text.double.isFinite = true) :
    Double.readFinite text.chars = some text.double := by
  rw [← Numeral.integer_chars, Double.readFinite_numeral]
  exact if_pos bounded

theorem isFinite_of_small (text : IntegerText) (small : text.value.natAbs ≤ 2 ^ 53) :
    text.double.isFinite = true := by
  rw [double_eq]
  apply Double.isFinite_ofMagnitude
  rw [← integerUnits, integerUnits_of_small small]
  exact units_lt_unitsLimit small (by decide)

end IntegerText

namespace Operator

/-- The comparison of numbers that an operator stands for. -/
def relates : Operator → Int → Int → Bool
  | equal, left, right => left = right
  | less, left, right => left < right
  | greater, left, right => right < left
  | lessEqual, left, right => left ≤ right
  | greaterEqual, left, right => right ≤ left

theorem compare_of_rank {left right : Double} {x y : Int} (operator : Operator)
    (place : left.rank? = some x) (place' : right.rank? = some y) :
    operator.compare left right = operator.relates x y := by
  cases operator <;>
    simp only [compare, relates, Double.equal, Double.less, Double.lessEqual, Double.related, place,
      place', beq_eq_decide]

theorem relates_integerRank {left right : Int} (small : left.natAbs ≤ 2 ^ 53)
    (small' : right.natAbs ≤ 2 ^ 53) (operator : Operator) :
    operator.relates (integerRank left) (integerRank right) = operator.relates left right := by
  have below : integerRank left ≤ integerRank right ↔ left ≤ right :=
    integerRank_le_iff (by omega)
  have above : integerRank right ≤ integerRank left ↔ right ≤ left :=
    integerRank_le_iff (by omega)
  cases operator <;>
    simp only [Operator.relates, decide_eq_decide] <;>
    omega

end Operator

end AdTargeting
