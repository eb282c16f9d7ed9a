import AdTargeting.Double.Shortest
import Mathlib.Data.List.Induction

set_option autoImplicit false

/-
Digits written from a number give the number back.
-/

namespace AdTargeting

theorem isDigit_digitChar (digit : Nat) (small : digit < 10) :
    (digitChar digit).isDigit = true := by
  have all : ∀ value : Fin 10, (digitChar value).isDigit = true := by decide
  exact all ⟨digit, small⟩

theorem digitValue_digitChar (digit : Nat) (small : digit < 10) :
    digitValue (digitChar digit) = digit := by
  have all : ∀ value : Fin 10, digitValue (digitChar value) = value := by decide
  exact all ⟨digit, small⟩

theorem digitsValue_concat (digits : List Char) (digit : Char) :
    digitsValue (digits ++ [digit]) = 10 * digitsValue digits + digitValue digit := by
  simp only [digitsValue, List.foldl_append, List.foldl_cons, List.foldl_nil]

theorem digitsValue_append (left right : List Char) :
    digitsValue (left ++ right) = digitsValue left * 10 ^ right.length + digitsValue right := by
  induction right using List.reverseRecOn with
  | nil => simp [digitsValue]
  | append_singleton right digit ih =>
      rw [← List.append_assoc, digitsValue_concat, ih, digitsValue_concat, List.length_append,
        List.length_singleton, Nat.pow_succ, ← Nat.mul_assoc]
      omega

theorem digitsValue_digitsOf (value : Nat) : digitsValue (digitsOf value) = value := by
  induction value using Nat.strongRecOn with
  | ind value ih =>
      rw [digitsOf]
      split
      · rename_i small
        simp [digitsValue, digitValue_digitChar value small]
      · rw [digitsValue_concat, ih (value / 10) (by omega),
          digitValue_digitChar _ (Nat.mod_lt _ (by decide))]
        omega

theorem digitsValue_fixedDigits (width value : Nat) :
    digitsValue (fixedDigits width value) = value % 10 ^ width := by
  induction width generalizing value with
  | zero => simp [fixedDigits, digitsValue, Nat.mod_one]
  | succ width ih =>
      rw [fixedDigits, digitsValue_concat, ih,
        digitValue_digitChar _ (Nat.mod_lt _ (by decide)), Nat.pow_succ, Nat.mul_comm (10 ^ width),
        Nat.mod_mul]
      omega

theorem isDigit_of_mem_digitsOf (value : Nat) (c : Char) (member : c ∈ digitsOf value) :
    c.isDigit = true := by
  induction value using Nat.strongRecOn with
  | ind value ih =>
      rw [digitsOf] at member
      split at member
      · rename_i small
        rw [List.mem_singleton.mp member]
        exact isDigit_digitChar value small
      · rcases List.mem_append.mp member with earlier | last
        · exact ih (value / 10) (by omega) earlier
        · rw [List.mem_singleton.mp last]
          exact isDigit_digitChar _ (Nat.mod_lt _ (by decide))

theorem isDigit_of_mem_fixedDigits (width value : Nat) (c : Char)
    (member : c ∈ fixedDigits width value) : c.isDigit = true := by
  induction width generalizing value with
  | zero => cases member
  | succ width ih =>
      rcases List.mem_append.mp member with earlier | last
      · exact ih (value / 10) earlier
      · rw [List.mem_singleton.mp last]
        exact isDigit_digitChar _ (Nat.mod_lt _ (by decide))

/-- Dropping trailing zeros moves them from the coefficient into the places. -/
theorem dropTrailingZeros_spec (coefficient places : Nat) :
    ∃ zeros, (dropTrailingZeros coefficient places).2 + zeros = places ∧
      (dropTrailingZeros coefficient places).1 * 10 ^ zeros = coefficient := by
  induction places generalizing coefficient with
  | zero => exact ⟨0, rfl, Nat.mul_one _⟩
  | succ places ih =>
      simp only [dropTrailingZeros]
      split
      · rename_i last
        obtain ⟨zeros, count, value⟩ := ih (coefficient / 10)
        refine ⟨zeros + 1, by omega, ?_⟩
        rw [Nat.pow_succ, ← Nat.mul_assoc, value]
        omega
      · exact ⟨0, rfl, Nat.mul_one _⟩

end AdTargeting
