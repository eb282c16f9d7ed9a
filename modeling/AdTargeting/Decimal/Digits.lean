set_option autoImplicit false

/-
Digits of natural numbers, most significant first.
-/

-- Powers are those of the core library, whatever other instances a larger library brings along.
attribute [instance (high + 1), default_instance (high + 1)] instPowNat

namespace AdTargeting

def digitChar (digit : Nat) : Char := Char.ofNat (48 + digit)

def digitValue (digit : Char) : Nat := digit.toNat - 48

/-- The number a row of digits stands for, leading zeros allowed. -/
def digitsValue (digits : List Char) : Nat :=
  digits.foldl (fun value digit => 10 * value + digitValue digit) 0

/-- The digits of a number without leading zeros. -/
def digitsOf (value : Nat) : List Char :=
  if value < 10 then [digitChar value]
  else digitsOf (value / 10) ++ [digitChar (value % 10)]

/-- The last `width` digits of a number, with leading zeros. -/
def fixedDigits : Nat → Nat → List Char
  | 0, _ => []
  | width + 1, value => fixedDigits width (value / 10) ++ [digitChar (value % 10)]

/-- The value of a hexadecimal digit of either case. -/
def hexDigit? (c : Char) : Option Nat :=
  if c.isDigit then some (c.toNat - 48)
  else if 'a' ≤ c ∧ c ≤ 'f' then some (c.toNat - 87)
  else if 'A' ≤ c ∧ c ≤ 'F' then some (c.toNat - 55)
  else none

theorem fixedDigits_length (width value : Nat) : (fixedDigits width value).length = width := by
  induction width generalizing value with
  | zero => rfl
  | succ width ih => simp only [fixedDigits, List.length_append, ih, List.length_singleton]

theorem digitsOf_ne_nil (value : Nat) : digitsOf value ≠ [] := by
  rw [digitsOf]
  split
  · exact List.cons_ne_nil _ _
  · exact List.append_ne_nil_of_right_ne_nil _ (List.cons_ne_nil _ _)

end AdTargeting
