import AdTargeting.Double.Basic
import AdTargeting.Proofs.Decimal.Grammar
import AdTargeting.Proofs.Double.Rounding

set_option autoImplicit false

/-
The text of a finite double is a numeral that reads back as the same double, the sign of zero
included.
-/

namespace AdTargeting

namespace Decimal

theorem signText_eq_chars (negative : Bool) :
    Double.signText negative = (Sign.ofNegative negative).chars := by
  cases negative <;> rfl

theorem read_whole (negative : Bool) (whole : List Char) (some_digit : whole ≠ [])
    (digits : ∀ c ∈ whole, c.isDigit = true) :
    read (Double.signText negative ++ whole) =
      some ⟨negative, digitsValue whole, (0 : Nat) - (0 : Nat)⟩ := by
  have reading := read_chars (Numeral.integer
    ⟨Sign.ofNegative negative, whole, some_digit, digits⟩)
  rw [Numeral.integer_chars, Numeral.integer_decimal, IntegerText.chars,
    Sign.negative_ofNegative, ← signText_eq_chars] at reading
  exact reading

/-- With a point, the digits after it count as negative powers. -/
theorem read_fraction (negative : Bool) (whole fraction : List Char) (some_digit : whole ≠ [])
    (digits : ∀ c ∈ whole, c.isDigit = true) (places : ∀ c ∈ fraction, c.isDigit = true) :
    read (Double.signText negative ++ (whole ++ '.' :: fraction)) =
      some ⟨negative, digitsValue (whole ++ fraction), (0 : Nat) - fraction.length⟩ := by
  have reading := read_chars ⟨Sign.ofNegative negative, whole, some fraction, none, digits, places,
    List.append_ne_nil_of_left_ne_nil some_digit _⟩
  simp only [Numeral.chars, pointChars, powerChars, exponentOf, Option.elim_some,
    Option.elim_none, List.append_nil, Numeral.decimal, Numeral.places, Numeral.exponent,
    Option.getD_some, Sign.negative_ofNegative, ← signText_eq_chars] at reading
  exact reading

/-- Positional text keeps the value of the decimal it was made from. -/
theorem read_positional (negative : Bool) (coefficient : Nat) (exponent : Int) :
    ∃ value, read (Double.signText negative ++ positional coefficient exponent) = some value ∧
      value.negative = negative ∧
      Magnitude.ofDecimal value.coefficient value.exponent =
        Magnitude.ofDecimal coefficient exponent := by
  cases exponent with
  | ofNat power =>
      rw [positional]
      refine ⟨_, read_whole negative _ (digitsOf_ne_nil _) (isDigit_of_mem_digitsOf _), rfl, ?_⟩
      rw [digitsValue_digitsOf, Magnitude.ofDecimal_sub, Magnitude.ofDecimal_ofNat, Nat.pow_zero,
        Nat.mul_one]
  | negSucc power =>
      obtain ⟨zeros, count, product⟩ := dropTrailingZeros_spec coefficient (power + 1)
      have shift : Int.negSucc power = ((0 : Nat) : Int) - (power + 1 : Nat) := by
        rw [Int.negSucc_eq]
        omega
      rw [shift, ← count, ← product, Magnitude.ofDecimal_mul_pow, product]
      simp only [← shift, count, positional]
      split
      · rename_i whole dropped
        rw [dropped]
        refine ⟨_, read_whole negative _ (digitsOf_ne_nil _) (isDigit_of_mem_digitsOf _), rfl, ?_⟩
        rw [digitsValue_digitsOf]
      · rename_i shifted places _ dropped
        rw [dropped]
        refine ⟨_, read_fraction negative _ _ (digitsOf_ne_nil _) (isDigit_of_mem_digitsOf _)
          (isDigit_of_mem_fixedDigits _ _), rfl, ?_⟩
        rw [fixedDigits_length, digitsValue_append, digitsValue_digitsOf, digitsValue_fixedDigits,
          fixedDigits_length, Nat.mod_mod, Nat.mul_comm, Nat.div_add_mod]

theorem mem_positional {coefficient : Nat} {exponent : Int} {c : Char}
    (member : c ∈ positional coefficient exponent) : c.isDigit = true ∨ c = '.' := by
  cases exponent with
  | ofNat power => exact Or.inl (isDigit_of_mem_digitsOf _ c member)
  | negSucc power =>
      simp only [positional] at member
      split at member
      · exact Or.inl (isDigit_of_mem_digitsOf _ c member)
      · rcases List.mem_append.mp member with whole | later
        · exact Or.inl (isDigit_of_mem_digitsOf _ c whole)
        · rcases List.mem_cons.mp later with point | fraction
          · exact Or.inr point
          · exact Or.inl (isDigit_of_mem_fixedDigits _ _ c fraction)

theorem positional_ne_nil (coefficient : Nat) (exponent : Int) :
    positional coefficient exponent ≠ [] := by
  cases exponent with
  | ofNat power => exact digitsOf_ne_nil _
  | negSucc power =>
      simp only [positional]
      split
      · exact digitsOf_ne_nil _
      · exact List.append_ne_nil_of_right_ne_nil _ (List.cons_ne_nil _ _)

end Decimal

namespace Double

theorem readFinite_numeral (numeral : Numeral) :
    readFinite numeral.chars =
      if (ofDecimal numeral.decimal).isFinite then some (ofDecimal numeral.decimal) else none := by
  simp only [readFinite, Decimal.read_chars]

/-- Only numerals are read, and only when they are not too large. -/
theorem exists_numeral_of_readFinite {text : List Char} {value : Double}
    (reading : readFinite text = some value) :
    ∃ numeral : Numeral, numeral.chars = text ∧ ofDecimal numeral.decimal = value ∧
      value.isFinite = true := by
  simp only [readFinite] at reading
  split at reading
  · cases reading
  · rename_i decimal found
    obtain ⟨numeral, rfl, rfl⟩ := Decimal.exists_numeral found
    split at reading
    · rename_i bounded
      cases reading
      exact ⟨numeral, rfl, rfl, bounded⟩
    · cases reading

theorem readFinite_chars (negative : Bool) (magnitude : Magnitude) :
    readFinite (finite negative magnitude).chars = some (finite negative magnitude) := by
  obtain ⟨value, reading, sign, same⟩ :=
    Decimal.read_positional negative magnitude.shortest.1 magnitude.shortest.2
  rw [magnitude.ofDecimal_shortest] at same
  have text : Decimal.read (finite negative magnitude).chars = some value := reading
  simp only [readFinite, text, ofDecimal, sign, same, ofMagnitude, isFinite, ↓reduceIte]

theorem mem_chars {negative : Bool} {magnitude : Magnitude} {c : Char}
    (member : c ∈ (finite negative magnitude).chars) :
    c.isDigit = true ∨ c = '.' ∨ (c = '-' ∧ negative = true) := by
  rcases List.mem_append.mp member with sign | digits
  · cases negative with
    | false => cases sign
    | true => exact Or.inr (Or.inr ⟨List.mem_singleton.mp sign, rfl⟩)
  · rcases Decimal.mem_positional digits with digit | point
    · exact Or.inl digit
    · exact Or.inr (Or.inl point)

theorem chars_ne_nil (negative : Bool) (magnitude : Magnitude) :
    (finite negative magnitude).chars ≠ [] :=
  List.append_ne_nil_of_right_ne_nil _ (Decimal.positional_ne_nil _ _)

theorem mem_of_readFinite {text : List Char} {value : Double} {c : Char}
    (found : readFinite text = some value) (member : c ∈ text) :
    c.isDigit = true ∨ c ∈ Decimal.marks := by
  obtain ⟨numeral, rfl, -⟩ := exists_numeral_of_readFinite found
  exact numeral.mem_chars member

/-- Only finite doubles are read, and only a hyphen makes them negative. -/
theorem finite_of_readFinite {text : List Char} {value : Double}
    (reading : readFinite text = some value) :
    ∃ negative magnitude, value = finite negative magnitude ∧ ('-' ∉ text → negative = false) := by
  obtain ⟨numeral, rfl, rfl, bounded⟩ := exists_numeral_of_readFinite reading
  unfold ofDecimal at bounded ⊢
  cases rounded : Magnitude.ofDecimal numeral.decimal.coefficient numeral.decimal.exponent with
  | none =>
      rw [rounded] at bounded
      cases bounded
  | some magnitude =>
      refine ⟨numeral.sign.negative, magnitude, rfl, fun absent => ?_⟩
      apply numeral.sign.negative_of_not_mem
      intro minus
      exact absent (List.mem_append_left _ minus)

end Double

end AdTargeting
