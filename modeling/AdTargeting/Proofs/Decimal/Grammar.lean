import AdTargeting.Decimal.Numeral
import AdTargeting.Proofs.Decimal.Digits
import AdTargeting.Proofs.Text.Parts
import Mathlib.Algebra.Order.Field.Basic
import Mathlib.Data.Rat.Cast.Order
import Mathlib.Tactic.FieldSimp
import Mathlib.Tactic.Ring

set_option autoImplicit false

/-
The grammar of numerals and the exact value of each. What is read is what the grammar generates.
-/

namespace AdTargeting

/-- The characters of numerals that are no digits. -/
def Decimal.marks : List Char := ['+', '-', '.', 'e', 'E']

/-- How a numeral or an exponent may begin. -/
inductive Sign where
  | absent
  | plus
  | minus

namespace Sign

def chars : Sign → List Char
  | absent => []
  | plus => ['+']
  | minus => ['-']

def negative : Sign → Bool
  | minus => true
  | _ => false

/-- The sign that is written only where it is needed. -/
def ofNegative (negative : Bool) : Sign := if negative then minus else absent

@[simp]
theorem negative_ofNegative (negative : Bool) : (ofNegative negative).negative = negative := by
  cases negative <;> rfl

theorem negative_of_not_mem (sign : Sign) (unsigned : '-' ∉ sign.chars) :
    sign.negative = false := by
  cases sign with
  | minus => exact absurd List.mem_cons_self unsigned
  | _ => rfl

end Sign

/-- An integer as it may be written: leading zeros are allowed. -/
structure IntegerText where
  sign : Sign
  digits : List Char
  written : digits ≠ []
  all_digits : ∀ c ∈ digits, c.isDigit = true

namespace IntegerText

def chars (text : IntegerText) : List Char := text.sign.chars ++ text.digits

def value (text : IntegerText) : Int :=
  if text.sign.negative then -digitsValue text.digits else digitsValue text.digits

end IntegerText

/-- The power of ten that a numeral may end with. -/
structure Power where
  mark : Char
  exponent : IntegerText
  marked : mark = 'e' ∨ mark = 'E'

def Power.chars (power : Power) : List Char := power.mark :: power.exponent.chars

/-- A sign, digits with at most one point before, among or behind them, and a power. There is at
least one digit. -/
structure Numeral where
  sign : Sign
  whole : List Char
  fraction : Option (List Char)
  power : Option Power
  whole_digits : ∀ c ∈ whole, c.isDigit = true
  fraction_digits : ∀ c ∈ fraction.getD [], c.isDigit = true
  written : whole ++ fraction.getD [] ≠ []

def pointChars (fraction : Option (List Char)) : List Char := fraction.elim [] ('.' :: ·)

def powerChars (power : Option Power) : List Char := power.elim [] Power.chars

def exponentOf (power : Option Power) : Int := power.elim 0 fun power => power.exponent.value

namespace Numeral

/-- The digits behind the point, none where there is no point. -/
def places (numeral : Numeral) : List Char := numeral.fraction.getD []

def exponent (numeral : Numeral) : Int := exponentOf numeral.power

def chars (numeral : Numeral) : List Char :=
  numeral.sign.chars ++
    (numeral.whole ++ (pointChars numeral.fraction ++ powerChars numeral.power))

/-- The exact value without its sign. -/
def absolute (numeral : Numeral) : ℚ :=
  (digitsValue numeral.whole + digitsValue numeral.places / 10 ^ numeral.places.length) *
    10 ^ numeral.exponent

def decimal (numeral : Numeral) : Decimal where
  negative := numeral.sign.negative
  coefficient := digitsValue (numeral.whole ++ numeral.places)
  exponent := numeral.exponent - numeral.places.length

def integer (text : IntegerText) : Numeral where
  sign := text.sign
  whole := text.digits
  fraction := none
  power := none
  whole_digits := text.all_digits
  fraction_digits := nofun
  written := List.append_ne_nil_of_left_ne_nil text.written _

theorem integer_chars (text : IntegerText) : (integer text).chars = text.chars := by
  simp only [integer, chars, pointChars, powerChars, Option.elim_none, List.append_nil,
    IntegerText.chars]

theorem integer_decimal (text : IntegerText) :
    (integer text).decimal = ⟨text.sign.negative, digitsValue text.digits, 0⟩ := by
  simp only [integer, decimal, places, exponent, exponentOf, Option.getD_none, Option.elim_none,
    List.append_nil, List.length_nil]
  rfl

/-- Digits behind the point are a coefficient with a smaller exponent. -/
theorem absolute_eq (numeral : Numeral) :
    numeral.absolute = numeral.decimal.coefficient * 10 ^ numeral.decimal.exponent := by
  have ten : (10 : ℚ) ≠ 0 := by norm_num
  rw [decimal, absolute, digitsValue_append, zpow_sub₀ ten, zpow_natCast]
  push_cast
  field_simp

section Characters

variable {c : Char}

theorem mem_signChars {sign : Sign} (member : c ∈ sign.chars) : c ∈ Decimal.marks := by
  cases sign with
  | absent => cases member
  | plus => exact List.mem_singleton.mp member ▸ by decide
  | minus => exact List.mem_singleton.mp member ▸ by decide

theorem mem_powerChars {power : Option Power} (member : c ∈ powerChars power) :
    c.isDigit = true ∨ c ∈ Decimal.marks := by
  cases power with
  | none => cases member
  | some power =>
      rcases List.mem_cons.mp member with rfl | later
      · rcases power.marked with small | capital
        · exact Or.inr (by rw [small]; decide)
        · exact Or.inr (by rw [capital]; decide)
      · rcases List.mem_append.mp later with sign | digit
        · exact Or.inr (mem_signChars sign)
        · exact Or.inl (power.exponent.all_digits c digit)

theorem mem_pointChars {fraction : Option (List Char)} (member : c ∈ pointChars fraction) :
    c ∈ fraction.getD [] ∨ c ∈ Decimal.marks := by
  cases fraction with
  | none => cases member
  | some places =>
      rcases List.mem_cons.mp member with rfl | digit
      · exact Or.inr (by decide)
      · exact Or.inl digit

theorem mem_chars (numeral : Numeral) (member : c ∈ numeral.chars) :
    c.isDigit = true ∨ c ∈ Decimal.marks := by
  rcases List.mem_append.mp member with sign | unsigned
  · exact Or.inr (mem_signChars sign)
  · rcases List.mem_append.mp unsigned with whole | later
    · exact Or.inl (numeral.whole_digits c whole)
    · rcases List.mem_append.mp later with fraction | power
      · exact (mem_pointChars fraction).imp_left (numeral.fraction_digits c)
      · exact mem_powerChars power

end Characters

end Numeral

namespace Decimal

section Signs

variable {rest : List Char}

theorem takeSign_chars (sign : Sign)
    (plain : ∀ c, rest.head? = some c → c ≠ '+' ∧ c ≠ '-') :
    takeSign (sign.chars ++ rest) = (sign.negative, rest) := by
  cases sign with
  | plus => rfl
  | minus => rfl
  | absent =>
      simp only [Sign.chars, List.nil_append]
      unfold takeSign
      split
      · exact absurd rfl (plain _ rfl).2
      · exact absurd rfl (plain _ rfl).1
      · rfl

theorem exists_sign (text : List Char) :
    ∃ sign : Sign, sign.chars ++ (takeSign text).2 = text ∧
      sign.negative = (takeSign text).1 := by
  unfold takeSign
  split
  · exact ⟨.minus, rfl, rfl⟩
  · exact ⟨.plus, rfl, rfl⟩
  · exact ⟨.absent, rfl, rfl⟩

theorem plain_of_isDigit {c : Char} (digit : c.isDigit = true) : c ≠ '+' ∧ c ≠ '-' := by
  constructor
  · rintro rfl
    cases digit
  · rintro rfl
    cases digit

end Signs

section Fractions

theorem takeFraction_pointChars {rest : List Char} (fraction : Option (List Char))
    (digits : ∀ c ∈ fraction.getD [], c.isDigit = true)
    (ended : ∀ c, rest.head? = some c → c ≠ '.' ∧ c.isDigit = false) :
    takeFraction (pointChars fraction ++ rest) = (fraction.getD [], rest) := by
  cases fraction with
  | none =>
      simp only [pointChars, Option.elim_none, List.nil_append, Option.getD_none]
      unfold takeFraction
      split
      · exact absurd rfl (ended _ rfl).1
      · rfl
  | some places =>
      have boundary (c : Char) (first : rest.head? = some c) := (ended c first).2
      rw [Option.getD_some] at digits ⊢
      simp only [pointChars, Option.elim_some, List.cons_append, takeFraction,
        takeWhile_run digits boundary, dropWhile_run digits boundary]

theorem exists_fraction (text : List Char) :
    ∃ fraction : Option (List Char), pointChars fraction ++ (takeFraction text).2 = text ∧
      fraction.getD [] = (takeFraction text).1 ∧
      ∀ c ∈ fraction.getD [], c.isDigit = true := by
  unfold takeFraction
  split
  · rename_i rest
    refine ⟨some (rest.takeWhile Char.isDigit), ?_, rfl, fun c => mem_takeWhile_run⟩
    simp only [pointChars, Option.elim_some, List.cons_append, List.takeWhile_append_dropWhile]
  · exact ⟨none, rfl, rfl, nofun⟩

end Fractions

section Exponents

theorem readExponent_powerChars (power : Option Power) :
    readExponent (powerChars power) = some (exponentOf power) := by
  cases power with
  | none => rfl
  | some power =>
      obtain ⟨mark, ⟨sign, digits, written, all_digits⟩, marked⟩ := power
      have signed := takeSign_chars sign fun c first =>
        plain_of_isDigit (all_digits c (List.mem_of_head? first))
      have accepted : (mark = 'e' ∨ mark = 'E') ∧ digits ≠ [] ∧
          digits.all Char.isDigit = true :=
        ⟨marked, written, List.all_eq_true.mpr all_digits⟩
      simp only [powerChars, exponentOf, Option.elim_some, Power.chars, IntegerText.chars,
        readExponent, signed, IntegerText.value]
      rw [if_pos accepted]

theorem exists_power {text : List Char} {exponent : Int}
    (reading : readExponent text = some exponent) :
    ∃ power : Option Power, powerChars power = text ∧ exponentOf power = exponent := by
  cases text with
  | nil =>
      cases reading
      exact ⟨none, rfl, rfl⟩
  | cons mark rest =>
      obtain ⟨sign, whole, negative⟩ := exists_sign rest
      simp only [readExponent] at reading
      split at reading
      · rename_i accepted
        obtain ⟨marked, written, digits⟩ := accepted
        cases reading
        refine ⟨some ⟨mark, ⟨sign, (takeSign rest).2, written, List.all_eq_true.mp digits⟩, marked⟩,
          ?_, ?_⟩
        · simp only [powerChars, Option.elim_some, Power.chars, IntegerText.chars, whole]
        · simp only [exponentOf, Option.elim_some, IntegerText.value, negative]
      · cases reading

/-- A power neither continues the digits before it nor begins with a point. -/
theorem head?_powerChars {power : Option Power} {c : Char}
    (first : (powerChars power).head? = some c) : c = 'e' ∨ c = 'E' := by
  cases power with
  | none => cases first
  | some power =>
      cases first
      exact power.marked

end Exponents

/-- A numeral is read as its value. -/
theorem read_chars (numeral : Numeral) : read numeral.chars = some numeral.decimal := by
  have ended (c : Char) (first : (powerChars numeral.power).head? = some c) :
      c ≠ '.' ∧ c.isDigit = false := by
    rcases head?_powerChars first with rfl | rfl <;> decide
  have behind (c : Char)
      (first : (pointChars numeral.fraction ++ powerChars numeral.power).head? = some c) :
      c.isDigit = false := by
    cases point : numeral.fraction with
    | none =>
        rw [point] at first
        exact (ended c first).2
    | some places =>
        rw [point] at first
        cases first
        rfl
  have sign : takeSign numeral.chars = (numeral.sign.negative,
      numeral.whole ++ (pointChars numeral.fraction ++ powerChars numeral.power)) := by
    apply takeSign_chars
    intro c first
    cases digits : numeral.whole with
    | cons digit rest =>
        rw [digits] at first
        cases first
        exact plain_of_isDigit (numeral.whole_digits _ (by simp [digits]))
    | nil =>
        have written := numeral.written
        rw [digits] at first written
        cases point : numeral.fraction with
        | none => simp [point] at written
        | some places =>
            rw [point] at first
            cases first
            decide
  simp only [read, sign, takeWhile_run numeral.whole_digits behind,
    dropWhile_run numeral.whole_digits behind,
    takeFraction_pointChars numeral.fraction numeral.fraction_digits ended, numeral.written,
    ↓reduceIte, readExponent_powerChars, Option.map_some]
  rfl

/-- Only numerals are read. -/
theorem exists_numeral {text : List Char} {value : Decimal} (reading : read text = some value) :
    ∃ numeral : Numeral, numeral.chars = text ∧ numeral.decimal = value := by
  obtain ⟨sign, signed, negative⟩ := exists_sign text
  have digits := List.takeWhile_append_dropWhile (p := Char.isDigit) (l := (takeSign text).2)
  obtain ⟨fraction, pointed, places, fraction_digits⟩ :=
    exists_fraction ((takeSign text).2.dropWhile Char.isDigit)
  simp only [read] at reading
  split at reading
  · cases reading
  · rename_i written
    obtain ⟨exponent, tail, rfl⟩ := Option.map_eq_some_iff.mp reading
    obtain ⟨power, powered, rfl⟩ := exists_power tail
    rw [← places] at written ⊢
    refine ⟨⟨sign, (takeSign text).2.takeWhile Char.isDigit, fraction, power,
      fun c => mem_takeWhile_run, fraction_digits, written⟩, ?_, ?_⟩
    · simp only [Numeral.chars, powered, pointed, digits, signed]
    · simp only [Numeral.decimal, negative, Numeral.places, Numeral.exponent]

end Decimal

end AdTargeting
