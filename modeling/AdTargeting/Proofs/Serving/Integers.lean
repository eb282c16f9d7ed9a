import AdTargeting.Proofs.Condition.Classification
import AdTargeting.Proofs.Double.Integers
import AdTargeting.Proofs.Serving.Single

set_option autoImplicit false

/-
Integers from their storage and from the text of a condition to the verdict. Up to 2^53 they are
compared exactly. Beyond, two of them can become the same double, but never change their order.
-/

namespace AdTargeting

def intervalChars (low high : IntegerText) : List Char :=
  '[' :: low.chars ++ '-' :: high.chars ++ [']']

namespace IntegerText

theorem inLiteral_of_mem {text : IntegerText} {c : Char} (member : c ∈ text.chars) :
    inLiteral c = true ∧ c ≠ '=' := by
  rcases List.mem_append.mp member with sign | digit
  · cases shape : text.sign with
    | absent =>
        rw [shape] at sign
        cases sign
    | plus =>
        rw [shape] at sign
        rw [List.mem_singleton.mp sign]
        decide
    | minus =>
        rw [shape] at sign
        rw [List.mem_singleton.mp sign]
        decide
  · exact Literal.inLiteral_of_numeric c (Or.inl (text.all_digits c digit))

theorem standsAlone (text : IntegerText) : StandsAlone text.chars where
  nonempty := List.append_ne_nil_of_right_ne_nil _ text.written
  inside _ member := (inLiteral_of_mem member).1
  apart first := (inLiteral_of_mem (List.mem_of_head? first)).2 rfl

theorem standsAlone_interval (low high : IntegerText) : StandsAlone (intervalChars low high) where
  nonempty := List.cons_ne_nil _ _
  inside c member := by
    simp only [intervalChars, List.cons_append, List.mem_cons, List.mem_append,
      List.not_mem_nil, or_false] at member
    rcases member with rfl | (inLow | rfl | inHigh) | rfl
    · decide
    · exact (inLiteral_of_mem inLow).1
    · decide
    · exact (inLiteral_of_mem inHigh).1
    · decide
  apart first := by cases first

theorem value_nonneg {text : IntegerText} (unsigned : '-' ∉ text.chars) : 0 ≤ text.value := by
  have sign := text.sign.negative_of_not_mem fun minus => unsigned (List.mem_append_left _ minus)
  rw [value, sign]
  exact Int.natCast_nonneg _

end IntegerText

section Verdicts

variable {options : Options} {attributes : Attributes} {name : String} {stored : Int}

theorem shouldServe_integer (present : attributes.get? name = some (.ofInt stored))
    (letters : ∀ c ∈ name.toList, inName c = true) {text : IntegerText}
    (bounded : text.double.isFinite = true) (operator : Operator) :
    (shouldServe options attributes (singleText name operator text.chars)).result =
      .ok (operator.relates (integerRank stored) (integerRank text.value)) := by
  apply shouldServe_singleText present letters text.standsAlone
    (Literal.classify_of_readFinite (text.readFinite_chars bounded))
  intro place
  have compared := operator.compare_of_rank (Double.rank?_ofInt stored) text.rank?_double
  rw [← compared]
  rfl

/-- An interval between integers compares the place of the stored one with both. -/
theorem shouldServe_integerInterval (present : attributes.get? name = some (.ofInt stored))
    (letters : ∀ c ∈ name.toList, inName c = true) (enabled : options.numericIntervals = true)
    {low high : IntegerText} (low_plain : '-' ∉ low.chars) (high_plain : '-' ∉ high.chars)
    (low_bounded : low.double.isFinite = true) (high_bounded : high.double.isFinite = true) :
    (shouldServe options attributes
      (singleText name .equal (intervalChars low high))).result =
      .ok (decide (integerRank low.value ≤ integerRank stored) &&
        decide (integerRank stored ≤ integerRank high.value)) := by
  apply shouldServe_singleText present letters (IntegerText.standsAlone_interval low high)
    (Literal.classify_bounds enabled (low.readFinite_chars low_bounded) low_plain
      (high.readFinite_chars high_bounded) high_plain)
  intro place
  have lower := Operator.lessEqual.compare_of_rank low.rank?_double (Double.rank?_ofInt stored)
  have upper := Operator.lessEqual.compare_of_rank (Double.rank?_ofInt stored) high.rank?_double
  simp only [Operator.compare, Operator.relates] at lower upper
  rw [← lower, ← upper]
  rfl

end Verdicts

/-- Integers up to 2^53 are compared as integers. So they are with the bounds of an interval, unless
the stored one lies beyond 2^53 and the upper bound is 2^53 itself: what is stored is rounded to a
double, and 2^53 + 1 is stored as 2^53, which that bound does not exclude. Larger integers are never
found to be in the wrong order, as long as the double nearest to the one in the condition is
finite. -/
theorem shouldServe_integers {options : Options} {attributes : Attributes} {name : String}
    {stored : Int} (present : attributes.get? name = some (.ofInt stored))
    (letters : ∀ c ∈ name.toList, inName c = true) :
    (∀ (text : IntegerText) (operator : Operator),
      stored.natAbs ≤ 2 ^ 53 → text.value.natAbs ≤ 2 ^ 53 →
        (shouldServe options attributes (singleText name operator text.chars)).result =
          .ok (operator.relates stored text.value)) ∧
    (∀ low high : IntegerText, options.numericIntervals = true →
      '-' ∉ low.chars → '-' ∉ high.chars → low.value ≤ 2 ^ 53 → high.value ≤ 2 ^ 53 →
        stored ≤ 2 ^ 53 ∨ high.value < 2 ^ 53 →
          (shouldServe options attributes
            (singleText name .equal (intervalChars low high))).result =
            .ok (decide (low.value ≤ stored ∧ stored ≤ high.value))) ∧
    ∀ (text : IntegerText) (double : Double),
      Double.Nearest text.sign.negative text.value.natAbs double → double.isFinite = true →
        ∃ serves : Operator → Bool,
          (∀ operator, (shouldServe options attributes
            (singleText name operator text.chars)).result = .ok (serves operator)) ∧
          (stored ≤ text.value → serves .lessEqual = true) ∧
          (text.value ≤ stored → serves .greaterEqual = true) ∧
          (stored = text.value → serves .equal = true) ∧
          (serves .less = true → stored < text.value) ∧
          (serves .greater = true → text.value < stored) := by
  refine ⟨?_, ?_, ?_⟩
  · intro text operator small small'
    rw [shouldServe_integer present letters (text.isFinite_of_small small'),
      operator.relates_integerRank small small']
  · intro low high enabled low_plain high_plain low_small high_small reached
    have low_bound := IntegerText.value_nonneg low_plain
    have high_bound := IntegerText.value_nonneg high_plain
    rw [shouldServe_integerInterval present letters enabled low_plain high_plain
      (low.isFinite_of_small (by omega)) (high.isFinite_of_small (by omega)), Bool.decide_and]
    have lower : integerRank low.value ≤ integerRank stored ↔ low.value ≤ stored :=
      integerRank_le_iff (by omega)
    have upper : integerRank stored ≤ integerRank high.value ↔ stored ≤ high.value :=
      integerRank_le_iff (by omega)
    rw [decide_eq_decide.mpr lower, decide_eq_decide.mpr upper]
  · intro text double nearest finite
    have bounded : text.double.isFinite = true := by
      have near := Double.nearest_numeral (Numeral.integer text)
      rw [text.absolute_eq] at near
      have same := nearest.unique near
      rw [IntegerText.double, ← same]
      exact finite
    refine ⟨fun operator => operator.relates (integerRank stored) (integerRank text.value),
      shouldServe_integer present letters bounded, ?_, ?_, ?_, ?_, ?_⟩
    · intro ordered
      exact decide_eq_true (integerRank_mono ordered)
    · intro ordered
      exact decide_eq_true (integerRank_mono ordered)
    · rintro rfl
      exact decide_eq_true rfl
    · intro below
      exact lt_of_integerRank_lt (of_decide_eq_true below)
    · intro above
      exact lt_of_integerRank_lt (of_decide_eq_true above)

/-- Integers on both sides of 2^53, with signs and leading zeros. -/
theorem shouldServe_integers_boundary :
    ∃ (attributes : Attributes) (zero seven limit next : IntegerText),
      attributes.get? "größe" = some (.ofInt (2 ^ 53)) ∧
      (zero.value, seven.value, limit.value, next.value) = (0, 7, 2 ^ 53, 2 ^ 53 + 1) ∧
      singleText "größe" .greater zero.chars = "größe>-0" ∧
      (shouldServe {} attributes "größe>-0").result = .ok true ∧
      singleText "größe" .equal (intervalChars seven limit) = "größe=[007-9007199254740992]" ∧
      (shouldServe {} attributes "größe=[007-9007199254740992]").result = .ok true ∧
      singleText "größe" .lessEqual next.chars = "größe<=+9007199254740993" ∧
      (shouldServe {} attributes "größe<=+9007199254740993").result = .ok true := by
  -- Digits are tested along the list: deciding a statement about all characters would try each.
  let zero : IntegerText := ⟨.minus, "0".toList, by decide, List.all_eq_true.mp (by decide)⟩
  let seven : IntegerText := ⟨.absent, "007".toList, by decide, List.all_eq_true.mp (by decide)⟩
  let limit : IntegerText :=
    ⟨.absent, "9007199254740992".toList, by decide, List.all_eq_true.mp (by decide)⟩
  let next : IntegerText :=
    ⟨.plus, "9007199254740993".toList, by decide, List.all_eq_true.mp (by decide)⟩
  let attributes : Attributes := NameMap.empty.insert "größe" (.ofInt (2 ^ 53))
  have present : attributes.get? "größe" = some (.ofInt (2 ^ 53)) := by
    rw [NameMap.get?_insert, if_pos rfl]
  have letters : ∀ c ∈ "größe".toList, inName c = true :=
    List.all_eq_true.mp (by decide +kernel)
  have values :
      (zero.value, seven.value, limit.value, next.value) = (0, 7, 2 ^ 53, 2 ^ 53 + 1) := by
    decide +kernel
  have nearest : Double.Nearest next.sign.negative next.value.natAbs next.double := by
    have near := Double.nearest_numeral (Numeral.integer next)
    rw [next.absolute_eq] at near
    exact near
  have finite : next.double.isFinite = true := by decide +kernel
  obtain ⟨compares, encloses, orders⟩ :=
    @shouldServe_integers {} attributes "größe" (2 ^ 53) present letters
  have above := compares zero .greater (by decide +kernel) (by decide +kernel)
  have inside := encloses seven limit rfl (by decide +kernel) (by decide +kernel)
    (by decide +kernel) (by decide +kernel) (Or.inl (by decide))
  obtain ⟨serves, served, below, -⟩ := orders next next.double nearest finite
  have rounded := served .lessEqual
  rw [below (by decide +kernel)] at rounded
  have texts : singleText "größe" .greater zero.chars = "größe>-0" ∧
      singleText "größe" .equal (intervalChars seven limit) = "größe=[007-9007199254740992]" ∧
      singleText "größe" .lessEqual next.chars = "größe<=+9007199254740993" := by
    decide +kernel
  obtain ⟨aboveText, insideText, roundedText⟩ := texts
  rw [aboveText] at above
  rw [insideText] at inside
  rw [roundedText] at rounded
  exact ⟨attributes, zero, seven, limit, next, present, values, aboveText, above, insideText,
    inside, roundedText, rounded⟩

end AdTargeting
