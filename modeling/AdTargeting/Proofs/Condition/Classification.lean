import AdTargeting.Condition.Token
import AdTargeting.Condition.Literal
import AdTargeting.Proofs.Double.Reading

set_option autoImplicit false

/-
Printing a literal and reading it again gives the same literal: no kind's text is taken for an
earlier kind, and numbers are rewritten without a change of value.
-/

namespace AdTargeting

namespace Literal

section Shapes

variable {options : Options} {text bounds : List Char}

theorem eq_of_betweenBrackets (bracketed : betweenBrackets text = some bounds) :
    text = '[' :: bounds ++ [']'] ∧ '-' ∈ bounds := by
  unfold betweenBrackets at bracketed
  split at bracketed
  · rename_i rest
    split at bracketed
    · rename_i shape
      obtain ⟨closed, hyphen⟩ := shape
      obtain ⟨inside, rfl⟩ := List.getLast?_eq_some_iff.mp closed
      rw [List.dropLast_concat] at bracketed
      cases bracketed
      exact ⟨rfl, (List.mem_append.mp hyphen).resolve_right (by decide)⟩
    · cases bracketed
  · cases bracketed

theorem bounds_of_readBounds {literal : Literal} (found : readBounds text = some literal) :
    ∃ low high lower upper, text = low ++ '-' :: high ∧
      (Double.readFinite low = some lower ∧ '-' ∉ low) ∧
      (Double.readFinite high = some upper ∧ '-' ∉ high) ∧ literal = interval lower upper := by
  unfold readBounds at found
  split at found
  · rename_i low high parts
    obtain ⟨lower, low_read, inner⟩ := Option.bind_eq_some_iff.mp found
    obtain ⟨upper, high_read, result⟩ := Option.bind_eq_some_iff.mp inner
    cases result
    have whole : text = low ++ '-' :: high := by
      rw [← joinWith_splitAt '-' text, parts]
      rfl
    have low_part : '-' ∉ low := not_mem_of_mem_splitAt (parts ▸ List.mem_cons_self)
    have high_part : '-' ∉ high :=
      not_mem_of_mem_splitAt (parts ▸ List.mem_cons_of_mem _ List.mem_cons_self)
    exact ⟨low, high, lower, upper, whole, ⟨low_read, low_part⟩, ⟨high_read, high_part⟩, rfl⟩
  · cases found

theorem classify_of_readFinite {value : Double} (numeral : Double.readFinite text = some value) :
    classify options text = some (number value) := by
  simp only [classify, numeral]

theorem classify_of_bracketed {bounds : List Char} (other : Double.readFinite text = none)
    (enabled : options.numericIntervals = true)
    (bracketed : betweenBrackets text = some bounds) :
    classify options text = readBounds bounds := by
  simp only [classify, other, enabled, bracketed, ↓reduceIte]

/-- All other texts are sets or plain. -/
theorem classify_of_unbracketed (other : Double.readFinite text = none)
    (plain : options.numericIntervals = false ∨ betweenBrackets text = none) :
    classify options text =
      if options.stringSets ∧ ',' ∈ text then some (set ((splitAt ',' text).map String.ofList))
      else some (Literal.text (String.ofList text)) := by
  have no_bounds : (if options.numericIntervals then betweenBrackets text else none) = none := by
    rcases plain with disabled | unshaped
    · rw [disabled]
      rfl
    · rw [unshaped, ite_self]
  simp only [classify, other, no_bounds]

/-- Every text is a numeral, or else it is read as an interval, or it is not tried as one. -/
theorem classify_shapes (options : Options) (text : List Char) :
    (∃ value, Double.readFinite text = some value ∧
      classify options text = some (number value)) ∨
    (∃ bounds, Double.readFinite text = none ∧ options.numericIntervals = true ∧
      betweenBrackets text = some bounds ∧ classify options text = readBounds bounds) ∨
    (Double.readFinite text = none ∧
      (options.numericIntervals = false ∨ betweenBrackets text = none) ∧
      ∃ literal, classify options text = some literal ∧ ∀ value, literal ≠ number value) := by
  cases numeral : Double.readFinite text with
  | some value => exact Or.inl ⟨value, rfl, classify_of_readFinite numeral⟩
  | none =>
      have unbracketed (plain : options.numericIntervals = false ∨ betweenBrackets text = none) :
          ∃ literal, classify options text = some literal ∧ ∀ value, literal ≠ number value := by
        rw [classify_of_unbracketed numeral plain]
        split
        · exact ⟨_, rfl, fun _ => Literal.noConfusion⟩
        · exact ⟨_, rfl, fun _ => Literal.noConfusion⟩
      cases enabled : options.numericIntervals with
      | false => exact Or.inr (Or.inr ⟨rfl, Or.inl rfl, unbracketed (Or.inl enabled)⟩)
      | true =>
          cases bracketed : betweenBrackets text with
          | none => exact Or.inr (Or.inr ⟨rfl, Or.inr rfl, unbracketed (Or.inr bracketed)⟩)
          | some bounds =>
              exact Or.inr (Or.inl ⟨bounds, rfl, rfl, rfl,
                classify_of_bracketed numeral enabled bracketed⟩)

theorem set_or_text_of_unbracketed {literal : Literal} (other : Double.readFinite text = none)
    (plain : options.numericIntervals = false ∨ betweenBrackets text = none)
    (classified : classify options text = some literal) :
    (',' ∈ text ∧ literal = set ((splitAt ',' text).map String.ofList)) ∨
      literal = Literal.text (String.ofList text) := by
  rw [classify_of_unbracketed other plain] at classified
  split at classified
  · rename_i separated
    cases classified
    exact Or.inl ⟨separated.2, rfl⟩
  · cases classified
    exact Or.inr rfl

theorem chars_set_splitAt (text : List Char) :
    (set ((splitAt ',' text).map String.ofList)).chars = text := by
  have kept (parts : List (List Char)) : (parts.map String.ofList).map String.toList = parts := by
    simp only [List.map_map, Function.comp_def, String.toList_ofList, List.map_id']
  rw [chars, kept, joinWith_splitAt]

theorem chars_of_unbracketed {literal : Literal} (other : Double.readFinite text = none)
    (plain : options.numericIntervals = false ∨ betweenBrackets text = none)
    (classified : classify options text = some literal) : literal.chars = text := by
  rcases set_or_text_of_unbracketed other plain classified with ⟨-, rfl⟩ | rfl
  · exact chars_set_splitAt text
  · exact String.toList_ofList

theorem unsigned_of_readBounds {literal : Literal} (found : readBounds text = some literal) :
    ∃ low high, literal = interval (.finite false low) (.finite false high) := by
  obtain ⟨low, high, lower, upper, -, ⟨low_read, low_part⟩, ⟨high_read, high_part⟩, rfl⟩ :=
    bounds_of_readBounds found
  obtain ⟨low_sign, low_magnitude, rfl, low_plain⟩ := Double.finite_of_readFinite low_read
  obtain ⟨high_sign, high_magnitude, rfl, high_plain⟩ := Double.finite_of_readFinite high_read
  rw [low_plain low_part, high_plain high_part]
  exact ⟨low_magnitude, high_magnitude, rfl⟩

theorem set_of_classify {members : List String}
    (classified : classify options text = some (set members)) :
    ',' ∈ text ∧ members = (splitAt ',' text).map String.ofList := by
  rcases classify_shapes options text with
    ⟨value, -, found⟩ | ⟨bounds, -, -, -, found⟩ | ⟨other, plain, -⟩
  · rw [classified] at found
    cases found
  · rw [classified] at found
    obtain ⟨low, high, same⟩ := unsigned_of_readBounds found.symm
    cases same
  · rcases set_or_text_of_unbracketed other plain classified with ⟨separated, same⟩ | same
    · cases same
      exact ⟨separated, rfl⟩
    · cases same

/-- The bounds of an interval are finite, and not even a zero among them has a sign. -/
theorem interval_of_classify {low high : Double}
    (classified : classify options text = some (interval low high)) :
    ∃ lower upper, low = .finite false lower ∧ high = .finite false upper := by
  rcases classify_shapes options text with
    ⟨value, -, found⟩ | ⟨bounds, -, -, -, found⟩ | ⟨other, plain, -⟩
  · rw [classified] at found
    cases found
  · rw [classified] at found
    obtain ⟨lower, upper, same⟩ := unsigned_of_readBounds found.symm
    cases same
    exact ⟨lower, upper, rfl, rfl⟩
  · rcases set_or_text_of_unbracketed other plain classified with ⟨-, same⟩ | same
    · cases same
    · cases same

end Shapes

/-- What a literal can be. Numbers are finite, and the bounds of an interval have no sign. All
other text is kept as it is. -/
theorem classify_cases {options : Options} {text : List Char} {literal : Literal}
    (classified : classify options text = some literal) :
    (∃ negative magnitude, literal = number (.finite negative magnitude)) ∨
    (∃ low high, options.numericIntervals = true ∧
      literal = interval (.finite false low) (.finite false high)) ∨
    literal.chars = text := by
  rcases classify_shapes options text with
    ⟨value, numeral, found⟩ | ⟨bounds, -, enabled, -, found⟩ | ⟨other, plain, -⟩
  · rw [classified] at found
    cases found
    obtain ⟨negative, magnitude, rfl, -⟩ := Double.finite_of_readFinite numeral
    exact Or.inl ⟨negative, magnitude, rfl⟩
  · rw [classified] at found
    obtain ⟨low, high, rfl⟩ := unsigned_of_readBounds found.symm
    exact Or.inr (Or.inl ⟨low, high, enabled, rfl⟩)
  · exact Or.inr (Or.inr (chars_of_unbracketed other plain classified))

/-- A text that is rewritten is made of numerals, and of the marks of an interval around them. -/
theorem chars_eq_or_numerals {options : Options} {text : List Char} {literal : Literal}
    (classified : classify options text = some literal) :
    literal.chars = text ∨
      ∀ c ∈ text, (c.isDigit = true ∨ c ∈ Decimal.marks) ∨ c = '[' ∨ c = ']' := by
  rcases classify_shapes options text with
    ⟨value, numeral, -⟩ | ⟨bounds, -, -, bracketed, found⟩ | ⟨other, plain, -⟩
  · exact Or.inr fun c member => Or.inl (Double.mem_of_readFinite numeral member)
  · rw [classified] at found
    obtain ⟨low, high, lower, upper, rfl, ⟨low_read, -⟩, ⟨high_read, -⟩, -⟩ :=
      bounds_of_readBounds found.symm
    obtain ⟨rfl, -⟩ := eq_of_betweenBrackets bracketed
    refine Or.inr fun c member => ?_
    simp only [List.cons_append, List.mem_cons, List.mem_append, List.append_assoc,
      List.not_mem_nil, or_false] at member
    rcases member with opens | inLow | rfl | inHigh | closes
    · exact Or.inr (Or.inl opens)
    · exact Or.inl (Double.mem_of_readFinite low_read inLow)
    · exact Or.inl (Or.inr (by decide))
    · exact Or.inl (Double.mem_of_readFinite high_read inHigh)
    · exact Or.inr (Or.inr closes)
  · exact Or.inl (chars_of_unbracketed other plain classified)

theorem hyphen_not_mem_chars (magnitude : Magnitude) :
    '-' ∉ (Double.finite false magnitude).chars := by
  intro member
  rcases Double.mem_chars member with digit | point | ⟨-, sign⟩
  · cases digit
  · cases point
  · cases sign

theorem betweenBrackets_interval (low high : List Char) :
    betweenBrackets ('[' :: low ++ '-' :: high ++ [']']) = some (low ++ '-' :: high) := by
  have closes : (low ++ '-' :: high ++ [']']).getLast? = some ']' := List.getLast?_concat
  have hyphen : '-' ∈ low ++ '-' :: high ++ [']'] := by simp
  simp only [List.cons_append, betweenBrackets, closes, hyphen, and_self, ↓reduceIte,
    List.dropLast_concat]

theorem readFinite_bracket (rest : List Char) : Double.readFinite ('[' :: rest) = none := by
  apply Option.eq_none_iff_forall_ne_some.mpr
  intro value numeral
  exact absurd (Double.mem_of_readFinite numeral List.mem_cons_self) (by decide)

theorem classify_bounds {options : Options} (enabled : options.numericIntervals = true)
    {low high : List Char} {lower upper : Double} (low_read : Double.readFinite low = some lower)
    (low_plain : '-' ∉ low) (high_read : Double.readFinite high = some upper)
    (high_plain : '-' ∉ high) :
    classify options ('[' :: low ++ '-' :: high ++ [']']) = some (interval lower upper) := by
  have parts := splitAt_append high low_plain
  rw [splitAt_of_not_mem high_plain] at parts
  have other : Double.readFinite ('[' :: low ++ '-' :: high ++ [']']) = none :=
    readFinite_bracket _
  rw [classify_of_bracketed other enabled (betweenBrackets_interval low high), readBounds, parts]
  simp only [low_read, high_read]
  rfl

theorem classify_interval (options : Options) (enabled : options.numericIntervals = true)
    (low high : Magnitude) :
    classify options (interval (.finite false low) (.finite false high)).chars =
      some (interval (.finite false low) (.finite false high)) :=
  classify_bounds enabled (Double.readFinite_chars false low) (hyphen_not_mem_chars low)
    (Double.readFinite_chars false high) (hyphen_not_mem_chars high)

/-- Reading the text of a literal that was read gives the literal again. -/
theorem classify_chars {options : Options} {text : List Char} {literal : Literal}
    (classified : classify options text = some literal) :
    classify options literal.chars = some literal := by
  rcases classify_cases classified with
    ⟨negative, magnitude, rfl⟩ | ⟨low, high, enabled, rfl⟩ | same
  · simp only [chars, classify, Double.readFinite_chars]
  · exact classify_interval options enabled low high
  · rw [same, classified]

/-- A character of the text of a literal stood in what was read, or belongs to a number or to the
marks of an interval. -/
theorem chars_eq_or_numeric {options : Options} {text : List Char} {literal : Literal}
    (classified : classify options text = some literal) :
    literal.chars = text ∨ literal.chars ≠ [] ∧
      ∀ c ∈ literal.chars, c.isDigit = true ∨ c ∈ ['.', '-', '[', ']'] := by
  have numeric {negative : Bool} {magnitude : Magnitude} (c : Char)
      (member : c ∈ (Double.finite negative magnitude).chars) :
      c.isDigit = true ∨ c ∈ ['.', '-', '[', ']'] := by
    rcases Double.mem_chars member with digit | rfl | ⟨rfl, -⟩
    · exact Or.inl digit
    · exact Or.inr (by decide)
    · exact Or.inr (by decide)
  rcases classify_cases classified with ⟨negative, magnitude, rfl⟩ | ⟨low, high, -, rfl⟩ | same
  · exact Or.inr ⟨Double.chars_ne_nil negative magnitude, numeric⟩
  · refine Or.inr ⟨List.cons_ne_nil _ _, fun c member => ?_⟩
    simp only [chars, List.cons_append, List.mem_cons, List.mem_append, List.not_mem_nil,
      or_false] at member
    rcases member with rfl | (inLow | rfl | inHigh) | rfl
    · exact Or.inr (by decide)
    · exact numeric c inLow
    · exact Or.inr (by decide)
    · exact numeric c inHigh
    · exact Or.inr (by decide)
  · exact Or.inl same

theorem inLiteral_of_numeric (c : Char) (numeric : c.isDigit = true ∨ c ∈ ['.', '-', '[', ']']) :
    inLiteral c = true ∧ c ≠ '=' := by
  rcases numeric with digit | mark
  · obtain ⟨low, high⟩ := Char.isDigit_iff_toNat.mp digit
    change 48 ≤ c.toNat at low
    change c.toNat ≤ 57 at high
    have blank : isBlank c = false := isBlank_of_ascii (by omega) (by omega)
    refine ⟨?_, ?_⟩
    · have closing : c ≠ ')' := by
        rintro rfl
        exact absurd low (by decide)
      simp only [inLiteral, blank, Bool.not_false, bne_iff_ne.mpr closing, Bool.and_self]
    · rintro rfl
      exact absurd high (by decide)
  · simp only [List.mem_cons, List.not_mem_nil, or_false] at mark
    rcases mark with rfl | rfl | rfl | rfl <;> decide

theorem read_eq_ok_iff {options : Options} {text : List Char} {position : Nat}
    {literal : Literal} :
    read options text position = .ok literal ↔ classify options text = some literal := by
  unfold read
  cases classify options text with
  | none => exact ⟨nofun, nofun⟩
  | some other =>
      rw [Except.ok.injEq, Option.some.injEq]

/-- A literal that was read is read again from its own text, wherever that stands. Sets are kept to
the letter, and intervals have no sign that could be taken for the hyphen between their bounds. -/
theorem read_printed {options : Options} {text : List Char} {position : Nat} {literal : Literal}
    (accepted : read options text position = .ok literal) :
    (∀ place, read options literal.chars place = .ok literal) ∧
    (∀ members, literal = set members →
      2 ≤ members.length ∧ (∀ member ∈ members, ',' ∉ member.toList) ∧ literal.chars = text) ∧
    ∀ low high, literal = interval low high →
      (∃ lower upper, low = .finite false lower ∧ high = .finite false upper) ∧
        '-' ∉ low.chars ∧ '-' ∉ high.chars := by
  rw [read_eq_ok_iff] at accepted
  refine ⟨?_, ?_, ?_⟩
  · intro place
    rw [read_eq_ok_iff]
    exact classify_chars accepted
  · rintro members rfl
    obtain ⟨separated, rfl⟩ := set_of_classify accepted
    refine ⟨?_, ?_, chars_set_splitAt text⟩
    · have separators := List.count_pos_iff.mpr separated
      rw [List.length_map, length_splitAt]
      omega
    · intro member inside
      obtain ⟨part, found, rfl⟩ := List.mem_map.mp inside
      rw [String.toList_ofList]
      exact not_mem_of_mem_splitAt found
  · rintro low high rfl
    obtain ⟨lower, upper, rfl, rfl⟩ := interval_of_classify accepted
    exact ⟨⟨lower, upper, rfl, rfl⟩, hyphen_not_mem_chars lower, hyphen_not_mem_chars upper⟩

/-- A set that looks like an interval while those are off, and an interval between zeros with
exponents. -/
theorem read_printed_brackets :
    let plain : Options := { numericIntervals := false }
    let members := ["[1-5", "", "6)]"]
    let zeros := Literal.interval (.finite false .zero) (.finite false .zero)
    read plain "[1-5,,6)]".toList 3 = .ok (.set members) ∧
    read plain (Literal.set members).chars 8 = .ok (.set members) ∧
    (Literal.set members).chars = "[1-5,,6)]".toList ∧
    read {} "[000-0e9]".toList 3 = .ok zeros ∧ zeros.chars = "[0-0]".toList ∧
    read {} zeros.chars 8 = .ok zeros ∧ '-' ∉ (Double.finite false .zero).chars := by
  intro plain members zeros
  have commas : read plain "[1-5,,6)]".toList 3 = .ok (.set members) := by decide +kernel
  have bounds : read {} "[000-0e9]".toList 3 = .ok zeros := by decide +kernel
  obtain ⟨again, kept, -⟩ := read_printed commas
  obtain ⟨-, -, same⟩ := kept members rfl
  obtain ⟨again', -, unsigned⟩ := read_printed bounds
  obtain ⟨-, low, -⟩ := unsigned _ _ rfl
  exact ⟨commas, again 8, same, bounds, by decide +kernel, again' 8, low⟩

end Literal

end AdTargeting
