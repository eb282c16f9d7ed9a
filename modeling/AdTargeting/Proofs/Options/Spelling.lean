import AdTargeting.Options.Variables
import AdTargeting.Proofs.Decimal.Grammar
import Mathlib.Data.List.Forall2

set_option autoImplicit false

/-
Spellings of settings. A flag is a word in letters of any case, a number is digits with at most a
plus sign before them, and blanks may stand around both. What is read is what is spelled so.
-/

namespace AdTargeting

/-- Blanks to write around a text. -/
structure Padding where
  before : List Char
  after : List Char
  before_blank : ∀ c ∈ before, isBlank c = true
  after_blank : ∀ c ∈ after, isBlank c = true

namespace Padding

def none : Padding := ⟨[], [], List.forall_mem_nil _, List.forall_mem_nil _⟩

def around (padding : Padding) (core : List Char) : List Char :=
  padding.before ++ (core ++ padding.after)

theorem trimBlank_around (padding : Padding) {core : List Char} (written : core ≠ [])
    (visible : ∀ c ∈ core, isBlank c = false) : trimBlank (padding.around core) = core := by
  have front : (padding.around core).dropWhile isBlank = core ++ padding.after := by
    apply dropWhile_run padding.before_blank
    intro c first
    rw [List.head?_append_of_ne_nil _ written] at first
    exact visible c (List.mem_of_head? first)
  have back : (padding.after.reverse ++ core.reverse).dropWhile isBlank = core.reverse := by
    apply dropWhile_run
    · intro c member
      exact padding.after_blank c (List.mem_reverse.mp member)
    · intro c first
      exact visible c (List.mem_reverse.mp (List.mem_of_head? first))
  rw [trimBlank, front, List.reverse_append, back, List.reverse_reverse]

/-- Every text is what trimming leaves of it, with blanks around. -/
theorem exists_around_trimBlank (text : List Char) :
    ∃ padding : Padding, padding.around (trimBlank text) = text := by
  have front := List.takeWhile_append_dropWhile (p := isBlank) (l := text)
  have back :=
    List.takeWhile_append_dropWhile (p := isBlank) (l := (text.dropWhile isBlank).reverse)
  refine ⟨⟨text.takeWhile isBlank, ((text.dropWhile isBlank).reverse.takeWhile isBlank).reverse,
    fun c => mem_takeWhile_run, fun c member => mem_takeWhile_run (List.mem_reverse.mp member)⟩, ?_⟩
  rw [around, trimBlank, ← List.reverse_append, back, List.reverse_reverse, front]

end Padding

section Letters

variable {c d : Char}

/-- The small letter of an ASCII capital. Every other character is its own. -/
inductive LowersTo (c d : Char) : Prop
  | capital (low : 'A'.toNat ≤ c.toNat) (high : c.toNat ≤ 'Z'.toNat)
      (small : d.toNat = c.toNat + 32)
  | other (plain : c.toNat < 'A'.toNat ∨ 'Z'.toNat < c.toNat) (same : d = c)

theorem toNat_toLower (low : 'A'.toNat ≤ c.toNat) (high : c.toNat ≤ 'Z'.toNat) :
    c.toLower.toNat = c.toNat + 32 := by
  have capital : c.val ≥ 'A'.val ∧ c.val ≤ 'Z'.val := ⟨low, high⟩
  change c.val.toNat ≤ 90 at high
  calc c.toLower.toNat = (c.val + 32).toNat := congrArg Char.toNat (dif_pos capital)
    _ = (c.val.toNat + 32) % 2 ^ 32 := rfl
    _ = c.toNat + 32 := Nat.mod_eq_of_lt (by omega)

theorem toLower_of_plain (plain : c.toNat < 'A'.toNat ∨ 'Z'.toNat < c.toNat) : c.toLower = c := by
  have noCapital : ¬ (c.val ≥ 'A'.val ∧ c.val ≤ 'Z'.val) := by
    rintro ⟨low, high⟩
    change 'A'.toNat ≤ c.toNat at low
    change c.toNat ≤ 'Z'.toNat at high
    omega
  exact dif_neg noCapital

theorem toLower_eq_iff : c.toLower = d ↔ LowersTo c d := by
  constructor
  · rintro rfl
    by_cases plain : c.toNat < 'A'.toNat ∨ 'Z'.toNat < c.toNat
    · exact .other plain (toLower_of_plain plain)
    · rw [not_or, Nat.not_lt, Nat.not_lt] at plain
      exact .capital plain.1 plain.2 (toNat_toLower plain.1 plain.2)
  · intro lowers
    cases lowers with
    | capital low high small =>
        apply Char.ext
        apply UInt32.toNat_inj.mp
        change c.toLower.toNat = d.toNat
        rw [toNat_toLower low high, small]
    | other plain same => rw [toLower_of_plain plain, same]

theorem lowerAscii_eq_iff {letters word : List Char} :
    lowerAscii letters = word ↔ List.Forall₂ LowersTo letters word := by
  have relation : LowersTo = fun c d => c.toLower = d := by
    funext c d
    rw [toLower_eq_iff]
  rw [relation, ← List.forall₂_map_left_iff, List.forall₂_eq_eq_eq, lowerAscii]

theorem LowersTo.visible (lowers : LowersTo c d) (visible : isBlank d = false) :
    isBlank c = false := by
  cases lowers with
  | capital low high small =>
      change 65 ≤ c.toNat at low
      change c.toNat ≤ 90 at high
      exact isBlank_of_ascii (by omega) (by omega)
  | other plain same => rwa [← same]

end Letters

/-- The words for a flag. -/
def flagSpellings : Bool → List String
  | true => ["1", "true", "yes", "on"]
  | false => ["0", "false", "no", "off"]

section Words

variable {word : String} {flag : Bool}

theorem mem_flagWords : (word, flag) ∈ flagWords ↔ word ∈ flagSpellings flag := by
  cases flag with
  | true => simp [flagWords, flagSpellings]
  | false => simp [flagWords, flagSpellings]

theorem lookup_flagWords : flagWords.lookup word = some flag ↔ word ∈ flagSpellings flag := by
  rw [← mem_flagWords]
  constructor
  · intro found
    obtain ⟨before, after, split, -⟩ := List.lookup_eq_some_iff.mp found
    rw [split]
    exact List.mem_append_right before List.mem_cons_self
  · have all : ∀ entry ∈ flagWords, flagWords.lookup entry.1 = some entry.2 := by decide
    exact all (word, flag)

theorem visible_of_known (known : word ∈ flagSpellings flag) :
    word.toList ≠ [] ∧ ∀ c ∈ word.toList, isBlank c = false := by
  have all : ∀ entry ∈ flagWords,
      entry.1.toList ≠ [] ∧ entry.1.toList.any isBlank = false := by decide
  obtain ⟨written, visible⟩ := all (word, flag) (mem_flagWords.mpr known)
  exact ⟨written, fun c member => Bool.eq_false_iff.mpr (List.any_eq_false.mp visible c member)⟩

end Words

/-- A text for a flag: a word for it in letters of any case, with blanks around. -/
structure FlagText where
  flag : Bool
  word : String
  letters : List Char
  padding : Padding
  known : word ∈ flagSpellings flag
  cased : List.Forall₂ LowersTo letters word.toList

namespace FlagText

def text (written : FlagText) : String := String.ofList (written.padding.around written.letters)

/-- The flag in full and in small letters. -/
def plain (flag : Bool) : FlagText where
  flag := flag
  word := if flag then "true" else "false"
  letters := if flag then "true".toList else "false".toList
  padding := .none
  known := by cases flag <;> decide
  cased := lowerAscii_eq_iff.mp (by cases flag <;> decide)

theorem trimBlank_text (written : FlagText) :
    trimBlank written.text.toList = written.letters := by
  have lowered := lowerAscii_eq_iff.mpr written.cased
  obtain ⟨nonempty, visible⟩ := visible_of_known written.known
  rw [text, String.toList_ofList]
  apply Padding.trimBlank_around
  · intro empty
    rw [empty] at lowered
    exact nonempty lowered.symm
  · intro c member
    have small : c.toLower ∈ written.word.toList := by
      rw [← lowered]
      exact List.mem_map_of_mem member
    exact LowersTo.visible (toLower_eq_iff.mp rfl) (visible _ small)

end FlagText

def SpellsFlag (text : String) (flag : Bool) : Prop :=
  ∃ written : FlagText, written.text = text ∧ written.flag = flag

theorem readFlag_eq_some_iff {text : String} {flag : Bool} :
    readFlag text = some flag ↔ SpellsFlag text flag := by
  constructor
  · intro read
    obtain ⟨padding, around⟩ := Padding.exists_around_trimBlank text.toList
    refine ⟨⟨flag, _, trimBlank text.toList, padding, lookup_flagWords.mp read, ?_⟩, ?_, rfl⟩
    · rw [← lowerAscii_eq_iff, String.toList_ofList]
    · rw [FlagText.text, around, String.ofList_toList]
  · rintro ⟨written, rfl, rfl⟩
    rw [readFlag, written.trimBlank_text, lowerAscii_eq_iff.mpr written.cased,
      String.ofList_toList]
    exact lookup_flagWords.mpr written.known

/-- A text for a number: digits with at most a plus sign before them, with blanks around. -/
structure NumberText where
  number : IntegerText
  padding : Padding
  unsigned : '-' ∉ number.sign.chars

namespace NumberText

def text (written : NumberText) : String :=
  String.ofList (written.padding.around written.number.chars)

def value (written : NumberText) : Nat := digitsValue written.number.digits

def plain (value : Nat) : NumberText where
  number := ⟨.absent, digitsOf value, digitsOf_ne_nil value, isDigit_of_mem_digitsOf value⟩
  padding := .none
  unsigned := List.not_mem_nil

theorem plain_value (value : Nat) : (plain value).value = value := digitsValue_digitsOf value

theorem trimBlank_text (written : NumberText) :
    trimBlank written.text.toList = written.number.chars := by
  rw [text, String.toList_ofList]
  apply Padding.trimBlank_around
  · exact List.append_ne_nil_of_right_ne_nil _ written.number.written
  · intro c member
    rw [← Numeral.integer_chars] at member
    rcases Numeral.mem_chars _ member with digit | mark
    · obtain ⟨low, high⟩ := Char.isDigit_iff_toNat.mp digit
      change 48 ≤ c.toNat at low
      change c.toNat ≤ 57 at high
      exact isBlank_of_ascii (by omega) (by omega)
    · have visible : Decimal.marks.any isBlank = false := by decide
      exact Bool.eq_false_iff.mpr (List.any_eq_false.mp visible c mark)

end NumberText

section Numbers

variable {text digits : List Char} {value : Nat}

/-- The digits are a number of 64 bits. -/
def FitsNumber64 (digits : List Char) : Prop :=
  digits ≠ [] ∧ digits.all Char.isDigit = true ∧ digitsValue digits < 2 ^ 64

theorem readNumber64_of_plain (plain : text.head? ≠ some '+') :
    readNumber64 text = some value ↔ FitsNumber64 text ∧ digitsValue text = value := by
  simp only [readNumber64, if_neg plain, Option.ite_none_right_eq_some, Option.some.injEq]
  exact Iff.rfl

theorem readNumber64_plus :
    readNumber64 ('+' :: digits) = some value ↔
      FitsNumber64 digits ∧ digitsValue digits = value := by
  simp only [readNumber64, List.head?_cons, ↓reduceIte, List.drop_succ_cons, List.drop_zero,
    Option.ite_none_right_eq_some, Option.some.injEq]
  exact Iff.rfl

theorem readNumber64_eq_some_iff :
    readNumber64 text = some value ↔
      value < 2 ^ 64 ∧ ∃ number : IntegerText, '-' ∉ number.sign.chars ∧ number.chars = text ∧
        digitsValue number.digits = value := by
  constructor
  · intro read
    by_cases plus : text.head? = some '+'
    · obtain ⟨digits, rfl⟩ := List.head?_eq_some_iff.mp plus
      obtain ⟨⟨written, all_digits, small⟩, rfl⟩ := readNumber64_plus.mp read
      have unsigned : '-' ∉ Sign.plus.chars := by decide
      exact ⟨small, ⟨.plus, digits, written, List.all_eq_true.mp all_digits⟩, unsigned, rfl, rfl⟩
    · obtain ⟨⟨written, all_digits, small⟩, rfl⟩ := (readNumber64_of_plain plus).mp read
      have unsigned : '-' ∉ Sign.absent.chars := List.not_mem_nil
      exact ⟨small, ⟨.absent, text, written, List.all_eq_true.mp all_digits⟩, unsigned, rfl, rfl⟩
  · rintro ⟨small, ⟨sign, digits, written, all_digits⟩, unsigned, rfl, rfl⟩
    have fits : FitsNumber64 digits := ⟨written, List.all_eq_true.mpr all_digits, small⟩
    cases sign with
    | minus => exact absurd List.mem_cons_self unsigned
    | plus => exact readNumber64_plus.mpr ⟨fits, rfl⟩
    | absent =>
        apply (readNumber64_of_plain _).mpr
        · exact ⟨fits, rfl⟩
        · intro plus
          exact (Decimal.plain_of_isDigit (all_digits _ (List.mem_of_head? plus))).1 rfl

end Numbers

/-- A text for a number that sixty-four bits can hold. -/
def SpellsNumber (text : String) (value : Nat) : Prop :=
  value < 2 ^ 64 ∧ ∃ written : NumberText, written.text = text ∧ written.value = value

theorem readDepth_eq_some_iff {text : String} {value : Nat} :
    readDepth text = some value ↔ SpellsNumber text value := by
  rw [readDepth, readNumber64_eq_some_iff, SpellsNumber]
  apply and_congr_right
  intro small
  constructor
  · rintro ⟨number, unsigned, trimmed, rfl⟩
    obtain ⟨padding, around⟩ := Padding.exists_around_trimBlank text.toList
    refine ⟨⟨number, padding, unsigned⟩, ?_, rfl⟩
    rw [NumberText.text, trimmed, around, String.ofList_toList]
  · rintro ⟨written, rfl, rfl⟩
    exact ⟨written.number, written.unsigned, written.trimBlank_text.symm, rfl⟩

end AdTargeting
