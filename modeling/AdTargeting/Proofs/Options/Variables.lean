import AdTargeting.Proofs.Options.Spelling

set_option autoImplicit false

/-
Options from variables: which texts are accepted, what they ask for, and which of several bad ones
is reported. Options that are spelled out in any way are read back.
-/

namespace AdTargeting

namespace Options

section Setting

variable {α : Type} {read : String → Option α} {spells : String → α → Prop}
  {complaint : String → String → ConfigError} {unset value : α}
  {lookup : String → Option String} {variableName text : String}

/-- What a variable asks for: what its text spells, or the default if it is not set. -/
inductive Asks (spells : String → α → Prop) (unset : α) : Option String → α → Prop
  | unset : Asks spells unset none unset
  | set {text : String} {value : α} (spelled : spells text value) :
      Asks spells unset (some text) value

structure Misspelled (spells : String → α → Prop) (given : Option String) (text : String) :
    Prop where
  set : given = some text
  meaningless : ∀ value, ¬ spells text value

theorem asks_or_misspelled (spells : String → α → Prop) (unset : α) (given : Option String) :
    (∃ value, Asks spells unset given value) ∨ ∃ text, Misspelled spells given text := by
  cases given with
  | none => exact Or.inl ⟨unset, .unset⟩
  | some text =>
      by_cases spelled : ∃ value, spells text value
      · obtain ⟨value, here⟩ := spelled
        exact Or.inl ⟨value, .set here⟩
      · exact Or.inr ⟨text, rfl, not_exists.mp spelled⟩

theorem exists_asks_iff (spells : String → α → Prop) (unset : α) (given : Option String) :
    (∃ value, Asks spells unset given value) ↔
      ∀ text, given = some text → ∃ value, spells text value := by
  constructor
  · rintro ⟨value, asks⟩ text set
    cases asks with
    | unset => cases set
    | set spelled =>
        cases set
        exact ⟨value, spelled⟩
  · intro spelled
    rcases asks_or_misspelled spells unset given with asked | ⟨text, bad⟩
    · exact asked
    · obtain ⟨value, here⟩ := spelled text bad.set
      exact absurd here (bad.meaningless value)

/-- What is demanded of a value is demanded of its texts, if the default meets it. -/
theorem asks_and_iff {allowed : α → Prop} {given : Option String} (default : allowed unset) :
    Asks (fun text value => spells text value ∧ allowed value) unset given value ↔
      Asks spells unset given value ∧ allowed value := by
  constructor
  · intro asks
    cases asks with
    | unset => exact ⟨.unset, default⟩
    | set spelled => exact ⟨.set spelled.1, spelled.2⟩
  · rintro ⟨asks, allows⟩
    cases asks with
    | unset => exact .unset
    | set spelled => exact .set ⟨spelled, allows⟩

theorem Asks.unique (reads : ∀ {text value}, read text = some value ↔ spells text value)
    {given : Option String} {other : α} (first : Asks spells unset given value)
    (second : Asks spells unset given other) : value = other := by
  cases first with
  | unset =>
      cases second with
      | unset => rfl
  | set spelled =>
      cases second with
      | set spelled' => exact Option.some.inj ((reads.mpr spelled).symm.trans (reads.mpr spelled'))

theorem setting_of_asks (reads : ∀ {text value}, read text = some value ↔ spells text value)
    (asks : Asks spells unset (lookup variableName) value) :
    setting read complaint unset lookup variableName = .ok value := by
  generalize given : lookup variableName = found at asks
  cases asks with
  | unset => simp only [setting, given]
  | set spelled => simp only [setting, given, reads.mpr spelled]

theorem setting_of_misspelled (reads : ∀ {text value}, read text = some value ↔ spells text value)
    (bad : Misspelled spells (lookup variableName) text) :
    setting read complaint unset lookup variableName = .error (complaint variableName text) := by
  have unread : read text = none := by
    rw [Option.eq_none_iff_forall_ne_some]
    intro value found
    exact bad.meaningless value (reads.mp found)
  simp only [setting, bad.set, unread]

end Setting

section Variables

variable {lookup : String → Option String} {options : Options}

/-- The options that variables ask for. -/
structure AskedBy (lookup : String → Option String) (options : Options) : Prop where
  intervals : Asks SpellsFlag true (lookup intervalsVariable) options.numericIntervals
  sets : Asks SpellsFlag true (lookup setsVariable) options.stringSets
  depth : Asks SpellsNumber 64 (lookup depthVariable) options.maxDepth

/-- What is said of the first variable that cannot be used, in the order in which they are read. A
depth of zero counts last, and its message has no text to quote. -/
inductive FirstOffender (lookup : String → Option String) : String → Prop
  | intervals {text : String} (bad : Misspelled SpellsFlag (lookup intervalsVariable) text) :
      FirstOffender lookup s!"ADSERVE_NUMERIC_INTERVALS must be true or false, got '{text}'"
  | sets {intervals : Bool} {text : String}
      (good : Asks SpellsFlag true (lookup intervalsVariable) intervals)
      (bad : Misspelled SpellsFlag (lookup setsVariable) text) :
      FirstOffender lookup s!"ADSERVE_STRING_SETS must be true or false, got '{text}'"
  | depth {intervals sets : Bool} {text : String}
      (good : Asks SpellsFlag true (lookup intervalsVariable) intervals)
      (alsoGood : Asks SpellsFlag true (lookup setsVariable) sets)
      (bad : Misspelled SpellsNumber (lookup depthVariable) text) :
      FirstOffender lookup s!"ADSERVE_MAX_DEPTH must be a number, got '{text}'"
  | zero {options : Options} (asked : AskedBy lookup options) (zero : options.maxDepth = 0) :
      FirstOffender lookup "max_depth must be at least 1"

theorem askedBy_or_firstOffender (lookup : String → Option String) :
    (∃ options, AskedBy lookup options ∧ options.maxDepth ≠ 0) ∨
      ∃ message, FirstOffender lookup message := by
  rcases asks_or_misspelled SpellsFlag true (lookup intervalsVariable) with
    ⟨intervals, asksIntervals⟩ | ⟨text, bad⟩
  · rcases asks_or_misspelled SpellsFlag true (lookup setsVariable) with
      ⟨sets, asksSets⟩ | ⟨text, bad⟩
    · rcases asks_or_misspelled SpellsNumber 64 (lookup depthVariable) with
        ⟨depth, asksDepth⟩ | ⟨text, bad⟩
      · have asked : AskedBy lookup ⟨intervals, sets, depth⟩ :=
          ⟨asksIntervals, asksSets, asksDepth⟩
        by_cases zero : depth = 0
        · exact Or.inr ⟨_, .zero asked zero⟩
        · exact Or.inl ⟨_, asked, zero⟩
      · exact Or.inr ⟨_, .depth asksIntervals asksSets bad⟩
    · exact Or.inr ⟨_, .sets asksIntervals bad⟩
  · exact Or.inr ⟨_, .intervals bad⟩

theorem ofVariables_of_askedBy (asked : AskedBy lookup options) :
    ofVariables lookup = options.validate := by
  simp only [ofVariables, setting_of_asks readFlag_eq_some_iff asked.intervals,
    setting_of_asks readFlag_eq_some_iff asked.sets,
    setting_of_asks readDepth_eq_some_iff asked.depth]
  rfl

theorem ofVariables_of_firstOffender {message : String} (offender : FirstOffender lookup message) :
    ∃ reason, ofVariables lookup = .error reason ∧ reason.message = message := by
  cases offender with
  | @intervals text bad =>
      refine ⟨.notFlag intervalsVariable text, ?_, rfl⟩
      simp only [ofVariables, setting_of_misspelled readFlag_eq_some_iff bad]
      rfl
  | @sets intervals text good bad =>
      refine ⟨.notFlag setsVariable text, ?_, rfl⟩
      simp only [ofVariables, setting_of_asks readFlag_eq_some_iff good,
        setting_of_misspelled readFlag_eq_some_iff bad]
      rfl
  | @depth intervals sets text good alsoGood bad =>
      refine ⟨.notNumber depthVariable text, ?_, rfl⟩
      simp only [ofVariables, setting_of_asks readFlag_eq_some_iff good,
        setting_of_asks readFlag_eq_some_iff alsoGood,
        setting_of_misspelled readDepth_eq_some_iff bad]
      rfl
  | zero asked zero =>
      refine ⟨.zeroDepth, ?_, rfl⟩
      rw [ofVariables_of_askedBy asked, validate_of_zero zero]

theorem ofVariables_eq_ok_iff :
    ofVariables lookup = .ok options ↔ AskedBy lookup options ∧ options.maxDepth ≠ 0 := by
  constructor
  · intro accepted
    rcases askedBy_or_firstOffender lookup with ⟨others, asked, positive⟩ | ⟨message, offender⟩
    · rw [ofVariables_of_askedBy asked, validate_of_ne_zero positive] at accepted
      cases accepted
      exact ⟨asked, positive⟩
    · obtain ⟨reason, refused, -⟩ := ofVariables_of_firstOffender offender
      rw [accepted] at refused
      cases refused
  · rintro ⟨asked, positive⟩
    rw [ofVariables_of_askedBy asked, validate_of_ne_zero positive]

theorem ofVariables_error_iff {message : String} :
    (∃ reason, ofVariables lookup = .error reason ∧ reason.message = message) ↔
      FirstOffender lookup message := by
  constructor
  · rintro ⟨reason, refused, rfl⟩
    rcases askedBy_or_firstOffender lookup with ⟨others, asked⟩ | ⟨message, offender⟩
    · rw [ofVariables_eq_ok_iff.mpr asked] at refused
      cases refused
    · obtain ⟨found, refused', rfl⟩ := ofVariables_of_firstOffender offender
      rw [refused] at refused'
      cases refused'
      exact offender
  · exact ofVariables_of_firstOffender

theorem exists_ofVariables_iff :
    (∃ options, ofVariables lookup = .ok options) ↔
      (∀ text, lookup intervalsVariable = some text → ∃ flag, SpellsFlag text flag) ∧
      (∀ text, lookup setsVariable = some text → ∃ flag, SpellsFlag text flag) ∧
      ∀ text, lookup depthVariable = some text → ∃ depth, SpellsNumber text depth ∧ 1 ≤ depth := by
  rw [← exists_asks_iff SpellsFlag true, ← exists_asks_iff SpellsFlag true,
    ← exists_asks_iff (fun text depth => SpellsNumber text depth ∧ 1 ≤ depth) 64]
  simp only [asks_and_iff (show 1 ≤ 64 by decide)]
  constructor
  · rintro ⟨options, accepted⟩
    obtain ⟨asked, positive⟩ := ofVariables_eq_ok_iff.mp accepted
    exact ⟨⟨_, asked.intervals⟩, ⟨_, asked.sets⟩, _, asked.depth, Nat.pos_of_ne_zero positive⟩
  · rintro ⟨⟨intervals, asksIntervals⟩, ⟨sets, asksSets⟩, depth, asksDepth, positive⟩
    exact ⟨⟨intervals, sets, depth⟩, ofVariables_eq_ok_iff.mpr
      ⟨⟨asksIntervals, asksSets, asksDepth⟩, Nat.ne_of_gt positive⟩⟩

end Variables

/-- Texts that spell the settings of some options. -/
structure Rendering (options : Options) where
  intervals : FlagText
  sets : FlagText
  depth : NumberText
  same_intervals : intervals.flag = options.numericIntervals
  same_sets : sets.flag = options.stringSets
  same_depth : depth.value = options.maxDepth

namespace Rendering

variable {options : Options}

/-- Words and digits without anything around them. -/
def plain (options : Options) : Rendering options where
  intervals := .plain options.numericIntervals
  sets := .plain options.stringSets
  depth := .plain options.maxDepth
  same_intervals := rfl
  same_sets := rfl
  same_depth := NumberText.plain_value _

def lookup (rendering : Rendering options) (variableName : String) : Option String :=
  if variableName = intervalsVariable then some rendering.intervals.text
  else if variableName = setsVariable then some rendering.sets.text
  else if variableName = depthVariable then some rendering.depth.text
  else none

theorem askedBy (rendering : Rendering options) (small : options.maxDepth < 2 ^ 64) :
    AskedBy rendering.lookup options where
  intervals := .set ⟨rendering.intervals, rfl, rendering.same_intervals⟩
  sets := .set ⟨rendering.sets, rfl, rendering.same_sets⟩
  depth := .set ⟨small, rendering.depth, rfl, rendering.same_depth⟩

end Rendering

/-- Variables are accepted if each that is set spells a flag or a number that is not zero, and then
mean what they spell. Otherwise the first that cannot be used is reported with its text as it
stands. Options that are spelled out in any way are read back. -/
theorem ofVariables_reads_spellings (lookup : String → Option String) :
    ((∃ options, ofVariables lookup = .ok options) ↔
      (∀ text, lookup intervalsVariable = some text → ∃ flag, SpellsFlag text flag) ∧
      (∀ text, lookup setsVariable = some text → ∃ flag, SpellsFlag text flag) ∧
      ∀ text, lookup depthVariable = some text → ∃ depth, SpellsNumber text depth ∧ 1 ≤ depth) ∧
    (∀ options, ofVariables lookup = .ok options → AskedBy lookup options) ∧
    (∀ message, (∃ reason, ofVariables lookup = .error reason ∧ reason.message = message) ↔
      FirstOffender lookup message) ∧
    ∀ options : Options, 1 ≤ options.maxDepth → options.maxDepth < 2 ^ 64 →
      Nonempty (Rendering options) ∧
      ∀ rendering : Rendering options, ofVariables rendering.lookup = .ok options := by
  refine ⟨exists_ofVariables_iff, ?_, fun _ => ofVariables_error_iff, ?_⟩
  · intro options accepted
    exact (ofVariables_eq_ok_iff.mp accepted).1
  · intro options positive small
    refine ⟨⟨.plain options⟩, fun rendering => ?_⟩
    exact ofVariables_eq_ok_iff.mpr ⟨rendering.askedBy small, Nat.ne_of_gt positive⟩

/-- Unusual spellings of two flags and of a number; then a word that means nothing beside a number
that is too large by one. -/
theorem ofVariables_reads_spellings_unusual :
    let options : Options := ⟨true, false, 64⟩
    let bad (variableName : String) : Option String :=
      if variableName = setsVariable then some " ja"
      else if variableName = depthVariable then some "18446744073709551616"
      else none
    (∃ rendering : Rendering options, rendering.intervals.text = "\u00a0TrUe\t" ∧
      rendering.sets.text = "oFf " ∧ rendering.depth.text = " +0064\n" ∧
      ofVariables rendering.lookup = .ok options) ∧
    (¬ ∃ depth, SpellsNumber "18446744073709551616" depth) ∧
    FirstOffender bad "ADSERVE_STRING_SETS must be true or false, got ' ja'" := by
  intro options bad
  obtain ⟨-, -, reported, readBack⟩ := ofVariables_reads_spellings bad
  obtain ⟨intervals, intervalsText, intervalsFlag⟩ : SpellsFlag "\u00a0TrUe\t" true :=
    readFlag_eq_some_iff.mp (by decide +kernel)
  obtain ⟨sets, setsText, setsFlag⟩ : SpellsFlag "oFf " false :=
    readFlag_eq_some_iff.mp (by decide +kernel)
  obtain ⟨-, depth, depthText, depthValue⟩ : SpellsNumber " +0064\n" 64 :=
    readDepth_eq_some_iff.mp (by decide +kernel)
  have unread : readDepth "18446744073709551616" = none := by decide +kernel
  obtain ⟨-, accepted⟩ := readBack options (by decide) (by decide)
  refine ⟨⟨⟨intervals, sets, depth, intervalsFlag, setsFlag, depthValue⟩, intervalsText, setsText,
    depthText, accepted _⟩, ?_, ?_⟩
  · rintro ⟨depth, spelled⟩
    rw [readDepth_eq_some_iff.mpr spelled] at unread
    cases unread
  · exact (reported _).mp ⟨.notFlag setsVariable " ja", by rfl, by decide +kernel⟩

end Options

end AdTargeting
