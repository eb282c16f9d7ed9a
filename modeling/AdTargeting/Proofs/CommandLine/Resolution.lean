import AdTargeting.CommandLine.Program
import AdTargeting.Proofs.Options.Variables

set_option autoImplicit false

/-
Options in force under flags. Variables have to be good even where a flag overrides them, but then
their values do not matter: not to the options and not to the reply.
-/

namespace AdTargeting

namespace OptionFlags

open Options

variable {flags : OptionFlags} {lookup lookup' : String → Option String} {base base' : Options}

/-- The flags decide in place of the variable. -/
def Overrides (flags : OptionFlags) (variableName : String) : Prop :=
  (flags.noIntervals = true ∧ variableName = intervalsVariable) ∨
  (flags.noStringSets = true ∧ variableName = setsVariable) ∨
  (flags.maxDepth.isSome = true ∧ variableName = depthVariable)

theorem overrides_intervals : flags.Overrides intervalsVariable ↔ flags.noIntervals = true := by
  have sets : intervalsVariable ≠ setsVariable := by decide
  have depth : intervalsVariable ≠ depthVariable := by decide
  simp only [Overrides, sets, depth, and_true, and_false, or_false]

theorem overrides_sets : flags.Overrides setsVariable ↔ flags.noStringSets = true := by
  have intervals : setsVariable ≠ intervalsVariable := by decide
  have depth : setsVariable ≠ depthVariable := by decide
  simp only [Overrides, intervals, depth, and_true, and_false, or_false, false_or]

theorem overrides_depth : flags.Overrides depthVariable ↔ flags.maxDepth.isSome = true := by
  have intervals : depthVariable ≠ intervalsVariable := by decide
  have sets : depthVariable ≠ setsVariable := by decide
  simp only [Overrides, intervals, sets, and_true, and_false, false_or]

theorem override_maxDepth_ne_zero (positive : base.maxDepth ≠ 0) :
    (flags.override base).maxDepth ≠ 0 ↔ flags.maxDepth ≠ some 0 := by
  simp only [override]
  cases flags.maxDepth with
  | none => simp only [Option.getD_none, positive, ne_eq, reduceCtorEq, not_false_eq_true]
  | some depth => simp only [Option.getD_some, ne_eq, Option.some.injEq]

theorem resolve_eq_ok_iff {options : Options} :
    flags.resolve lookup = .ok options ↔
      ∃ base, ofVariables lookup = .ok base ∧ flags.maxDepth ≠ some 0 ∧
        flags.override base = options := by
  unfold resolve
  cases given : ofVariables lookup with
  | error reason => simp only [reduceCtorEq, false_and, exists_false]
  | ok base =>
      have positive := (ofVariables_eq_ok_iff.mp given).2
      by_cases zero : (flags.override base).maxDepth = 0
      · have refused : ¬ flags.maxDepth ≠ some 0 := by
          rw [← override_maxDepth_ne_zero positive]
          exact not_not.mpr zero
        simp only [validate_of_zero zero, reduceCtorEq, refused, false_and, and_false, exists_false]
      · have allowed := (override_maxDepth_ne_zero positive).mp zero
        simp [validate_of_ne_zero zero, allowed]

theorem exists_resolve_iff :
    (∃ options, flags.resolve lookup = .ok options) ↔
      (∃ base, ofVariables lookup = .ok base) ∧ flags.maxDepth ≠ some 0 := by
  simp only [resolve_eq_ok_iff]
  constructor
  · rintro ⟨options, base, given, allowed, -⟩
    exact ⟨⟨base, given⟩, allowed⟩
  · rintro ⟨⟨base, given⟩, allowed⟩
    exact ⟨flags.override base, base, given, allowed, rfl⟩

theorem maxDepth_pos_of_resolve {options : Options}
    (resolved : flags.resolve lookup = .ok options) : 1 ≤ options.maxDepth := by
  obtain ⟨base, given, allowed, rfl⟩ := resolve_eq_ok_iff.mp resolved
  have positive := (ofVariables_eq_ok_iff.mp given).2
  exact Nat.pos_of_ne_zero ((override_maxDepth_ne_zero positive).mpr allowed)

section Overriding

/-- Variables that differ only where the flags decide. -/
def AgreeUnderFlags (flags : OptionFlags) (lookup lookup' : String → Option String) : Prop :=
  ∀ variableName, lookup variableName ≠ lookup' variableName → flags.Overrides variableName

variable (agree : flags.AgreeUnderFlags lookup lookup')
include agree

/-- A variable that the flags leave alone asks for the same in both. -/
theorem asked_alike {α : Type} {read : String → Option α} {spells : String → α → Prop}
    {unset value value' : α} {variableName : String}
    (reads : ∀ {text value}, read text = some value ↔ spells text value)
    (kept : ¬ flags.Overrides variableName) (asks : Asks spells unset (lookup variableName) value)
    (asks' : Asks spells unset (lookup' variableName) value') : value = value' := by
  have same : lookup variableName = lookup' variableName := by
    by_contra different
    exact kept (agree variableName different)
  rw [same] at asks
  exact asks.unique reads asks'

theorem override_congr (asked : AskedBy lookup base) (asked' : AskedBy lookup' base') :
    flags.override base = flags.override base' := by
  -- Setting by setting: a flag that is given decides on both sides alike.
  have intervals : (base.numericIntervals && !flags.noIntervals) =
      (base'.numericIntervals && !flags.noIntervals) := by
    by_cases given : flags.noIntervals = true
    · rw [given, Bool.not_true, Bool.and_false, Bool.and_false]
    · rw [asked_alike agree readFlag_eq_some_iff (mt overrides_intervals.mp given) asked.intervals
        asked'.intervals]
  have sets : (base.stringSets && !flags.noStringSets) =
      (base'.stringSets && !flags.noStringSets) := by
    by_cases given : flags.noStringSets = true
    · rw [given, Bool.not_true, Bool.and_false, Bool.and_false]
    · rw [asked_alike agree readFlag_eq_some_iff (mt overrides_sets.mp given) asked.sets
        asked'.sets]
  have depth : flags.maxDepth.getD base.maxDepth = flags.maxDepth.getD base'.maxDepth := by
    cases given : flags.maxDepth with
    | some depth => rfl
    | none =>
        have kept : ¬ flags.Overrides depthVariable := by
          rw [overrides_depth, given]
          exact Bool.false_ne_true
        exact asked_alike agree readDepth_eq_some_iff kept asked.depth asked'.depth
  rw [override, override, intervals, sets, depth]

theorem resolve_congr (given : ofVariables lookup = .ok base)
    (given' : ofVariables lookup' = .ok base') : flags.resolve lookup = flags.resolve lookup' := by
  have same := override_congr agree (ofVariables_eq_ok_iff.mp given).1
    (ofVariables_eq_ok_iff.mp given').1
  simp only [resolve, given, given', same]

end Overriding

end OptionFlags

def Command.flags? : Command → Option OptionFlags
  | eval _ _ flags => some flags
  | parse _ flags => some flags
  | check _ => none

namespace Packages

variable (packages : Packages) {command : Command} {flags : OptionFlags}
  {surroundings surroundings' : Surroundings} (flagged : command.flags? = some flags)

include flagged

/-- Of the surroundings, such a command looks at nothing but the options in force. -/
theorem run_congr (same : flags.resolve surroundings.environment.get? =
      flags.resolve surroundings'.environment.get?) :
    packages.run command surroundings = packages.run command surroundings' := by
  cases command with
  | eval attributes condition given =>
      cases flagged
      simp only [run, runEval, withOptions, same]
  | parse condition given =>
      cases flagged
      simp only [run, runParse, withOptions, same]
  | check file => cases flagged

theorem run_of_unresolved
    (unresolved : ¬ ∃ options, flags.resolve surroundings.environment.get? = .ok options) :
    (packages.run command surroundings).exitCode = 1 ∧
      (packages.run command surroundings).output = "" := by
  obtain ⟨reason, refused⟩ : ∃ reason,
      flags.resolve surroundings.environment.get? = .error reason := by
    cases resolved : flags.resolve surroundings.environment.get? with
    | error reason => exact ⟨reason, rfl⟩
    | ok options => exact absurd ⟨options, resolved⟩ unresolved
  cases command with
  | eval attributes condition given =>
      cases flagged
      simp only [run, runEval, withOptions, refused]
      split
      · exact ⟨rfl, rfl⟩
      · split
        · exact ⟨rfl, rfl⟩
        · exact ⟨rfl, rfl⟩
  | parse condition given =>
      cases flagged
      simp only [run, runParse, withOptions, refused]
      exact ⟨rfl, rfl⟩
  | check file => cases flagged

end Packages

/-- Flags are applied to options that the variables give by themselves, and never leave a depth of
zero. In the environment of a command, which is the one its file of variables adds to, a variable
that flags decide in place of can have any value that is good and the reply stays the same, but a
value that is bad makes the command fail. That does not depend on the packages. -/
theorem flags_override_environment (flags : OptionFlags) :
    (∀ lookup, (∃ options, flags.resolve lookup = .ok options) ↔
      (∃ base, Options.ofVariables lookup = .ok base) ∧ flags.maxDepth ≠ some 0) ∧
    (∀ lookup options, flags.resolve lookup = .ok options →
      ∃ base, Options.ofVariables lookup = .ok base ∧
        options.numericIntervals = (if flags.noIntervals then false else base.numericIntervals) ∧
        options.stringSets = (if flags.noStringSets then false else base.stringSets) ∧
        options.maxDepth = flags.maxDepth.getD base.maxDepth ∧ 1 ≤ options.maxDepth) ∧
    ∀ (packages : Packages) arguments surroundings command environment,
      packages.Reads arguments surroundings command environment → command.flags? = some flags →
      (∀ surroundings' environment',
        packages.Reads arguments surroundings' command environment' →
        (∃ base, Options.ofVariables environment.get? = .ok base) →
        (∃ base, Options.ofVariables environment'.get? = .ok base) →
        flags.AgreeUnderFlags environment.get? environment'.get? →
        packages.reply arguments surroundings = packages.reply arguments surroundings') ∧
      ((∃ reason, Options.ofVariables environment.get? = .error reason) ∨
          flags.maxDepth = some 0 →
        (packages.reply arguments surroundings).exitCode = 1 ∧
          (packages.reply arguments surroundings).output = "") := by
  refine ⟨fun _ => OptionFlags.exists_resolve_iff, ?_, ?_⟩
  · intro lookup options resolved
    have positive := OptionFlags.maxDepth_pos_of_resolve resolved
    obtain ⟨base, given, -, rfl⟩ := OptionFlags.resolve_eq_ok_iff.mp resolved
    have switched (value off : Bool) : (value && !off) = if off then false else value := by
      cases off with
      | true => exact Bool.and_false value
      | false => exact Bool.and_true value
    exact ⟨base, given, switched _ _, switched _ _, rfl, positive⟩
  · intro packages arguments surroundings command environment asked flagged
    have answer := Packages.reply_of_reads asked
    refine ⟨?_, ?_⟩
    · intro surroundings' environment' asked' ⟨base, given⟩ ⟨base', given'⟩ agree
      rw [answer, Packages.reply_of_reads asked']
      exact packages.run_congr flagged (OptionFlags.resolve_congr agree given given')
    · intro unusable
      rw [answer]
      apply packages.run_of_unresolved flagged
      rw [OptionFlags.exists_resolve_iff]
      rintro ⟨⟨base, given⟩, allowed⟩
      rcases unusable with ⟨reason, refused⟩ | zero
      · rw [given] at refused
        cases refused
      · exact allowed zero

/-- Packages that know of two command lines, and of no file that adds variables. -/
def flagPackages : Packages where
  command
    | ["parse", "--no-intervals", condition] => .ok (.parse condition ⟨true, false, none⟩)
    | ["eval", "-a", "\x7b\x7d", "-c", condition, "--max-depth=0"] =>
        .ok (.eval "\x7b\x7d" condition ⟨false, false, some 0⟩)
    | _ => .error .misused
  prepare surroundings := some surroundings.environment
  json text := if text = "\x7b\x7d" then some (.object []) else none
  suite _ := none

/-- A flag in place of a variable with one value, another, and a bad one; then a depth of zero. -/
theorem flags_override_environment_intervals :
    let surroundings (text : String) : Surroundings :=
      ⟨NameMap.empty.insert Options.intervalsVariable text, fun _ => none⟩
    let arguments := ["parse", "--no-intervals", "age=[1-2]"]
    let answer (text : String) : Reply := flagPackages.reply arguments (surroundings text)
    answer "yes" = ⟨0, "age=[1-2]\n", none⟩ ∧ answer "yes" = answer " OFF" ∧
      ((answer "maybe").exitCode = 1 ∧ (answer "maybe").output = "") ∧
      (flagPackages.reply ["eval", "-a", "\x7b\x7d", "-c", "", "--max-depth=0"]
        (surroundings "no")).exitCode = 1 := by
  intro surroundings arguments answer
  obtain ⟨-, -, hidden⟩ := flags_override_environment ⟨true, false, none⟩
  obtain ⟨-, -, closed⟩ := flags_override_environment ⟨false, false, some 0⟩
  obtain ⟨same, -⟩ := hidden flagPackages arguments (surroundings "yes") _ _ ⟨rfl, rfl⟩ rfl
  obtain ⟨-, refused⟩ := hidden flagPackages arguments (surroundings "maybe") _ _ ⟨rfl, rfl⟩ rfl
  obtain ⟨-, shut⟩ := closed flagPackages
    ["eval", "-a", "\x7b\x7d", "-c", "", "--max-depth=0"] (surroundings "no") _ _ ⟨rfl, rfl⟩ rfl
  refine ⟨by decide +kernel, ?_, refused (Or.inl ⟨_, rfl⟩), (shut (Or.inr rfl)).1⟩
  apply same (surroundings " OFF") _ ⟨rfl, rfl⟩ ⟨_, rfl⟩ ⟨_, rfl⟩
  intro variableName differs
  by_cases here : variableName = Options.intervalsVariable
  · exact Or.inl ⟨rfl, here⟩
  · apply absurd _ differs
    show (NameMap.insert _ _ _).get? variableName = (NameMap.insert _ _ _).get? variableName
    rw [NameMap.get?_insert, NameMap.get?_insert, if_neg here, if_neg here]

end AdTargeting
