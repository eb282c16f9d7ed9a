import AdTargeting.CommandLine.Program
import Mathlib.Data.List.Forall2

set_option autoImplicit false

/-
Checking a suite, from its file to the exit code. Each scenario is decided by itself, and everything
that is counted, listed or returned follows from which of them pass.
-/

namespace AdTargeting

inductive ConditionError.HasKind : ConditionError → ErrorKind → Prop
  | mismatchedParenthesis (position : Nat) :
      HasKind (.mismatchedParenthesis position) .mismatchedParenthesis
  | unmatchedClose (position : Nat) : HasKind (.unmatchedClose position) .unmatchedClose
  | danglingOperator (operator : Operator) (position : Nat) :
      HasKind (.danglingOperator operator position) .danglingOperator
  | typeMismatch (name : String) (stored : ValueKind) (literal : LiteralKind) (position : Nat) :
      HasKind (.typeMismatch name stored literal position) .typeMismatch
  | illegalStringOperator (operator : Operator) (position : Nat) :
      HasKind (.illegalStringOperator operator position) .illegalStringOperator
  | malformedInterval (literal : String) (position : Nat) :
      HasKind (.malformedInterval literal position) .malformedInterval
  | missingRelation (position : Nat) : HasKind (.missingRelation position) .missingRelation
  | nestingTooDeep (limit position : Nat) :
      HasKind (.nestingTooDeep limit position) .nestingTooDeep

theorem ConditionError.hasKind_iff {reason : ConditionError} {kind : ErrorKind} :
    reason.HasKind kind ↔ reason.kind = kind := by
  constructor
  · intro named
    cases named <;> rfl
  · rintro rfl
    cases reason <;> constructor

/-- An outcome is the expected verdict, or an error of the expected kind. -/
inductive Outcome.Meets : Outcome → Expectation → Prop
  | verdict (value : Bool) : Meets (.ok value) (.verdict value)
  | error {reason : ConditionError} {kind : ErrorKind} (named : reason.HasKind kind) :
      Meets (.error reason) (.error kind)

theorem Outcome.meets_iff (outcome : Outcome) (expected : Expectation) :
    outcome.meets expected = true ↔ outcome.Meets expected := by
  constructor
  · intro met
    cases expected with
    | verdict value =>
        cases outcome with
        | ok verdict =>
            rw [← eq_of_beq met]
            exact .verdict verdict
        | error reason => cases met
    | error kind =>
        cases outcome with
        | ok verdict => cases met
        | error reason => exact .error (ConditionError.hasKind_iff.mpr (of_decide_eq_true met))
  · rintro (value | named)
    · exact beq_self_eq_true value
    · exact decide_eq_true (ConditionError.hasKind_iff.mp named)

instance (outcome : Outcome) (expected : Expectation) : Decidable (outcome.Meets expected) :=
  decidable_of_iff _ (outcome.meets_iff expected)

namespace Scenario

def outcome (options : Options) (scenario : Scenario) : Outcome :=
  (shouldServe options scenario.attributes scenario.condition).result

def Passes (options : Options) (scenario : Scenario) : Prop :=
  (scenario.outcome options).Meets scenario.expected

instance (options : Options) (scenario : Scenario) : Decidable (scenario.Passes options) :=
  inferInstanceAs (Decidable (Outcome.Meets _ _))

theorem run_passed (options : Options) (scenario : Scenario) :
    (scenario.run options).passed = decide (scenario.Passes options) := by
  rw [Bool.eq_iff_iff, decide_eq_true_iff]
  exact Outcome.meets_iff _ _

end Scenario

/-- A result is that of a scenario under the options of its suite. -/
structure ScenarioResult.Reports (options : Options) (scenario : Scenario)
    (result : ScenarioResult) : Prop where
  description : result.scenario.description = scenario.description
  expected : result.scenario.expected = scenario.expected
  outcome : result.outcome = scenario.outcome options
  passed : result.passed = true ↔ scenario.Passes options

theorem Scenario.reports_run (options : Options) (scenario : Scenario) :
    ScenarioResult.Reports options scenario (scenario.run options) :=
  ⟨rfl, rfl, rfl, Outcome.meets_iff _ _⟩

/-- A report has one result for each scenario, in order, and its summaries are those of the
scenarios. -/
structure Suite.ReportedBy (suite : Suite) (report : Report) : Prop where
  results : List.Forall₂ (ScenarioResult.Reports suite.options) suite.scenarios report.results
  passed : report.passedCount =
    suite.scenarios.countP fun scenario => scenario.Passes suite.options
  failed : List.Forall₂ (ScenarioResult.Reports suite.options)
    (suite.scenarios.filter fun scenario => ¬ scenario.Passes suite.options) report.failed
  total : report.passedCount + report.failed.length = suite.scenarios.length

section Results

variable (options : Options) (scenarios : List Scenario)

theorem reports_map_run : List.Forall₂ (ScenarioResult.Reports options) scenarios
    (scenarios.map (Scenario.run options)) := by
  rw [List.forall₂_map_right_iff, List.forall₂_same]
  intro scenario _
  exact scenario.reports_run options

theorem countP_map_run : (scenarios.map (Scenario.run options)).countP ScenarioResult.passed =
    scenarios.countP fun scenario => scenario.Passes options := by
  rw [List.countP_map]
  apply List.countP_congr
  intro scenario _
  rw [Function.comp_apply, Scenario.run_passed]

theorem filter_map_run :
    (scenarios.map (Scenario.run options)).filter (fun result => !result.passed) =
      (scenarios.filter fun scenario => ¬ scenario.Passes options).map
        (Scenario.run options) := by
  rw [List.filter_map]
  apply congrArg
  apply List.filter_congr
  intro scenario _
  rw [Function.comp_apply, Scenario.run_passed, decide_not]

end Results

theorem Report.passedCount_add_failed (report : Report) :
    report.passedCount + report.failed.length = report.results.length := by
  rw [passedCount, failed, List.countP_eq_length_filter]
  exact (List.length_eq_length_filter_add ScenarioResult.passed).symm

theorem Suite.reportedBy_run (suite : Suite) : suite.ReportedBy suite.run where
  results := reports_map_run suite.options suite.scenarios
  passed := countP_map_run suite.options suite.scenarios
  failed := by
    have failed := filter_map_run suite.options suite.scenarios
    rw [Report.failed, Suite.run, failed]
    exact reports_map_run suite.options _
  total := by
    rw [Report.passedCount_add_failed, Suite.run, List.length_map]

/-- Results do not depend on what stands around a scenario, nor on where it stands. -/
theorem Suite.run_append (suite : Suite) (first second : List Scenario) :
    ({ suite with scenarios := first ++ second } : Suite).run.results =
      ({ suite with scenarios := first } : Suite).run.results ++
        ({ suite with scenarios := second } : Suite).run.results :=
  List.map_append

theorem Suite.run_reordered (suite : Suite) (order : List Nat) :
    ({ suite with scenarios := order.filterMap (suite.scenarios[·]?) } : Suite).run.results =
      order.filterMap (suite.run.results[·]?) := by
  simp only [Suite.run, List.map_filterMap, List.getElem?_map]

/-- The line with the status of a scenario. Its index is set to the right of three columns. -/
def statusLine (index : Nat) (status description : String) : String :=
  String.ofList (List.replicate (3 - (toString index).length) ' ') ++ toString index ++
    (". " ++ status ++ " - " ++ description)

def Expectation.told : Expectation → String
  | verdict true => "true"
  | verdict false => "false"
  | error kind => "error " ++ kind.name

inductive Outcome.Told : Outcome → String → Prop
  | verdict (value : Bool) : Told (.ok value) (Expectation.verdict value).told
  | error {reason : ConditionError} {kind : ErrorKind} (named : reason.HasKind kind) :
      Told (.error reason) ((Expectation.error kind).told ++ " (" ++ reason.message ++ ")")

def failureLine (expected : Expectation) (got : String) : String :=
  "       expected " ++ expected.told ++ ", got " ++ got

/-- The lines about scenarios that are counted from an index: one for each with its status, and one
more for each that failed. -/
inductive Listing (options : Options) : Nat → List Scenario → List String → Prop
  | done (index : Nat) : Listing options index [] []
  | passed {index : Nat} {scenario : Scenario} {rest : List Scenario} {lines : List String}
      (passes : scenario.Passes options) (later : Listing options (index + 1) rest lines) :
      Listing options index (scenario :: rest)
        (statusLine index "PASS" scenario.description :: lines)
  | failed {index : Nat} {scenario : Scenario} {rest : List Scenario} {lines : List String}
      {got : String} (fails : ¬ scenario.Passes options)
      (told : (scenario.outcome options).Told got)
      (later : Listing options (index + 1) rest lines) :
      Listing options index (scenario :: rest)
        (statusLine index "FAIL" scenario.description ::
          failureLine scenario.expected got :: lines)

theorem pushn_empty (c : Char) (count : Nat) :
    "".pushn c count = String.ofList (List.replicate count c) := by
  rw [← String.toList_inj, String.toList_ofList, String.pushn_eq_repeat_push]
  induction count with
  | zero => rfl
  | succ count ih => rw [Nat.repeat, String.toList_push, ih, List.replicate_succ']

theorem Expectation.text_eq_told (expected : Expectation) : expected.text = expected.told := by
  cases expected with
  | verdict value => cases value <;> rfl
  | error kind => rfl

theorem Outcome.told_text (outcome : Outcome) : outcome.Told (Outcome.text outcome) := by
  cases outcome with
  | ok value =>
      have told := Told.verdict value
      rwa [← Expectation.text_eq_told] at told
  | error reason => exact .error (ConditionError.hasKind_iff.mpr rfl)

theorem statusLine_eq (index : Nat) (status description : String) :
    Report.alignRight 3 (toString index) ++ s!". {status} - {description}" =
      statusLine index status description := by
  rw [Report.alignRight, pushn_empty]
  rfl

theorem failureLine_eq (expected : Expectation) (got : String) :
    s!"       expected {expected.text}, got " ++ got = failureLine expected got := by
  rw [Expectation.text_eq_told]
  rfl

theorem resultLines_of_passed {result : ScenarioResult} (index : Nat)
    (passed : result.passed = true) :
    Report.resultLines index result =
      [statusLine index "PASS" result.scenario.description] := by
  simp only [Report.resultLines, passed, ↓reduceIte, statusLine_eq]

theorem resultLines_of_failed {result : ScenarioResult} (index : Nat)
    (failed : result.passed = false) :
    Report.resultLines index result =
      [statusLine index "FAIL" result.scenario.description,
        failureLine result.scenario.expected (Outcome.text result.outcome)] := by
  simp only [Report.resultLines, failed, Bool.false_eq_true, ↓reduceIte, statusLine_eq,
    failureLine_eq]

theorem listing_linesFrom (options : Options) (index : Nat) (scenarios : List Scenario) :
    Listing options index scenarios
      (Report.linesFrom index (scenarios.map (Scenario.run options))) := by
  induction scenarios generalizing index with
  | nil => exact .done index
  | cons scenario rest ih =>
      rw [List.map_cons, Report.linesFrom]
      by_cases passes : scenario.Passes options
      · have passed : (scenario.run options).passed = true := by
          rw [Scenario.run_passed, decide_eq_true passes]
        rw [resultLines_of_passed index passed]
        exact .passed passes (ih (index + 1))
      · have failed : (scenario.run options).passed = false := by
          rw [Scenario.run_passed, decide_eq_false passes]
        rw [resultLines_of_failed index failed]
        exact .failed passes (Outcome.told_text _) (ih (index + 1))

section Loading

variable {decode : String → Option Suite} {suite : Suite}

/-- A suite loads from a text that is decoded to it, unless it allows no parentheses at all. -/
theorem Suite.loadWith_eq_ok_iff {contents : Option String} :
    loadWith decode contents = .ok suite ↔
      ∃ source, contents = some source ∧ decode source = some suite ∧
        suite.options.maxDepth ≠ 0 := by
  constructor
  · intro loaded
    cases contents with
    | none => cases loaded
    | some source =>
        simp only [loadWith, readWith] at loaded
        split at loaded
        · cases loaded
        · rename_i found decoded
          split at loaded
          · rename_i options valid
            cases loaded
            refine ⟨source, rfl, decoded, fun zero => ?_⟩
            rw [Options.validate_of_zero zero] at valid
            cases valid
          · cases loaded
  · rintro ⟨source, rfl, decoded, allowed⟩
    have valid := Options.validate_of_ne_zero allowed
    simp only [loadWith, readWith, decoded, valid]

end Loading

/-- What a reply shows of a suite and of its report: the lines about the scenarios and a last one
with the counts, and an exit code that tells whether all passed. -/
structure Suite.PrintedBy (suite : Suite) (report : Report) (reply : Reply) : Prop where
  output : ∃ lines, Listing suite.options 0 suite.scenarios lines ∧
    reply.output = String.join ((lines ++
      [s!"{report.passedCount}/{suite.scenarios.length} scenarios passed"]).map (· ++ "\n"))
  code : reply.exitCode = 0 ∨ reply.exitCode = 1
  succeeds : reply.exitCode = 0 ↔ ∀ scenario ∈ suite.scenarios, scenario.Passes suite.options
  complete : reply.exitCode = 0 ↔ report.passedCount = suite.scenarios.length

theorem Suite.allPassed_iff (suite : Suite) :
    suite.run.allPassed = true ↔
      ∀ scenario ∈ suite.scenarios, scenario.Passes suite.options := by
  rw [Report.allPassed, Suite.run, List.all_map, List.all_eq_true]
  simp only [Function.comp_apply, Scenario.run_passed, decide_eq_true_iff]

section Replies

variable {packages : Packages} {file : String}

theorem Suite.printedBy_runCheck {suite : Suite} {contents : String → Option String}
    (loaded : loadWith packages.suite (contents file) = .ok suite) :
    suite.PrintedBy suite.run (packages.runCheck file contents) := by
  simp only [Packages.runCheck, loaded]
  have size : suite.run.results.length = suite.scenarios.length := List.length_map _
  have exits : (if suite.run.allPassed then 0 else 1) = 0 ↔
      ∀ scenario ∈ suite.scenarios, scenario.Passes suite.options := by
    rw [← suite.allPassed_iff]
    cases suite.run.allPassed <;> decide
  refine ⟨⟨_, listing_linesFrom suite.options 0 suite.scenarios, ?_⟩, ?_, exits, ?_⟩
  · rw [← size]
    rfl
  · cases suite.run.allPassed with
    | true => exact Or.inl rfl
    | false => exact Or.inr rfl
  · rw [exits, suite.reportedBy_run.passed, List.countP_eq_length]
    simp only [decide_eq_true_iff]

theorem runCheck_of_error {contents : String → Option String} {reason : ServeError}
    (failed : Suite.loadWith packages.suite (contents file) = .error reason) :
    (packages.runCheck file contents).exitCode = 1 ∧
      (packages.runCheck file contents).output = "" := by
  simp only [Packages.runCheck, failed, Reply.failed, and_self]

/-- A command line that asks for a check is answered by the report of the suite that the file
describes, of which each result is that of its scenario alone. A file that describes none, or one
whose options allow no parentheses, is answered by a failure and no lines. Of the package that reads
suites it is assumed that it yields what a text describes. -/
theorem reply_check {Describes : String → Suite → Prop} {arguments : List String}
    {surroundings : Surroundings} {environment : Variables}
    (yields : ∀ source suite, packages.suite source = some suite ↔ Describes source suite)
    (asked : packages.Reads arguments surroundings (.check file) environment) :
    (∀ suite, Suite.loadWith packages.suite (surroundings.contents file) = .ok suite ↔
      ∃ source, surroundings.contents file = some source ∧ Describes source suite ∧
        suite.options.maxDepth ≠ 0) ∧
    (∀ suite, Suite.loadWith packages.suite (surroundings.contents file) = .ok suite →
      suite.ReportedBy suite.run ∧
      suite.PrintedBy suite.run (packages.reply arguments surroundings) ∧
      (∀ first second : List Scenario,
        ({ suite with scenarios := first ++ second } : Suite).run.results =
          ({ suite with scenarios := first } : Suite).run.results ++
            ({ suite with scenarios := second } : Suite).run.results) ∧
      ∀ order : List Nat,
        ({ suite with scenarios := order.filterMap (suite.scenarios[·]?) } : Suite).run.results =
          order.filterMap (suite.run.results[·]?)) ∧
    ((∀ suite, Suite.loadWith packages.suite (surroundings.contents file) ≠ .ok suite) →
      (packages.reply arguments surroundings).exitCode = 1 ∧
        (packages.reply arguments surroundings).output = "") ∧
    ∀ (source : String) (suite : Suite), surroundings.contents file = some source →
      Describes source suite → suite.options.maxDepth = 0 →
        (packages.reply arguments surroundings).exitCode = 1 ∧
          (packages.reply arguments surroundings).output = "" := by
  have answer : packages.reply arguments surroundings =
      packages.runCheck file surroundings.contents := Packages.reply_of_reads asked
  have loads (suite : Suite) :
      Suite.loadWith packages.suite (surroundings.contents file) = .ok suite ↔
        ∃ source, surroundings.contents file = some source ∧ Describes source suite ∧
          suite.options.maxDepth ≠ 0 := by
    simp only [Suite.loadWith_eq_ok_iff, yields]
  have refused (none_loads : ∀ suite,
      Suite.loadWith packages.suite (surroundings.contents file) ≠ .ok suite) :
      (packages.runCheck file surroundings.contents).exitCode = 1 ∧
        (packages.runCheck file surroundings.contents).output = "" := by
    cases loaded : Suite.loadWith packages.suite (surroundings.contents file) with
    | ok suite => exact absurd loaded (none_loads suite)
    | error reason => exact runCheck_of_error loaded
  rw [answer]
  refine ⟨loads, ?_, refused, ?_⟩
  · intro suite loaded
    exact ⟨suite.reportedBy_run, Suite.printedBy_runCheck loaded, suite.run_append,
      suite.run_reordered⟩
  · intro source suite written described zero
    apply refused
    intro other loaded
    obtain ⟨source', written', described', allowed⟩ := (loads other).mp loaded
    rw [written] at written'
    cases written'
    -- A text describes one suite at most, since it yields one at most.
    have same := ((yields source other).mpr described').symm.trans
      ((yields source suite).mpr described)
    cases same
    exact allowed zero

end Replies

def mixedFile : String :=
  "scenarios:\n- description: a\n  attributes: {age: 25}\n  condition: age=25\n  expect: true\n" ++
    "- description: b\n  expect: {error: unmatched_close}\n"

def mixedSuite : Suite where
  name := none
  options := {}
  scenarios :=
    [⟨"a", NameMap.ofList [("age", .number (.ofInt 25))], "age=25", .verdict true⟩,
      ⟨"b", NameMap.empty, "", .error .unmatchedClose⟩]

def closedFile : String := "options: {max_depth: 0}\nscenarios: []\n"

def closedSuite : Suite := ⟨none, { maxDepth := 0 }, []⟩

inductive FileDescribes : String → Suite → Prop
  | mixed : FileDescribes mixedFile mixedSuite
  | closed : FileDescribes closedFile closedSuite

/-- Packages that know of checks and of two files. -/
def checkPackages : Packages where
  command
    | ["check", file] => .ok (.check file)
    | _ => .error .misused
  prepare surroundings := some surroundings.environment
  json _ := none
  suite source :=
    if source = mixedFile then some mixedSuite
    else if source = closedFile then some closedSuite
    else none

theorem checkPackages_suite (source : String) (suite : Suite) :
    checkPackages.suite source = some suite ↔ FileDescribes source suite := by
  have differ : closedFile ≠ mixedFile := by decide
  constructor
  · intro found
    simp only [checkPackages] at found
    split at found
    · rename_i same
      cases found
      exact same ▸ .mixed
    · split at found
      · rename_i same
        cases found
        exact same ▸ .closed
      · cases found
  · rintro (_ | _)
    · simp only [checkPackages, ↓reduceIte]
    · simp only [checkPackages, differ, ↓reduceIte]

/-- A suite of which one scenario fails, a suite that allows no parentheses, and no suite. -/
theorem reply_check_mixed :
    let surroundings : Surroundings :=
      ⟨NameMap.empty, fun file =>
        if file = "mixed" then some mixedFile else if file = "closed" then some closedFile else none⟩
    let answer (file : String) : Reply := checkPackages.reply ["check", file] surroundings
    (mixedSuite.ReportedBy mixedSuite.run ∧ mixedSuite.PrintedBy mixedSuite.run (answer "mixed") ∧
      (answer "mixed").output = "  0. PASS - a\n  1. FAIL - b\n" ++
        "       expected error unmatched_close, got false\n1/2 scenarios passed\n") ∧
      ((answer "closed").exitCode = 1 ∧ (answer "closed").output = "") ∧
      (answer "other").exitCode = 1 ∧ (answer "other").output = "" := by
  intro surroundings answer
  have checks (file : String) := @reply_check checkPackages file FileDescribes ["check", file]
    surroundings NameMap.empty checkPackages_suite ⟨rfl, rfl⟩
  obtain ⟨loads, reported, -, -⟩ := checks "mixed"
  obtain ⟨-, -, -, refused⟩ := checks "closed"
  obtain ⟨-, -, unread, -⟩ := checks "other"
  have loaded := (loads mixedSuite).mpr ⟨mixedFile, rfl, .mixed, by decide⟩
  obtain ⟨report, printed, -⟩ := reported mixedSuite loaded
  refine ⟨⟨report, printed, by decide +kernel⟩, refused closedFile closedSuite rfl .closed rfl,
    unread ?_⟩
  intro suite found
  cases found

end AdTargeting
