import AdTargeting.Error
import AdTargeting.Serving

set_option autoImplicit false

/-
Suites of scenarios: attributes, a condition and what is expected of them.
-/

namespace AdTargeting

inductive Expectation where
  | verdict (value : Bool)
  | error (kind : ErrorKind)
deriving DecidableEq

namespace Expectation

def text : Expectation → String
  | verdict value => LogRecord.verdictText value
  | error kind => "error " ++ kind.name

end Expectation

structure Scenario where
  description : String
  attributes : Attributes
  condition : String
  expected : Expectation

structure Suite where
  name : Option String
  options : Options
  scenarios : List Scenario

namespace Suite

/-- The suite that a text is decoded to, unless its options allow no parentheses at all. -/
def readWith (decode : String → Option Suite) (source : String) : Except ServeError Suite :=
  match decode source with
  | none => .error .yaml
  | some suite =>
      match suite.options.validate with
      | .ok _ => .ok suite
      | .error reason => .error (.config reason)

/-- Reads a suite from the contents of a file, if there are any. -/
def loadWith (decode : String → Option Suite) : Option String → Except ServeError Suite
  | some source => readWith decode source
  | none => .error .io

end Suite

/-- What a scenario came to. -/
abbrev Outcome := Except ConditionError Bool

namespace Outcome

def text : Outcome → String
  | .ok verdict => LogRecord.verdictText verdict
  | .error reason => s!"error {reason.kind.name} ({reason.message})"

/-- An expected error is met by every error of its kind. -/
def meets (outcome : Outcome) : Expectation → Bool
  | .verdict value =>
      match outcome with
      | .ok verdict => verdict == value
      | .error _ => false
  | .error kind =>
      match outcome with
      | .ok _ => false
      | .error reason => reason.kind = kind

end Outcome

structure ScenarioResult where
  scenario : Scenario
  outcome : Outcome

def ScenarioResult.passed (result : ScenarioResult) : Bool :=
  result.outcome.meets result.scenario.expected

def Scenario.run (options : Options) (scenario : Scenario) : ScenarioResult where
  scenario
  outcome := (shouldServe options scenario.attributes scenario.condition).result

/-- One result for each scenario, in order. -/
structure Report where
  results : List ScenarioResult

def Suite.run (suite : Suite) : Report := ⟨suite.scenarios.map (Scenario.run suite.options)⟩

namespace Report

def passedCount (report : Report) : Nat := report.results.countP ScenarioResult.passed

def allPassed (report : Report) : Bool := report.results.all ScenarioResult.passed

def failed (report : Report) : List ScenarioResult :=
  report.results.filter fun result => !result.passed

def alignRight (width : Nat) (text : String) : String :=
  "".pushn ' ' (width - text.length) ++ text

/-- The lines about one scenario: a second one only when it failed. -/
def resultLines (index : Nat) (result : ScenarioResult) : List String :=
  let status := if result.passed then "PASS" else "FAIL"
  let line := alignRight 3 (toString index) ++ s!". {status} - {result.scenario.description}"
  if result.passed then [line]
  else
    [line,
      s!"       expected {result.scenario.expected.text}, got " ++ Outcome.text result.outcome]

def linesFrom (index : Nat) : List ScenarioResult → List String
  | [] => []
  | result :: rest => resultLines index result ++ linesFrom (index + 1) rest

def lines (report : Report) : List String :=
  linesFrom 0 report.results ++
    [s!"{report.passedCount}/{report.results.length} scenarios passed"]

end Report

end AdTargeting
