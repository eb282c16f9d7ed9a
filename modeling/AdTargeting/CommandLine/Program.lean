import AdTargeting.CommandLine.Command
import AdTargeting.Options.Variables
import AdTargeting.Suite.Basic

set_option autoImplicit false

/-
What commands do. Command lines, files of variables, JSON and suites are read by packages, which the
program is given.
-/

namespace AdTargeting

/-- Why the options of a command cannot be used. -/
inductive OptionsFailure where
  | environment (reason : ConfigError)
  | flags (reason : ConfigError)
deriving DecidableEq

def OptionsFailure.message : OptionsFailure → String
  | environment reason => s!"Configuration error: {reason.message}"
  | flags _ => "invalid --max-depth"

namespace OptionFlags

/-- Options changed as the flags ask. -/
def override (flags : OptionFlags) (options : Options) : Options where
  numericIntervals := options.numericIntervals && !flags.noIntervals
  stringSets := options.stringSets && !flags.noStringSets
  maxDepth := flags.maxDepth.getD options.maxDepth

/-- The options in force: those of the environment, which have to be good by themselves, changed by
the flags. -/
def resolve (flags : OptionFlags) (lookup : String → Option String) :
    Except OptionsFailure Options :=
  match Options.ofVariables lookup with
  | .error reason => .error (.environment reason)
  | .ok options =>
      match (flags.override options).validate with
      | .error reason => .error (.flags reason)
      | .ok changed => .ok changed

end OptionFlags

/-- What the program leaves to packages. -/
structure Packages where
  /-- The command that a command line asks for. A line that asks for none has its own reply. -/
  command : List String → Except Reply Command
  /-- The environment, with the variables that a file adds to it, unless they cannot be set. -/
  prepare : Surroundings → Option Variables
  json : String → Option Json
  suite : String → Option Suite

namespace Packages

variable (packages : Packages)

def withOptions (flags : OptionFlags) (environment : Variables) (go : Options → Reply) : Reply :=
  match flags.resolve environment.get? with
  | .ok options => go options
  | .error reason => .failed reason.message

def runEval (attributes condition : String) (flags : OptionFlags) (environment : Variables) :
    Reply :=
  match packages.json attributes with
  | none => .failed "--attrs must be valid JSON"
  | some value =>
      match Attributes.ofJson value with
      | .error reason =>
          .failed s!"Invalid attribute '{reason.name}': {reason.fault.message}"
      | .ok attributes =>
          withOptions flags environment fun options =>
            match (shouldServe options attributes condition).result with
            | .ok verdict => .success (LogRecord.verdictText verdict ++ "\n")
            | .error reason => .failed reason.message

def runParse (condition : String) (flags : OptionFlags) (environment : Variables) : Reply :=
  withOptions flags environment fun options =>
    match (compile options condition).result with
    | .ok compiled => .success (compiled.canonical ++ "\n")
    | .error reason => .failed reason.message

def runCheck (file : String) (contents : String → Option String) : Reply :=
  match Suite.loadWith packages.suite (contents file) with
  | .error _ => .failed s!"Failed to load suite {file}"
  | .ok suite =>
      let report := suite.run
      { exitCode := if report.allPassed then 0 else 1
        output := String.join (report.lines.map (· ++ "\n"))
        failure := none }

def run (command : Command) (surroundings : Surroundings) : Reply :=
  match command with
  | .eval attributes condition flags =>
      packages.runEval attributes condition flags surroundings.environment
  | .parse condition flags => runParse condition flags surroundings.environment
  | .check file => packages.runCheck file surroundings.contents

/-- The reply to a command line. Variables are set before it is looked at. -/
def reply (arguments : List String) (surroundings : Surroundings) : Reply :=
  match packages.prepare surroundings with
  | none => .aborted
  | some environment =>
      match packages.command arguments with
      | .error answer => answer
      | .ok command => packages.run command { surroundings with environment }

/-- What the packages make of a command line and its surroundings: a command and the environment it
is run in. -/
structure Reads (arguments : List String) (surroundings : Surroundings) (command : Command)
    (environment : Variables) : Prop where
  command : packages.command arguments = .ok command
  environment : packages.prepare surroundings = some environment

theorem reply_of_reads {packages : Packages} {arguments : List String}
    {surroundings : Surroundings} {command : Command} {environment : Variables}
    (reads : packages.Reads arguments surroundings command environment) :
    packages.reply arguments surroundings =
      packages.run command { surroundings with environment } := by
  simp only [reply, reads.environment, reads.command]

end Packages

end AdTargeting
