import AdTargeting.CommandLine.Run

set_option autoImplicit false

/-
The program: gathers its surroundings and writes the reply to its command line.
-/

namespace AdTargeting

/-- The contents of a file, if it is there and is a text. -/
def readContents (file : String) : IO (Option String) := do
  try
    return some (← IO.FS.readFile file)
  catch _ =>
    return none

/-- The parts of a text that may be names of variables: those it sets, and those it refers to, barely
or between braces. -/
def mentionedNames (text : String) : List String :=
  let brace (c : Char) : Bool := c = '\x7B' || c = '\x7D'
  [fun c => !Variables.inName c, fun c => !isAlphanumeric c, brace].flatMap fun separates =>
    (text.splitToList separates).filter (· ≠ "")

def readEnvironment (names : List String) : IO Variables :=
  names.foldlM
    (fun known name => do
      match ← IO.getEnv name with
      | some value => return known.insert name value
      | none => return known)
    NameMap.empty

def gather (arguments : List String) : IO Surroundings := do
  let variablesFile ← readContents Surroundings.variablesFile
  let environment ← readEnvironment
    ([Options.intervalsVariable, Options.setsVariable, Options.depthVariable] ++
      mentionedNames (variablesFile.getD ""))
  let suite ← match Command.ofArguments? arguments with
    | some (.check file) => pure (file, ← readContents file)
    | _ => pure ("", none)
  let contents (file : String) : Option String :=
    if file = suite.1 then suite.2
    else if file = Surroundings.variablesFile then variablesFile
    else none
  return { environment, contents }

end AdTargeting

open AdTargeting in
def main (arguments : List String) : IO UInt32 := do
  let answer := reply arguments (← gather arguments)
  IO.print answer.output
  match answer.failure with
  | some message => IO.eprintln message
  | none => pure ()
  return answer.exitCode.toUInt32
