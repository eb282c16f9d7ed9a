import AdTargeting.CommandLine.Command
import AdTargeting.Options.Variables

set_option autoImplicit false

/-
Command lines. An option takes its value from the same argument or from the next one, which then may
not look like an option itself. After two hyphens every argument is an operand. To ask for help is
no command, and is answered like a line that cannot be understood.
-/

namespace AdTargeting

namespace Arguments

/-- What an option or flag sets. -/
inductive Setting where
  | attributes
  | condition
  | noIntervals
  | noStringSets
  | maxDepth
deriving DecidableEq

def Setting.takesValue : Setting → Bool
  | attributes | condition | maxDepth => true
  | noIntervals | noStringSets => false

/-- The long name of a setting. -/
def Setting.name : Setting → String
  | attributes => "attrs"
  | condition => "condition"
  | noIntervals => "no-intervals"
  | noStringSets => "no-string-sets"
  | maxDepth => "max-depth"

/-- The letter of a setting, for those that have one. -/
def Setting.letter? : Setting → Option Char
  | attributes => some 'a'
  | condition => some 'c'
  | _ => none

def flagSettings : List Setting := [.noIntervals, .noStringSets, .maxDepth]

/-- One argument by its form. -/
inductive Form where
  | operand (text : String)
  | onlyOperands
  /-- A setting by its name, with what follows an equals sign. -/
  | long (name : String) (value : Option String)
  /-- A setting by its letter, with what follows that. -/
  | short (letter : Char) (value : Option String)

def shortValue : List Char → Option String
  | [] => none
  | '=' :: rest => some (String.ofList rest)
  | rest => some (String.ofList rest)

def form (argument : String) : Form :=
  match argument.toList with
  | ['-', '-'] => .onlyOperands
  | '-' :: '-' :: rest =>
      let name := String.ofList (rest.takeWhile (· ≠ '='))
      match rest.dropWhile (· ≠ '=') with
      | [] => .long name none
      | _ :: value => .long name (some (String.ofList value))
  | '-' :: letter :: rest => .short letter (shortValue rest)
  | _ => .operand argument

/-- What has been given so far: settings with their values, and operands in order. -/
structure Given where
  settings : List (Setting × String)
  operands : List String

/-- No setting may be given twice. -/
def Given.set (given : Given) (setting : Setting) (value : String) : Option Given :=
  if (given.settings.lookup setting).isSome then none
  else some { given with settings := given.settings ++ [(setting, value)] }

def find (known : List Setting) : Form → Option (Setting × Option String)
  | .long name value => do return (← known.find? (·.name = name), value)
  | .short letter value => do return (← known.find? (·.letter? = some letter), value)
  | _ => none

/-- Reads the arguments of a command that knows some settings, one of which may wait for its
value. -/
def read (known : List Setting) (given : Given) (waiting : Option Setting) :
    List String → Option Given
  | [] => if waiting.isSome then none else some given
  | argument :: rest =>
      match waiting, form argument with
      | some setting, .operand text =>
          (given.set setting text).bind fun next => read known next none rest
      | some _, _ => none
      | none, .operand text =>
          read known { given with operands := given.operands ++ [text] } none rest
      | none, .onlyOperands => some { given with operands := given.operands ++ rest }
      | none, written =>
          match find known written with
          | none => none
          | some (setting, attached) =>
              match setting.takesValue, attached with
              | true, some value =>
                  (given.set setting value).bind fun next => read known next none rest
              | true, none => read known given (some setting) rest
              | false, none => (given.set setting "").bind fun next => read known next none rest
              | false, some _ => none

def Given.flags (given : Given) : Option OptionFlags := do
  let maxDepth ← match given.settings.lookup .maxDepth with
    | none => pure none
    | some text => do pure (some (← readNumber64 text.toList))
  return {
    noIntervals := (given.settings.lookup .noIntervals).isSome
    noStringSets := (given.settings.lookup .noStringSets).isSome
    maxDepth }

end Arguments

open Arguments in
/-- The command a command line asks for, if it is well formed. -/
def Command.ofArguments? : List String → Option Command
  | "eval" :: rest => do
      let given ← Arguments.read (.attributes :: .condition :: flagSettings) ⟨[], []⟩ none rest
      if given.operands ≠ [] then none
      return .eval (← given.settings.lookup .attributes) (← given.settings.lookup .condition)
        (← given.flags)
  | "parse" :: rest => do
      let given ← Arguments.read flagSettings ⟨[], []⟩ none rest
      match given.operands with
      | [condition] => return .parse condition (← given.flags)
      | _ => none
  | "check" :: rest => do
      let given ← Arguments.read [] ⟨[], []⟩ none rest
      match given.operands with
      | [file] => if file = "" then none else return .check file
      | _ => none
  | _ => none

end AdTargeting
