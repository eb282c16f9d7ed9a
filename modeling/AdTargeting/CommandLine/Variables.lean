import AdTargeting.CommandLine.Command
import AdTargeting.Text.Alphanumeric
import AdTargeting.Text.Blank

set_option autoImplicit false

/-
Files of variables, one on a line as NAME=VALUE. A variable that is set already keeps its value, and
a line that cannot be read ends the file.
-/

namespace AdTargeting

namespace Variables

/-- A reference to another variable, by its bare name or between braces. -/
inductive Reference where
  | none
  | bare (name : String)
  | braced (name : String)

inductive Quote where
  | none
  | single
  | double
deriving DecidableEq

structure ValueReader where
  text : String
  quote : Quote
  escaped : Bool
  reference : Reference
  /-- Only a comment may follow. -/
  ended : Bool
  /-- The rest is a comment. -/
  comment : Bool

namespace ValueReader

def start : ValueReader := ⟨"", .none, false, .none, false, false⟩

def push (reader : ValueReader) (c : Char) : ValueReader :=
  { reader with text := reader.text.push c }

def refer (defined : Variables) (reader : ValueReader) (name : String) : ValueReader :=
  { reader with text := reader.text ++ (defined.get? name).getD "", reference := .none }

def escapedChar (reader : ValueReader) (c : Char) : Option ValueReader :=
  let done := { reader with escaped := false }
  if c = 'n' then some (done.push '\n')
  else if c = '\\' ∨ c = '\'' ∨ c = '"' ∨ c = '$' ∨ c = ' ' then some (done.push c)
  else none

def unquotedChar (reader : ValueReader) (c : Char) : ValueReader :=
  if c = '\'' then { reader with quote := .single }
  else if c = '"' then { reader with quote := .double }
  else if c = '\\' then { reader with escaped := true }
  else if c = ' ' ∨ c = '\t' then { reader with ended := true }
  else reader.push c

def step (defined : Variables) (reader : ValueReader) (c : Char) : Option ValueReader :=
  if reader.comment then some reader
  else if reader.ended then
    if c = ' ' ∨ c = '\t' then some reader
    else if c = '#' then some { reader with comment := true }
    else none
  else if reader.escaped then reader.escapedChar c
  else if reader.quote = .single then
    some (if c = '\'' then { reader with quote := .none } else reader.push c)
  else
    match reader.reference with
    | .bare name =>
        if isAlphanumeric c then some { reader with reference := .bare (name.push c) }
        else if c = '\x7B' ∧ name = "" then some { reader with reference := .braced "" }
        else if c = '$' then some { reader.refer defined name with reference := .bare "" }
        else some ((reader.refer defined name).push c)
    | .braced name =>
        if c = '\x7D' then some (reader.refer defined name)
        else some { reader with reference := .braced (name.push c) }
    | .none =>
        if c = '$' then some { reader with reference := .bare "" }
        else if reader.quote = .double then
          if c = '"' then some { reader with quote := .none }
          else if c = '\\' then some { reader with escaped := true }
          else some (reader.push c)
        else some (reader.unquotedChar c)

def finish (defined : Variables) (reader : ValueReader) : Option String :=
  if reader.quote ≠ .none then none
  else
    match reader.reference with
    | .none => some reader.text
    | .bare name => some (reader.refer defined name).text
    | .braced _ => none

end ValueReader

def readValue (defined : Variables) (text : List Char) : Option String := do
  (← text.foldlM (ValueReader.step defined) ValueReader.start).finish defined

def beginsName (c : Char) : Bool := c.isAlpha || c == '_'

def inName (c : Char) : Bool := c.isAlphanum || c == '_' || c == '.'

/-- A name, and what follows it after blanks. -/
def takeName (text : List Char) : Option (String × List Char) :=
  if text.head?.any beginsName then
    some (String.ofList (text.takeWhile inName), (text.dropWhile inName).dropWhile isBlank)
  else
    none

/-- The value that follows a name: none of it, or up to a comment. -/
def afterEquals (defined : Variables) (name : String) (text : List Char) :
    Option (Option (String × String)) := do
  let written := text.dropWhile isBlank
  if written = [] ∨ written.head? = some '#' then return some (name, "")
  else return some (name, ← readValue defined written)

/-- The variable a line sets, if any. A line may begin with the word `export`. -/
def readLine (defined : Variables) (line : List Char) : Option (Option (String × String)) := do
  let text := trimBlank line
  if text = [] ∨ text.head? = some '#' then return none
  let (name, rest) ← takeName text
  match rest with
  | '=' :: value => afterEquals defined name value
  | _ =>
      if name = "export" then do
        let (name, rest) ← takeName rest
        match rest with
        | '=' :: value => afterEquals defined name value
        | _ => none
      else none

/-- Adds a variable that is not set yet. No variable can hold the character that ends texts. -/
def define (defined : Variables) (name value : String) : Option Variables :=
  if defined.contains name then some defined
  else if value.contains '\x00' then none
  else some (defined.insert name value)

def loadLines (defined : Variables) : List (List Char) → Option Variables
  | [] => some defined
  | line :: rest =>
      match readLine defined line with
      | none => some defined
      | some none => loadLines defined rest
      | some (some (name, value)) => do (← defined.define name value).loadLines rest

def linesOf : List Char → List (List Char)
  | [] => [[]]
  | c :: rest =>
      match linesOf rest with
      | [] => [[]]
      | line :: lines => if c = '\n' then [] :: line :: lines else (c :: line) :: lines

/-- The variables together with those that a file sets, if they can be set. -/
def load (defined : Variables) (file : String) : Option Variables :=
  loadLines defined (linesOf file.toList)

end Variables

namespace Surroundings

/-- The name of the file that adds variables to the environment. It is looked for where the program
runs, and nowhere else. -/
def variablesFile : String := ".env"

/-- The environment with the variables of that file, if they can be set. -/
def variables? (surroundings : Surroundings) : Option Variables :=
  match surroundings.contents variablesFile with
  | some file => surroundings.environment.load file
  | none => some surroundings.environment

end Surroundings

end AdTargeting
