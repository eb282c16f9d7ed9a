import AdTargeting.Condition.Operator
import AdTargeting.Text.Blank
import AdTargeting.Text.Substitution

set_option autoImplicit false

/-
Conditions as rows of tokens. The row knows nothing of nesting and refuses no text: every character
that is not blank belongs to one token.
-/

namespace AdTargeting

/-- The short spelling of a condition: words between single spaces become symbols, and equality
loses the spaces around it. -/
def shortSpelling (condition : List Char) : List Char :=
  let conjunctions := substitute " and ".toList " && ".toList condition
  let relations := substitute " or ".toList " || ".toList conjunctions
  substitute " = ".toList "=".toList relations

def normalize (condition : String) : String :=
  String.ofList (shortSpelling condition.toList)

namespace Operator

/-- How many characters the symbol has. -/
def width : Operator → Nat
  | equal | less | greater => 1
  | lessEqual | greaterEqual => 2

/-- The operator that starts with a character, given those after it. -/
def startingWith (c : Char) (rest : List Char) : Option Operator :=
  if c = '=' then some equal
  else if c = '<' then some (if rest.head? = some '=' then lessEqual else less)
  else if c = '>' then some (if rest.head? = some '=' then greaterEqual else greater)
  else none

end Operator

def Relation.startingWith (c : Char) : Option Relation :=
  if c = '&' then some and else if c = '|' then some or else none

/-- A literal runs until a blank or a closing parenthesis. -/
def inLiteral (c : Char) : Bool := !isBlank c && c != ')'

inductive Token where
  | opening (position : Nat)
  | closing (position : Nat)
  /-- A relation, written once or twice. -/
  | relation (relation : Relation) (doubled : Bool)
  /-- A comparison starts at its name, or at its operator when the name is empty. -/
  | comparison (name : String) (start : Nat) (operator : Operator) (position : Nat)
      (literal : List Char)
  /-- A name that no comparison took. -/
  | stray (name : String) (start : Nat)
deriving DecidableEq

/-- A name whose use is not yet known. Blanks between its characters are not part of it. -/
structure PendingName where
  text : String
  start : Nat

namespace PendingName

def none : PendingName := ⟨"", 0⟩

def push (name : PendingName) (c : Char) (position : Nat) : PendingName where
  text := name.text.push c
  start := if name.text = "" then position else name.start

def stray (name : PendingName) : List Token :=
  if name.text = "" then [] else [.stray name.text name.start]

def startOr (name : PendingName) (position : Nat) : Nat :=
  if name.text = "" then position else name.start

end PendingName

namespace Token

/-- The tokens of a text that begins at `position`, after a pending name. -/
def scanFrom (name : PendingName) (position : Nat) : List Char → List Token
  | [] => name.stray
  | c :: rest =>
      if c = '(' then
        name.stray ++ opening position :: scanFrom .none (position + 1) rest
      else if c = ')' then
        name.stray ++ closing position :: scanFrom .none (position + 1) rest
      else
        match Relation.startingWith c, Operator.startingWith c rest with
        | some value, _ =>
            if rest.head? = some c then
              name.stray ++ relation value true :: scanFrom .none (position + 2) (rest.drop 1)
            else
              name.stray ++ relation value false :: scanFrom .none (position + 1) rest
        | none, some operator =>
            let tail := rest.drop (operator.width - 1)
            let literal := tail.takeWhile inLiteral
            comparison name.text (name.startOr position) operator position literal ::
              scanFrom .none (position + operator.width + literal.length)
                (tail.dropWhile inLiteral)
        | none, none =>
            if isBlank c then scanFrom name (position + 1) rest
            else scanFrom (name.push c position) (position + 1) rest
termination_by text => text.length
decreasing_by
  all_goals simp only [List.length_cons, List.length_drop]
  all_goals try omega
  have shorter := (List.dropWhile_sublist inLiteral
    (l := rest.drop (operator.width - 1))).length_le
  simp only [List.length_drop] at shorter
  omega

def scan (text : List Char) : List Token := scanFrom .none 0 text

end Token

end AdTargeting
