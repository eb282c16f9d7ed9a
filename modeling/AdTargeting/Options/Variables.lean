import AdTargeting.Decimal.Numeral
import AdTargeting.Options.Basic
import AdTargeting.Text.Blank

set_option autoImplicit false

/-
Options from variables such as those of an environment. A variable that is not set leaves the
default; blanks around a value do not count.
-/

namespace AdTargeting

/-- Lower case of ASCII letters alone, so that no other letter can spell a flag. -/
def lowerAscii (text : List Char) : List Char := text.map Char.toLower

def flagWords : List (String × Bool) :=
  [("1", true), ("true", true), ("yes", true), ("on", true),
    ("0", false), ("false", false), ("no", false), ("off", false)]

def readFlag (text : String) : Option Bool :=
  flagWords.lookup (String.ofList (lowerAscii (trimBlank text.toList)))

/-- A number of 64 bits: digits with at most a plus sign before them. -/
def readNumber64 (text : List Char) : Option Nat :=
  let digits := if text.head? = some '+' then text.drop 1 else text
  if digits ≠ [] ∧ digits.all Char.isDigit ∧ digitsValue digits < 2 ^ 64 then
    some (digitsValue digits)
  else
    none

def readDepth (text : String) : Option Nat := readNumber64 (trimBlank text.toList)

namespace Options

def intervalsVariable : String := "ADSERVE_NUMERIC_INTERVALS"

def setsVariable : String := "ADSERVE_STRING_SETS"

def depthVariable : String := "ADSERVE_MAX_DEPTH"

/-- What a variable is set to, or the default. A text that cannot be read is complained of. -/
def setting {α : Type} (read : String → Option α) (complaint : String → String → ConfigError)
    (unset : α) (lookup : String → Option String) (variableName : String) : Except ConfigError α :=
  match lookup variableName with
  | none => .ok unset
  | some text =>
      match read text with
      | some value => .ok value
      | none => .error (complaint variableName text)

/-- The options variables ask for. The first bad one is reported, a depth of zero last. -/
def ofVariables (lookup : String → Option String) : Except ConfigError Options := do
  let defaults : Options := {}
  let numericIntervals ←
    setting readFlag .notFlag defaults.numericIntervals lookup intervalsVariable
  let stringSets ← setting readFlag .notFlag defaults.stringSets lookup setsVariable
  let maxDepth ← setting readDepth .notNumber defaults.maxDepth lookup depthVariable
  validate { numericIntervals, stringSets, maxDepth }

end Options

end AdTargeting
