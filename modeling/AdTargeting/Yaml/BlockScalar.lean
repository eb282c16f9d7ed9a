import AdTargeting.Yaml.Character

set_option autoImplicit false

/-
Scalars that are written as indented lines, either kept as lines or folded into one.
-/

namespace AdTargeting

namespace Yaml

/-- What becomes of the line breaks at the end. -/
inductive Chomping where
  | strip
  | clip
  | keep
deriving DecidableEq

/-- The rest of the line that announces a block scalar. -/
structure BlockHeader where
  chomping : Chomping
  /-- How much deeper than the collection around it the text is indented, if that is given. -/
  increment : Option Nat
deriving DecidableEq

namespace BlockHeader

def takeChomping : List Char → Chomping × List Char
  | '+' :: rest => (.keep, rest)
  | '-' :: rest => (.strip, rest)
  | text => (.clip, text)

def takeIncrement : List Char → Option (Option Nat × List Char)
  | [] => some (none, [])
  | c :: rest =>
      if c = '0' then none
      else if c.isDigit then some (some (c.toNat - 48), rest)
      else some (none, c :: rest)

/-- Chomping and increment may come in either order. -/
def read (line : List Char) : Option BlockHeader := do
  let (first, rest) := takeChomping line
  let (increment, rest) ← takeIncrement rest
  let (chomping, rest) := if first = .clip then takeChomping rest else (first, rest)
  if isLineEnd rest then some { chomping, increment } else none

end BlockHeader

/-- The text so far. Breaks are put off until the next line shows what they come to, the first one
apart from those of empty lines. -/
structure BlockScalar where
  text : String
  firstBreak : String
  emptyLines : String
  /-- The last line began with a blank. -/
  indented : Bool

namespace BlockScalar

def start : BlockScalar := ⟨"", "", "", false⟩

/-- Begins a line with its first character. Folding spares lines that begin with blanks. -/
def beginLine (folded : Bool) (scalar : BlockScalar) (c : Char) : BlockScalar :=
  let blank := isBlankChar c
  let joined :=
    if folded ∧ scalar.firstBreak = "\n" ∧ !scalar.indented ∧ !blank then
      if scalar.emptyLines = "" then " " else ""
    else
      scalar.firstBreak
  ⟨(scalar.text ++ joined ++ scalar.emptyLines).push c, "", "", blank⟩

def finish (chomping : Chomping) (scalar : BlockScalar) : String :=
  match chomping with
  | .strip => scalar.text
  | .clip => scalar.text ++ scalar.firstBreak
  | .keep => scalar.text ++ scalar.firstBreak ++ scalar.emptyLines

/-- The indentation of a text that does not announce it: that of the first line that is not empty,
unless an empty one before is longer. -/
def detectIndent (column widest : Nat) : List Char → Option Nat
  | [] => some widest
  | c :: rest =>
      if c = ' ' then detectIndent (column + 1) (max widest (column + 1)) rest
      else if c = '\t' then none
      else if isBreak c then detectIndent 0 widest rest
      else some widest

/-- Reads lines indented by `indent`, and returns what follows them. The column is that of the next
character as long as only spaces came before it in its line. -/
def readLines (indent : Nat) (folded : Bool) (scalar : BlockScalar) (column : Option Nat) :
    List Char → Option (BlockScalar × List Char)
  | [] => some (scalar, [])
  | c :: rest =>
      match column with
      | none =>
          if isBreak c then
            readLines indent folded { scalar with firstBreak := c.toString } (some 0) rest
          else
            readLines indent folded { scalar with text := scalar.text.push c } none rest
      | some column =>
          if isBreak c then
            readLines indent folded { scalar with emptyLines := scalar.emptyLines.push c } (some 0)
              rest
          else if indent ≤ column then
            readLines indent folded (scalar.beginLine folded c) none rest
          else if c = ' ' then readLines indent folded scalar (some (column + 1)) rest
          else if c = '\t' then none
          else some (scalar, c :: rest)

/-- Reads a block scalar after its mark, within a collection at column `around`. -/
def read (folded : Bool) (around : Option Nat) (text : List Char) :
    Option (String × List Char) := do
  let header ← BlockHeader.read (text.takeWhile fun c => !isBreak c)
  let body := (text.dropWhile fun c => !isBreak c).drop 1
  let indent ← match header.increment with
    | some increment => some (around.getD 0 + increment)
    | none => do pure (max (← detectIndent 0 0 body) (around.elim 1 (· + 1)))
  let (scalar, rest) ← readLines indent folded start (some 0) body
  return (scalar.finish header.chomping, rest)

end BlockScalar

end Yaml

end AdTargeting
