import AdTargeting.Decimal.Digits
import AdTargeting.Yaml.Character

set_option autoImplicit false

/-
The spelling of tags, and of the directives that give a document its version and its tag handles. A
tag is a handle with a suffix; the handle stands for what the document says it does.
-/

namespace AdTargeting

namespace Yaml

/-- A tag as written. A tag without a handle is its suffix alone. -/
structure Tag where
  handle : String
  suffix : String
deriving DecidableEq

inductive Directive where
  | version (major minor : Nat)
  | handle (name meaning : String)
deriving DecidableEq

namespace Tag

/-- Characters of tags. Between angle brackets there may be flow indicators, too. -/
def isTagChar (bracketed : Bool) (c : Char) : Bool :=
  isNameChar c || [';', '/', '?', ':', '@', '&', '=', '+', '$', '.', '!', '~', '*', '\'', '(',
    ')', '%'].contains c || (bracketed && [',', '[', ']'].contains c)

/-- How many bytes the code of a character has that begins with this one. -/
def sequenceLength? (octet : Nat) : Option Nat :=
  if octet < 0x80 then some 1
  else if octet < 0xC0 then none
  else if octet < 0xE0 then some 2
  else if octet < 0xF0 then some 3
  else if octet < 0xF8 then some 4
  else none

/-- Replaces escaped bytes, each by the character of its number. The first argument counts the
escaped bytes that have to follow. -/
def unescape : Nat → List Char → Option (List Char)
  | 0, [] => some []
  | _ + 1, [] => none
  | owed, '%' :: high :: low :: rest => do
      let octet := 16 * (← hexDigit? high) + (← hexDigit? low)
      let after ← match owed with
        | 0 => do pure ((← sequenceLength? octet) - 1)
        | more + 1 => if 0x80 ≤ octet ∧ octet < 0xC0 then some more else none
      return Char.ofNat octet :: (← unescape after rest)
  | 0, c :: rest => if c = '%' then none else do return c :: (← unescape 0 rest)
  | _ + 1, _ :: _ => none

/-- The characters of a tag at the start of a text, and what follows them. -/
def takeSuffix (bracketed : Bool) (text : List Char) : Option (List Char × List Char) := do
  return (← unescape 0 (text.takeWhile (isTagChar bracketed)),
    text.dropWhile (isTagChar bracketed))

/-- Reads a tag after its exclamation mark. -/
def read : List Char → Option (Tag × List Char)
  | '<' :: text => do
      match ← takeSuffix true text with
      | ([], _) => none
      | (suffix, '>' :: rest) => some (⟨"", String.ofList suffix⟩, rest)
      | _ => none
  | text => do
      let name := text.takeWhile isNameChar
      match text.dropWhile isNameChar with
      | '!' :: after => do
          match ← takeSuffix false after with
          | ([], _) => none
          | (suffix, rest) =>
              some (⟨"!" ++ String.ofList name ++ "!", String.ofList suffix⟩, rest)
      | after => do
          let (more, rest) ← takeSuffix false after
          if name ++ more = [] then return (⟨"", "!"⟩, rest)
          else return (⟨"!", String.ofList (name ++ more)⟩, rest)

end Tag

namespace Directive

/-- Numbers of versions have nine digits at most. -/
def takeNumber (text : List Char) : Option (Nat × List Char) :=
  let digits := text.takeWhile Char.isDigit
  if digits = [] ∨ 9 < digits.length then none
  else some (digitsValue digits, text.dropWhile Char.isDigit)

def readVersion (text : List Char) : Option Directive := do
  let (major, rest) ← takeNumber text
  match rest with
  | '.' :: rest => do
      let (minor, rest) ← takeNumber rest
      if isLineEnd rest then some (version major minor) else none
  | _ => none

/-- A handle is an exclamation mark, alone or with another one after a name. -/
def takeHandle : List Char → Option (String × List Char)
  | '!' :: text =>
      let name := text.takeWhile isNameChar
      match text.dropWhile isNameChar with
      | '!' :: rest => some ("!" ++ String.ofList name ++ "!", rest)
      | rest => if name = [] then some ("!", rest) else none
  | _ => none

def readHandle (text : List Char) : Option Directive := do
  let (name, rest) ← takeHandle text
  if rest.head?.any isBlankChar then
    match ← Tag.takeSuffix true (rest.dropWhile isBlankChar) with
    | ([], _) => none
    | (meaning, rest) =>
        if endsWord rest.head? ∧ isLineEnd rest then
          some (handle name (String.ofList meaning))
        else none
  else none

/-- Reads the line of a directive after its percent sign. -/
def read (line : List Char) : Option Directive :=
  let name := line.takeWhile isNameChar
  let rest := line.dropWhile isNameChar
  if !endsWord rest.head? then none
  else if name = "YAML".toList then readVersion (rest.dropWhile isBlankChar)
  else if name = "TAG".toList then readHandle (rest.dropWhile isBlankChar)
  else none

end Directive

end Yaml

end AdTargeting
