set_option autoImplicit false

/-
The characters of YAML texts by what they do there. A next line character counts as a line feed
throughout; the separators of lines and paragraphs break lines too, but stay what they are.
-/

namespace AdTargeting

namespace Yaml

def isBlankChar (c : Char) : Bool := c == ' ' || c == '\t'

def isBreak (c : Char) : Bool := c == '\n' || c == '\u2028' || c == '\u2029'

/-- The character ends a word: a blank, a break or the end of the text. -/
def endsWord : Option Char → Bool
  | none => true
  | some c => isBlankChar c || isBreak c

/-- Characters of names: of anchors, handles and directives. -/
def isNameChar (c : Char) : Bool := c.isAlphanum || c == '-' || c == '_'

/-- Characters that may stand in a text at all. -/
def isPrintable (c : Char) : Bool :=
  let code := c.toNat
  code == 0x09 || code == 0x0A || code == 0x0D || (0x20 ≤ code && code ≤ 0x7E) ||
    code == 0x85 || (0xA0 ≤ code && code ≤ 0xFFFD) || 0x10000 ≤ code

/-- The same text with one character for each line break of ASCII or Latin-1. -/
def unifyBreaks : List Char → List Char
  | [] => []
  | '\r' :: '\n' :: rest => '\n' :: unifyBreaks rest
  | c :: rest => (if c = '\r' ∨ c = '\u0085' then '\n' else c) :: unifyBreaks rest

/-- What is left of a line after blanks is nothing or a comment. -/
def isLineEnd (line : List Char) : Bool :=
  match line.dropWhile isBlankChar with
  | [] => true
  | c :: _ => c == '#'

end Yaml

end AdTargeting
