import AdTargeting.Json.Basic

set_option autoImplicit false

/-
Reading JSON texts. A text is cut into tokens character by character, and containers that are not
yet closed wait on a stack.
-/

namespace AdTargeting

namespace Json

inductive Token where
  | openList
  | closeList
  | openObject
  | closeObject
  | comma
  | colon
  | scalar (value : Json)

/-- The value of a row of hexadecimal digits. -/
def hexValue? (digits : List Char) : Option Nat :=
  digits.foldlM (fun value c => (16 * value + ·) <$> hexDigit? c) 0

/-- The character a code unit stands for by itself. -/
def unitChar? (unit : Nat) : Option Char :=
  if unit.isValidChar then some (Char.ofNat unit) else none

/-- The character of a surrogate pair. -/
def pairChar? (high low : Nat) : Option Char :=
  if 0xD800 ≤ high ∧ high < 0xDC00 ∧ 0xDC00 ≤ low ∧ low < 0xE000 then
    some (Char.ofNat (0x10000 + (high - 0xD800) * 0x400 + (low - 0xDC00)))
  else
    none

def escapedChar? : Char → Option Char
  | '"' => some '"'
  | '\\' => some '\\'
  | '/' => some '/'
  | 'b' => some '\x08'
  | 'f' => some '\x0C'
  | 'n' => some '\n'
  | 'r' => some '\r'
  | 't' => some '\t'
  | _ => none

/-- The digits of a number before any point: a zero, or no zero in front. -/
def wellStarted (text : List Char) : Bool :=
  let unsigned := if text.head? = some '-' then text.drop 1 else text
  let whole := unsigned.takeWhile Char.isDigit
  let tail := unsigned.dropWhile Char.isDigit
  whole != [] && (whole.head? != some '0' || whole.length == 1) &&
    (tail.head? != some '.' || (tail.drop 1).head?.any Char.isDigit)

/-- A number in the notation of JSON. Those beyond all doubles are refused. -/
def readNumber (text : List Char) : Option Json :=
  if wellStarted text then
    match Decimal.read text with
    | none => none
    | some decimal =>
        let whole : Int := if decimal.negative then -decimal.coefficient else decimal.coefficient
        let plain := (text.drop 1).all Char.isDigit
        let minusZero := decimal.negative && decimal.coefficient == 0
        if plain ∧ ¬minusZero ∧ -2 ^ 63 ≤ whole ∧ whole < 2 ^ 64 then some (integer whole)
        else
          let double := Double.ofDecimal decimal
          if double.isFinite then some (real double) else none
  else
    none

def readWord (text : List Char) : Option Json :=
  if text = "null".toList then some null
  else if text = "true".toList then some (bool true)
  else if text = "false".toList then some (bool false)
  else readNumber text

def inWord (c : Char) : Bool := c.isAlphanum || c == '+' || c == '-' || c == '.'

/-- Where in a token the text has been cut. A string may wait for the second half of a surrogate
pair. -/
inductive Mode where
  | between
  | word (characters : List Char)
  | string (characters : String) (high : Option Nat)
  | escape (characters : String) (high : Option Nat)
  | unit (characters : String) (high : Option Nat) (digits : List Char)

/-- What a character outside words and strings yields, and how to go on. -/
def punctuation (c : Char) : Option (List Token × Mode) :=
  match c with
  | '[' => some ([.openList], .between)
  | ']' => some ([.closeList], .between)
  | '\x7B' => some ([.openObject], .between)
  | '\x7D' => some ([.closeObject], .between)
  | ',' => some ([.comma], .between)
  | ':' => some ([.colon], .between)
  | '"' => some ([], .string "" none)
  | _ =>
      if c = ' ' ∨ c = '\n' ∨ c = '\t' ∨ c = '\r' then some ([], .between)
      else if inWord c then some ([], .word [c])
      else none

/-- Goes on after a code unit written by its four digits. -/
def afterUnit (characters : String) (high : Option Nat) (unit : Nat) : Option Mode :=
  match high, unitChar? unit with
  | some first, _ => do return .string (characters.push (← pairChar? first unit)) none
  | none, some character => some (.string (characters.push character) none)
  | none, none => if unit < 0xDC00 then some (.string characters (some unit)) else none

def advance (mode : Mode) (c : Char) : Option (List Token × Mode) :=
  match mode with
  | .between => punctuation c
  | .word characters =>
      if inWord c then some ([], .word (characters ++ [c]))
      else do
        let value ← readWord characters
        let (tokens, next) ← punctuation c
        return (.scalar value :: tokens, next)
  | .string characters high =>
      if c = '\\' then some ([], .escape characters high)
      else if high.isSome ∨ c.toNat < 0x20 then none
      else if c = '"' then some ([.scalar (text characters)], .between)
      else some ([], .string (characters.push c) none)
  | .escape characters high =>
      if c = 'u' then some ([], .unit characters high [])
      else if high.isSome then none
      else do return ([], .string (characters.push (← escapedChar? c)) none)
  | .unit characters high digits =>
      if digits.length < 3 then some ([], .unit characters high (digits ++ [c]))
      else do return ([], ← afterUnit characters high (← hexValue? (digits ++ [c])))

def scan : Mode → List Char → Option (List Token)
  | .between, [] => some []
  | .word characters, [] => do return [.scalar (← readWord characters)]
  | _, [] => none
  | mode, c :: rest =>
      match advance mode c with
      | none => none
      | some (tokens, next) => (scan next rest).map (tokens ++ ·)

/-- A container that is not yet closed. -/
inductive Container where
  | list (items : List Json)
  | object (fields : List (String × Json)) (key : String)

/-- What may come next in the innermost container. -/
inductive Expected where
  | value
  | firstItem
  | firstKey
  | key
  | colon
  | separator
deriving DecidableEq

structure Reading where
  enclosing : List Container
  expected : Expected
  finished : Option Json

/-- How many containers may be open at once. -/
def nestingLimit : Nat := 127

namespace Reading

def start : Reading := ⟨[], .value, none⟩

def complete (enclosing : List Container) (value : Json) : Reading :=
  match enclosing with
  | [] => ⟨[], .separator, some value⟩
  | .list items :: outer => ⟨.list (items ++ [value]) :: outer, .separator, none⟩
  | .object fields key :: outer =>
      ⟨.object (fields ++ [(key, value)]) key :: outer, .separator, none⟩

def enter (reading : Reading) (container : Container) (expected : Expected) : Option Reading :=
  if reading.enclosing.length < nestingLimit then
    some ⟨container :: reading.enclosing, expected, none⟩
  else
    none

def step (reading : Reading) (token : Token) : Option Reading :=
  match reading.expected, token, reading.enclosing with
  | .value, .scalar value, enclosing => some (complete enclosing value)
  | .firstItem, .scalar value, enclosing => some (complete enclosing value)
  | .value, .openList, _ => reading.enter (.list []) .firstItem
  | .firstItem, .openList, _ => reading.enter (.list []) .firstItem
  | .value, .openObject, _ => reading.enter (.object [] "") .firstKey
  | .firstItem, .openObject, _ => reading.enter (.object [] "") .firstKey
  | .firstKey, .scalar (.text key), .object fields _ :: outer =>
      some ⟨.object fields key :: outer, .colon, none⟩
  | .key, .scalar (.text key), .object fields _ :: outer =>
      some ⟨.object fields key :: outer, .colon, none⟩
  | .colon, .colon, enclosing => some ⟨enclosing, .value, none⟩
  | .separator, .comma, .list items :: outer => some ⟨.list items :: outer, .value, none⟩
  | .separator, .comma, .object fields key :: outer =>
      some ⟨.object fields key :: outer, .key, none⟩
  | .firstItem, .closeList, .list items :: outer => some (complete outer (.list items))
  | .separator, .closeList, .list items :: outer => some (complete outer (.list items))
  | .firstKey, .closeObject, .object fields _ :: outer => some (complete outer (.object fields))
  | .separator, .closeObject, .object fields _ :: outer => some (complete outer (.object fields))
  | _, _, _ => none

end Reading

/-- The value of a JSON text with nothing but white space around it. -/
def read (source : String) : Option Json := do
  let tokens ← scan .between source.toList
  let reading ← tokens.foldlM Reading.step Reading.start
  reading.finished

end Json

end AdTargeting
