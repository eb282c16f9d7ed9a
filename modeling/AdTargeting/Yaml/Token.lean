import AdTargeting.Yaml.BlockScalar
import AdTargeting.Yaml.Folding
import AdTargeting.Yaml.Tag

set_option autoImplicit false

/-
Cutting YAML texts into tokens. Indentation becomes explicit tokens for the start and end of block
collections. Whether a token is the key of a mapping shows only at a later colon, so a candidate
remembers where the key token would stand.
-/

namespace AdTargeting

namespace Yaml

/-- How a scalar is written. -/
inductive Style where
  | plain
  | quoted
  | literal
  | folded
deriving DecidableEq

inductive Token where
  | scalar (text : String) (style : Style)
  | anchor (name : String)
  /-- Stands for the node that has the anchor. -/
  | reference (name : String)
  | tag (tag : Tag)
  | directive (directive : Directive)
  | blockSequenceStart
  | blockMappingStart
  | blockEnd
  | blockEntry
  | key
  | value
  | flowSequenceStart
  | flowSequenceEnd
  | flowMappingStart
  | flowMappingEnd
  | flowEntry
  | documentStart
  | documentEnd
deriving DecidableEq

structure Place where
  line : Nat
  column : Nat
  /-- The bytes before it, which are counted within a line only. -/
  offset : Nat

def Place.next (place : Place) (c : Char) : Place :=
  if isBreak c then ⟨place.line + 1, 0, place.offset + c.utf8Size⟩
  else ⟨place.line, place.column + 1, place.offset + c.utf8Size⟩

/-- A token that a later colon may make a key. -/
structure Candidate where
  /-- The token begins a line of a block mapping, where nothing but a key can stand. -/
  required : Bool
  /-- How many tokens come before it. -/
  earlier : Nat
  place : Place

inductive Mode where
  | between
  | comment
  /-- So many characters belong to the token before them. -/
  | ignore (count : Nat)
  | plain (collected : Collected)
  | single (collected : Collected)
  /-- The second of two quotes that stand for one. -/
  | secondQuote (collected : Collected)
  | double (collected : Collected)
  | escape (collected : Collected)
  /-- An escape that has so many digits to come. -/
  | digits (collected : Collected) (value : Nat) (remaining : Nat)

structure Scanner where
  place : Place
  mode : Mode
  /-- Columns of the open block collections, innermost first. -/
  indents : List Nat
  candidate : Option Candidate
  /-- Candidates outside each open flow collection, innermost first. -/
  outer : List (Option Candidate)
  keyAllowed : Bool
  /-- The tokens so far, last first. -/
  tokens : List Token
  /-- How many tokens there are. -/
  emitted : Nat

namespace Scanner

def start : Scanner := ⟨⟨0, 0, 0⟩, .between, [], none, [], true, [], 0⟩

def inFlow (scanner : Scanner) : Bool := !scanner.outer.isEmpty

def emit (scanner : Scanner) (token : Token) : Scanner :=
  { scanner with tokens := token :: scanner.tokens, emitted := scanner.emitted + 1 }

/-- A candidate must be on the same line and no more than 1024 bytes away. -/
def fresh (scanner : Scanner) (candidate : Candidate) : Bool :=
  candidate.place.line == scanner.place.line &&
    scanner.place.offset ≤ candidate.place.offset + 1024

/-- Gives up a candidate, unless it had to be a key. -/
def dropCandidate : Option Candidate → Option (Option Candidate)
  | some candidate => if candidate.required then none else some none
  | none => some none

def dropStale (scanner : Scanner) : Option Scanner := do
  let check (candidate : Option Candidate) : Option (Option Candidate) :=
    match candidate with
    | some known => if scanner.fresh known then some (some known) else dropCandidate candidate
    | none => some none
  return { scanner with
    candidate := ← check scanner.candidate
    outer := ← scanner.outer.mapM check }

def forgetKey (scanner : Scanner) : Option Scanner := do
  return { scanner with candidate := ← dropCandidate scanner.candidate }

def saveKey (scanner : Scanner) : Option Scanner :=
  if scanner.keyAllowed then do
    let cleared ← scanner.forgetKey
    let required := !scanner.inFlow && scanner.indents.head? == some scanner.place.column
    return { cleared with
      candidate := some ⟨required, scanner.emitted, scanner.place⟩ }
  else
    some scanner

/-- Closes block collections as long as their columns are as asked. -/
def close (scanner : Scanner) (ended : Nat → Bool) : Scanner :=
  if scanner.inFlow then scanner
  else
    let closed := scanner.indents.takeWhile ended
    { scanner with
      indents := scanner.indents.dropWhile ended
      tokens := closed.map (fun _ => Token.blockEnd) ++ scanner.tokens
      emitted := scanner.emitted + closed.length }

/-- Closes the block collections that are indented deeper than `column`. -/
def unroll (scanner : Scanner) (column : Nat) : Scanner := scanner.close (column < ·)

def unrollAll (scanner : Scanner) : Scanner := scanner.close fun _ => true

/-- Whether a token at `column` begins a block collection. -/
def deeper (scanner : Scanner) (column : Nat) : Bool :=
  !scanner.inFlow && scanner.indents.head?.all (· < column)

/-- Begins a block collection where the next token stands, if that is deeper than all open ones. -/
def roll (scanner : Scanner) (token : Token) : Scanner :=
  let column := scanner.place.column
  if scanner.deeper column then
    { scanner.emit token with indents := column :: scanner.indents }
  else
    scanner

/-- Passes over characters that have been read already. -/
def skip (scanner : Scanner) (count : Nat) : Scanner :=
  { scanner with mode := if count = 0 then .between else .ignore count }

/-- Puts tokens after the first `earlier` ones. -/
def insert (scanner : Scanner) (earlier : Nat) (added : List Token) : Scanner :=
  let later := scanner.emitted - earlier
  { scanner with
    tokens := scanner.tokens.take later ++ added.reverse ++ scanner.tokens.drop later
    emitted := scanner.emitted + added.length }

def documentMark (scanner : Scanner) (token : Token) : Option Scanner := do
  let cleared ← scanner.unrollAll.forgetKey
  return { (cleared.emit token).skip 2 with keyAllowed := false }

def openFlow (scanner : Scanner) (token : Token) : Option Scanner := do
  let saved ← scanner.saveKey
  return { saved.emit token with
    outer := saved.candidate :: saved.outer
    candidate := none
    keyAllowed := true }

def closeFlow (scanner : Scanner) (token : Token) : Option Scanner := do
  let cleared ← scanner.forgetKey
  let closed := { cleared.emit token with keyAllowed := false }
  match closed.outer with
  | candidate :: outer => return { closed with candidate, outer }
  | [] => return closed

def flowEntry (scanner : Scanner) : Option Scanner := do
  let cleared ← scanner.forgetKey
  return { cleared.emit .flowEntry with keyAllowed := true }

def blockEntry (scanner : Scanner) : Option Scanner := do
  if !scanner.inFlow && !scanner.keyAllowed then none
  let cleared ← (scanner.roll .blockSequenceStart).forgetKey
  return { cleared.emit .blockEntry with keyAllowed := true }

/-- A question mark announces a key of any kind. -/
def keyMark (scanner : Scanner) : Option Scanner := do
  if !scanner.inFlow && !scanner.keyAllowed then none
  let cleared ← (scanner.roll .blockMappingStart).forgetKey
  return { cleared.emit .key with keyAllowed := !scanner.inFlow }

/-- A colon makes the candidate before it a key. Without one it follows an announced key. -/
def valueMark (scanner : Scanner) : Option Scanner :=
  match scanner.candidate with
  | some candidate =>
      let column := candidate.place.column
      let opened := scanner.deeper column
      let added := if opened then [Token.blockMappingStart, .key] else [.key]
      some { (scanner.insert candidate.earlier added).emit .value with
        indents := if opened then column :: scanner.indents else scanner.indents
        candidate := none
        keyAllowed := false }
  | none =>
      if scanner.inFlow then some { scanner.emit .value with keyAllowed := false }
      else if scanner.keyAllowed then
        some { (scanner.roll .blockMappingStart).emit .value with keyAllowed := true }
      else
        none

/-- A name that ends where a token can end. -/
def takeName (text : List Char) : Option (String × Nat) :=
  let name := text.takeWhile isNameChar
  let next := (text.dropWhile isNameChar).head?
  if name ≠ [] ∧ (endsWord next ∨
      next.any fun c => ['?', ':', ',', ']', '\x7D', '%', '@', '\x60'].contains c) then
    some (String.ofList name, name.length)
  else
    none

def named (scanner : Scanner) (token : String → Token) (rest : List Char) : Option Scanner := do
  let (name, length) ← takeName rest
  let saved ← scanner.saveKey
  return { (saved.emit (token name)).skip length with keyAllowed := false }

def tagMark (scanner : Scanner) (rest : List Char) : Option Scanner := do
  let (tag, after) ← Tag.read rest
  if endsWord after.head? ∨ (scanner.inFlow ∧ after.head? = some ',') then
    let saved ← scanner.saveKey
    return { (saved.emit (.tag tag)).skip (rest.length - after.length) with keyAllowed := false }
  else none

def blockScalar (scanner : Scanner) (style : Style) (rest : List Char) : Option Scanner := do
  let cleared ← scanner.forgetKey
  let (text, after) ← BlockScalar.read (style = .folded) scanner.indents.head? rest
  return { (cleared.emit (.scalar text style)).skip (rest.length - after.length) with
    keyAllowed := true }

/-- A directive takes the whole line. -/
def directiveMark (scanner : Scanner) (rest : List Char) : Option Scanner := do
  let line := rest.takeWhile fun c => !isBreak c
  let directive ← Directive.read line
  let cleared ← scanner.unrollAll.forgetKey
  return { (cleared.emit (.directive directive)).skip line.length with keyAllowed := false }

/-- Three equal characters at the start of a line, standing alone. -/
def atMark (scanner : Scanner) (mark c : Char) (rest : List Char) : Bool :=
  scanner.place.column == 0 && c == mark && rest.take 2 == [mark, mark] &&
    endsWord (rest.drop 2).head?

def atDocumentMark (scanner : Scanner) (c : Char) (rest : List Char) : Bool :=
  scanner.atMark '-' c rest || scanner.atMark '.' c rest

def startScalar (scanner : Scanner) (mode : Mode) : Option Scanner := do
  let saved ← scanner.saveKey
  return { saved with keyAllowed := false, mode }

/-- Whether a character, given the next one, can begin a plain scalar. -/
def beginsPlain (flow : Bool) (c : Char) (next : Option Char) : Bool :=
  match c with
  | '-' => !endsWord next
  | '?' | ':' => !flow && !endsWord next
  | ',' | '[' | ']' | '\x7B' | '\x7D' | '#' | '&' | '*' | '!' | '|' | '>' | '\'' | '"' | '%'
  | '@' | '\x60' => false
  | _ => !endsWord (some c)

def token (scanner : Scanner) (c : Char) (rest : List Char) : Option Scanner := do
  let current := (← scanner.dropStale).unroll scanner.place.column
  let next := rest.head?
  if c = '%' ∧ current.place.column = 0 then current.directiveMark rest
  else if current.atMark '-' c rest then current.documentMark .documentStart
  else if current.atMark '.' c rest then current.documentMark .documentEnd
  else if c = '[' then current.openFlow .flowSequenceStart
  else if c = '\x7B' then current.openFlow .flowMappingStart
  else if c = ']' then current.closeFlow .flowSequenceEnd
  else if c = '\x7D' then current.closeFlow .flowMappingEnd
  else if c = ',' then current.flowEntry
  else if c = '-' ∧ endsWord next then current.blockEntry
  else if c = '?' ∧ (current.inFlow ∨ endsWord next) then current.keyMark
  else if c = ':' ∧ (current.inFlow ∨ endsWord next) then current.valueMark
  else if c = '*' then current.named .reference rest
  else if c = '&' then current.named .anchor rest
  else if c = '!' then current.tagMark rest
  else if c = '|' ∧ !current.inFlow then current.blockScalar .literal rest
  else if c = '>' ∧ !current.inFlow then current.blockScalar .folded rest
  else if c = '\'' then current.startScalar (.single .start)
  else if c = '"' then current.startScalar (.double .start)
  else if beginsPlain current.inFlow c next then
    current.startScalar (.plain (Collected.start.push c))
  else none

def between (scanner : Scanner) (c : Char) (rest : List Char) : Option Scanner :=
  if c = '\uFEFF' ∧ scanner.place.column = 0 then some scanner
  else if c = ' ' ∨ (c = '\t' ∧ (scanner.inFlow ∨ !scanner.keyAllowed)) then some scanner
  else if c = '#' then some { scanner with mode := .comment }
  else if isBreak c then
    some { scanner with keyAllowed := scanner.keyAllowed || !scanner.inFlow }
  else scanner.token c rest

/-- A plain scalar that ran over a line break may be followed by a key. -/
def endPlain (scanner : Scanner) (collected : Collected) : Scanner :=
  { scanner.emit (.scalar collected.text .plain) with
    keyAllowed := scanner.keyAllowed || collected.breaks.isSome
    mode := .between }

/-- Whether a plain scalar ends before a character that is neither blank nor a break. -/
def plainEnds (scanner : Scanner) (collected : Collected) (c : Char) (rest : List Char) : Bool :=
  let afterSpace := collected.blanks != "" || collected.breaks.isSome
  (afterSpace && (c == '#' || scanner.atDocumentMark c rest ||
      (!scanner.inFlow && scanner.indents.head?.any (scanner.place.column ≤ ·)))) ||
    (c == ':' && endsWord rest.head?) ||
    (scanner.inFlow && (c == ',' || c == '[' || c == ']' || c == '\x7B' || c == '\x7D'))

/-- A colon directly before a flow indicator is neither text nor a value mark. -/
def ambiguousColon (scanner : Scanner) (c : Char) (rest : List Char) : Bool :=
  scanner.inFlow && c == ':' &&
    rest.head?.any fun next =>
      next == ',' || next == '?' || next == '[' || next == ']' || next == '\x7B' || next == '\x7D'

def plainChar (scanner : Scanner) (collected : Collected) (c : Char) (rest : List Char) :
    Option Scanner :=
  if isBreak c then some { scanner with mode := .plain (collected.addBreak c) }
  else if isBlankChar c then
    if c = '\t' ∧ collected.breaks.isSome ∧
        scanner.indents.head?.any (scanner.place.column ≤ ·) then
      none
    else
      some { scanner with mode := .plain (collected.addBlank c) }
  else if scanner.plainEnds collected c rest then (scanner.endPlain collected).between c rest
  else if scanner.ambiguousColon c rest then none
  else some { scanner with mode := .plain (collected.push c) }

def endQuoted (scanner : Scanner) (collected : Collected) : Scanner :=
  { scanner.emit (.scalar collected.flush.text .quoted) with mode := .between }

def singleChar (scanner : Scanner) (collected : Collected) (c : Char) (rest : List Char) :
    Option Scanner :=
  if isBreak c then some { scanner with mode := .single (collected.addBreak c) }
  else if isBlankChar c then some { scanner with mode := .single (collected.addBlank c) }
  else if scanner.atDocumentMark c rest then none
  else if c = '\'' then
    if rest.head? = some '\'' then some { scanner with mode := .secondQuote (collected.push '\'') }
    else some (scanner.endQuoted collected)
  else some { scanner with mode := .single (collected.push c) }

def doubleChar (scanner : Scanner) (collected : Collected) (c : Char) (rest : List Char) :
    Option Scanner :=
  if isBreak c then some { scanner with mode := .double (collected.addBreak c) }
  else if isBlankChar c then some { scanner with mode := .double (collected.addBlank c) }
  else if scanner.atDocumentMark c rest then none
  else if c = '"' then some (scanner.endQuoted collected)
  else if c = '\\' then some { scanner with mode := .escape collected.flush }
  else some { scanner with mode := .double (collected.push c) }

def escapedChar? : Char → Option Char
  | '0' => some '\x00'
  | 'a' => some '\x07'
  | 'b' => some '\x08'
  | 't' => some '\t'
  | '\t' => some '\t'
  | 'n' => some '\n'
  | 'v' => some '\x0B'
  | 'f' => some '\x0C'
  | 'r' => some '\r'
  | 'e' => some '\x1B'
  | ' ' => some ' '
  | '"' => some '"'
  | '/' => some '/'
  | '\\' => some '\\'
  | 'N' => some '\u0085'
  | '_' => some '\u00A0'
  | 'L' => some '\u2028'
  | 'P' => some '\u2029'
  | _ => none

/-- How many digits follow the letter of a numeric escape. -/
def escapeDigits? : Char → Option Nat
  | 'x' => some 2
  | 'u' => some 4
  | 'U' => some 8
  | _ => none

def escapeChar (scanner : Scanner) (collected : Collected) (c : Char) : Option Scanner :=
  if isBreak c then some { scanner with mode := .double collected.escapeBreak }
  else
    match escapeDigits? c with
    | some count => some { scanner with mode := .digits collected 0 count }
    | none => do
        return { scanner with mode := .double (collected.push (← escapedChar? c)) }

def numericChar (scanner : Scanner) (collected : Collected) (value remaining : Nat) (c : Char) :
    Option Scanner := do
  let value := 16 * value + (← hexDigit? c)
  if 1 < remaining then
    return { scanner with mode := .digits collected value (remaining - 1) }
  else if value.isValidChar then
    return { scanner with mode := .double (collected.push (Char.ofNat value)) }
  else
    none

/-- Takes one character, given those after it. -/
def advance (scanner : Scanner) (c : Char) (rest : List Char) : Option Scanner := do
  let taken ← match scanner.mode with
    | .between => scanner.between c rest
    | .comment =>
        if isBreak c then ({ scanner with mode := .between } : Scanner).between c rest
        else some scanner
    | .ignore count =>
        some { scanner with mode := if count ≤ 1 then .between else .ignore (count - 1) }
    | .plain collected => scanner.plainChar collected c rest
    | .single collected => scanner.singleChar collected c rest
    | .secondQuote collected => some { scanner with mode := .single collected }
    | .double collected => scanner.doubleChar collected c rest
    | .escape collected => scanner.escapeChar collected c
    | .digits collected value remaining => scanner.numericChar collected value remaining c
  return { taken with place := scanner.place.next c }

/-- All tokens, once the text has ended. -/
def finish (scanner : Scanner) : Option (List Token) := do
  let ended ← match scanner.mode with
    | .between | .comment | .ignore _ => some scanner
    | .plain collected => some (scanner.endPlain collected)
    | _ => none
  let closed ← ended.unrollAll.forgetKey
  return closed.tokens.reverse

def scan : Scanner → List Char → Option (List Token)
  | scanner, [] => scanner.finish
  | scanner, c :: rest =>
      match scanner.advance c rest with
      | some next => scan next rest
      | none => none

end Scanner

def Token.ofText? (source : String) : Option (List Token) :=
  if source.toList.all isPrintable then Scanner.scan .start (unifyBreaks source.toList) else none

end Yaml

end AdTargeting
