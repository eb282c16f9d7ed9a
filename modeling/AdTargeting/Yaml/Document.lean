import AdTargeting.Yaml.Node

set_option autoImplicit false

/-
Documents: a text holds exactly one. References are kept as they are written, so a document is no
larger than its text whatever refers to what.
-/

namespace AdTargeting

namespace Yaml

/-- What the directives before a document say. -/
structure Preamble where
  hasVersion : Bool
  handles : List (String × String)

namespace Preamble

def start : Preamble := ⟨false, []⟩

/-- Nothing may be said twice, and documents of other versions are not read. -/
def add (preamble : Preamble) : Directive → Option Preamble
  | .version major minor =>
      if preamble.hasVersion ∨ major ≠ 1 ∨ (minor ≠ 1 ∧ minor ≠ 2) then none
      else some { preamble with hasVersion := true }
  | .handle name meaning =>
      if (preamble.handles.lookup name).isSome then none
      else some { preamble with handles := (name, meaning) :: preamble.handles }

def take (preamble : Preamble) : List Token → Option (Preamble × List Token)
  | .directive directive :: rest => do (← preamble.add directive).take rest
  | tokens => some (preamble, tokens)

/-- Handles that need no directive. -/
def usualHandles : List (String × String) := [("!", "!"), ("!!", "tag:yaml.org,2002:")]

end Preamble

structure Document where
  root : Node
  /-- Nodes by the numbers of their anchors, the last one that begins first. -/
  anchored : List (Nat × Node)

namespace Document

open Reader Node

/-- The content of a document that may be missing after its start mark. -/
def readRoot (marked : Bool) : Reader Node := do
  let tokens := (← get).tokens
  if tokens.isEmpty ∨ (← atAny [.documentStart, .documentEnd]) then
    if marked then return missing else failure
  else
    Node.read (fuelFor tokens) true false

/-- The only document of a row of tokens. -/
def ofTokens? (tokens : List Token) : Option Document := do
  let (preamble, content) ← Preamble.start.take tokens
  let marked := content.head? = some .documentStart
  if !marked && content.length < tokens.length then none
  let (root, rest) ← (readRoot marked).run
    { tokens := if marked then content.drop 1 else content
      handles := preamble.handles ++ Preamble.usualHandles
      numbers := []
      anchored := #[] }
  if (rest.tokens.dropWhile (· = .documentEnd)).isEmpty then
    some { root, anchored := rest.anchored.toList.reverse }
  else none

def ofText? (source : String) : Option Document := do ofTokens? (← Token.ofText? source)

end Document

end Yaml

end AdTargeting
