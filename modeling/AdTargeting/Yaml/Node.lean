import AdTargeting.Yaml.Token

set_option autoImplicit false

/-
Trees of YAML documents. A scalar that is missing where one could stand is the empty plain one, and
a reference holds the number of the anchor it names.
-/

namespace AdTargeting

namespace Yaml

/-- What a tag says of a node. -/
inductive NodeType where
  | null
  | bool
  | int
  | float
  /-- A type of a document's own. -/
  | own
  | other
deriving DecidableEq

/-- Tags of the common types have names of their own, and those of documents begin with an
exclamation mark. -/
def NodeType.ofTag (tag : String) : NodeType :=
  if tag = "tag:yaml.org,2002:null" then null
  else if tag = "tag:yaml.org,2002:bool" then bool
  else if tag = "tag:yaml.org,2002:int" then int
  else if tag = "tag:yaml.org,2002:float" then float
  else if tag.startsWith "!" then own
  else other

structure Scalar where
  text : String
  style : Style
  type : Option NodeType
deriving DecidableEq

inductive Node where
  | scalar (scalar : Scalar)
  | sequence (type : Option NodeType) (items : List Node)
  /-- The entries as written, repeated keys included. -/
  | mapping (type : Option NodeType) (entries : List (Node × Node))
  /-- The node whose anchor has a number. -/
  | reference (number : Nat)

def Node.missing : Node := .scalar ⟨"", .plain, none⟩

/-- What is left of a document, with what has been said about it so far. -/
structure Reading where
  tokens : List Token
  /-- Tag handles with their meanings. -/
  handles : List (String × String)
  /-- Anchors with their numbers, each anchor once. -/
  numbers : List (String × Nat)
  /-- Nodes with anchors by their numbers, in the order in which they begin. A collection is missing
  until it is complete. -/
  anchored : Array (Nat × Node)

abbrev Reader := StateT Reading Option

namespace Reader

def next? : Reader (Option Token) := do return (← get).tokens.head?

def skip : Reader Unit := modify fun reading => { reading with tokens := reading.tokens.drop 1 }

/-- The next token is one of some, which show that nothing is written before them. -/
def atAny (ends : List Token) : Reader Bool := do return (← next?).any ends.contains

/-- Gives a place among the anchored nodes to one that begins. Its number is how many anchors there
are: an anchor that is there already gets a number that the next new one gets as well. -/
def announce (anchor : String) : Reader Nat :=
  modifyGet fun reading =>
    let number := reading.numbers.length
    (reading.anchored.size,
      { reading with
        numbers := (anchor, number) :: reading.numbers.filter (·.1 ≠ anchor)
        anchored := reading.anchored.push (number, .missing) })

/-- Puts a complete node into its place. -/
def complete (place : Nat) (node : Node) : Reader Unit :=
  modify fun reading =>
    { reading with anchored := reading.anchored.modify place fun entry => (entry.1, node) }

def refer (anchor : String) : Reader Node := do
  return .reference (← (← get).numbers.lookup anchor)

/-- A tag in full. -/
def resolve (tag : Tag) : Reader String := do
  if tag.handle = "" then return tag.suffix
  else return (← (← get).handles.lookup tag.handle) ++ tag.suffix

def anchor? : Reader (Option String) := do
  match ← next? with
  | some (.anchor name) => do
      skip
      return some name
  | _ => return none

def tag? : Reader (Option String) := do
  match ← next? with
  | some (.tag tag) => do
      skip
      return some (← resolve tag)
  | _ => return none

/-- The anchor and the tag before a node, in either order. -/
def properties : Reader (Option String × Option String) := do
  let anchor ← anchor?
  let tag ← tag?
  let anchor ← match anchor with
    | some name => pure (some name)
    | none => anchor?
  return (anchor, tag)

end Reader

namespace Node

open Reader

/-- A lone exclamation mark leaves the type of a scalar open. -/
def ofScalar (text : String) (style : Style) (tag : Option String) : Node :=
  scalar ⟨text, style, if tag = some "!" then none else tag.map .ofTag⟩

mutual

/-- Reads one node. A sequence without indentation of its own is only read where a mapping allows
it. The first argument bounds how many nodes and entries are read one inside or after another. -/
def read : Nat → Bool → Bool → Reader Node
  | 0, _, _ => failure
  | fuel + 1, block, indentless => do
      match ← next? with
      | some (.reference name) =>
          skip
          refer name
      | _ =>
          let (anchor, tag) ← properties
          let place ← anchor.mapM announce
          let node ← readContent fuel block indentless (anchor.isSome || tag.isSome) tag
          place.forM (complete · node)
          return node

/-- Reads a node after its properties. With any of them it may be missing. -/
def readContent : Nat → Bool → Bool → Bool → Option String → Reader Node
  | 0, _, _, _, _ => failure
  | fuel + 1, block, indentless, announced, tag => do
      let type := tag.map NodeType.ofTag
      match ← next?, block, indentless with
      | some (.scalar text style), _, _ =>
          skip
          return ofScalar text style tag
      | some .flowSequenceStart, _, _ =>
          skip
          return sequence type (← readFlowItems fuel true)
      | some .flowMappingStart, _, _ =>
          skip
          return mapping type (← readFlowEntries fuel true)
      | some .blockEntry, _, true => return sequence type (← readIndentlessItems fuel)
      | some .blockSequenceStart, true, _ =>
          skip
          return sequence type (← readBlockItems fuel)
      | some .blockMappingStart, true, _ =>
          skip
          return mapping type (← readBlockEntries fuel)
      | _, _, _ => if announced then return scalar ⟨"", .plain, type⟩ else failure

def readUnless : Nat → List Token → Bool → Bool → Reader Node
  | 0, _, _, _ => failure
  | fuel + 1, ends, block, indentless => do
      if ← atAny ends then return missing else read fuel block indentless

def readBlockItems : Nat → Reader (List Node)
  | 0 => failure
  | fuel + 1 => do
      match ← next? with
      | some .blockEntry =>
          skip
          let item ← readUnless fuel [.blockEntry, .blockEnd] true false
          return item :: (← readBlockItems fuel)
      | some .blockEnd =>
          skip
          return []
      | _ => failure

def readIndentlessItems : Nat → Reader (List Node)
  | 0 => failure
  | fuel + 1 => do
      match ← next? with
      | some .blockEntry =>
          skip
          let item ← readUnless fuel [.blockEntry, .key, .value, .blockEnd] true false
          return item :: (← readIndentlessItems fuel)
      | _ => return []

/-- Reads the value of an entry, which is missing when no value mark follows the key. -/
def readValue : Nat → List Token → Bool → Bool → Reader Node
  | 0, _, _, _ => failure
  | fuel + 1, ends, block, indentless => do
      match ← next? with
      | some .value =>
          skip
          readUnless fuel ends block indentless
      | _ => return missing

def readBlockEntries : Nat → Reader (List (Node × Node))
  | 0 => failure
  | fuel + 1 => do
      match ← next? with
      | some .key =>
          skip
          let key ← readUnless fuel [.key, .value, .blockEnd] true true
          let value ← readValue fuel [.key, .value, .blockEnd] true true
          return (key, value) :: (← readBlockEntries fuel)
      | some .blockEnd =>
          skip
          return []
      | _ => failure

/-- Reads the items of a flow sequence up to its end. -/
def readFlowItems : Nat → Bool → Reader (List Node)
  | 0, _ => failure
  | fuel + 1, first => do
      match ← next?, first with
      | some .flowSequenceEnd, _ =>
          skip
          return []
      | _, true => readFlowItem fuel
      | some .flowEntry, false =>
          skip
          if ← atAny [.flowSequenceEnd] then
            skip
            return []
          else readFlowItem fuel
      | _, false => failure

/-- Reads an item and those after it. A key in an item stands for a mapping of a single entry; where
that key is missing, the token that shows it is passed over. -/
def readFlowItem : Nat → Reader (List Node)
  | 0 => failure
  | fuel + 1 => do
      let ends := [Token.flowEntry, .flowSequenceEnd]
      let item ← match ← next? with
        | some .key => do
            skip
            let bare ← atAny (.value :: ends)
            let key ← readUnless fuel (.value :: ends) false false
            if bare then skip
            let value ← readValue fuel ends false false
            pure (mapping none [(key, value)])
        | _ => read fuel false false
      return item :: (← readFlowItems fuel false)

/-- Reads the entries of a flow mapping up to its end. -/
def readFlowEntries : Nat → Bool → Reader (List (Node × Node))
  | 0, _ => failure
  | fuel + 1, first => do
      match ← next?, first with
      | some .flowMappingEnd, _ =>
          skip
          return []
      | _, true => readFlowEntry fuel
      | some .flowEntry, false =>
          skip
          if ← atAny [.flowMappingEnd] then
            skip
            return []
          else readFlowEntry fuel
      | _, false => failure

def readFlowEntry : Nat → Reader (List (Node × Node))
  | 0 => failure
  | fuel + 1 => do
      let ends := [Token.flowEntry, .flowMappingEnd]
      let entry ← match ← next? with
        | some .key => do
            skip
            let key ← readUnless fuel (.value :: ends) false false
            pure (key, ← readValue fuel ends false false)
        | _ => do pure (← read fuel false false, missing)
      return entry :: (← readFlowEntries fuel false)

end

/-- Enough for a row of tokens: between two tokens taken there are few steps. -/
def fuelFor (tokens : List Token) : Nat := 8 * tokens.length + 8

end Node

end Yaml

end AdTargeting
