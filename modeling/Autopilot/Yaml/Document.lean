import Autopilot.Yaml.Token

/-!
From tokens to a document: a node, and the nodes that bear an anchor. An anchor's
number is the count of names before it, so that a name used again shares its number
with the next new name; a reference means the last node of its number.
-/

namespace Autopilot.Yaml

inductive Node where
  | reference (anchor : Nat)
  | scalar (tag : Option String) (text : String) (plain : Bool)
  | sequence (tag : Option String) (items : List Node)
  | mapping (tag : Option String) (rows : List (Node × Node))
  deriving Repr, Inhabited

/-- The node that stands for one that is left out. -/
def Node.empty : Node := .scalar none "" true

/-- Anchored nodes are listed by the order in which they begin; `latest` leads from the
number of an anchor to its last node. -/
structure Anchors where
  names : List (String × Nat) := []
  latest : List (Nat × Nat) := []
  begun : Nat := 0
  nodes : List (Nat × Node) := []
  deriving Repr, Inhabited

namespace Anchors

/-- A node with an anchor begins. -/
def start (a : Anchors) (name : String) : Anchors :=
  let number := a.names.length
  { a with
    names := (name, number) :: a.names.filter (·.1 != name)
    latest := (number, a.begun) :: a.latest
    begun := a.begun + 1 }

def finish (a : Anchors) (place : Nat) (node : Node) : Anchors :=
  { a with nodes := (place, node) :: a.nodes }

def node? (a : Anchors) (number : Nat) : Option Node := do
  a.nodes.lookup (← a.latest.lookup number)

end Anchors

/-- `nodes` counts the nodes, with a collection's end counted too. -/
structure Document where
  root : Node
  anchors : Anchors
  nodes : Nat
  deriving Repr, Inhabited

/-- The tokens ahead, and what was learnt from those before. -/
structure Grammar where
  tokens : List Token
  shorthands : List (String × String) := []
  anchors : Anchors := {}
  nodes : Nat := 0

namespace Grammar

abbrev Parse := StateT Grammar Option

def peek : Parse (Option Token) := return (← get).tokens.head?

def advance : Parse Unit := modify fun g => { g with tokens := g.tokens.tail }

def sees (tokens : List Token) : Parse Bool := return (← peek).any tokens.contains

def expect (token : Token) : Parse Unit := do
  if ← sees [token] then advance else failure

def count (n : Nat) : Parse Unit := modify fun g => { g with nodes := g.nodes + n }

def emptyNode : Parse Node := do
  count 1
  return .empty

def anchor? : Parse (Option String) := do
  match ← peek with
  | some (.anchor name) =>
    advance
    return some name
  | _ => return none

/-- A tag with its handle written out. -/
def tag? : Parse (Option String) := do
  match ← peek with
  | some (.tag handle suffix) =>
    advance
    if handle.isEmpty then return some suffix
    match (← get).shorthands.lookup handle with
    | some expansion => return some (expansion ++ suffix)
    | none => failure
  | _ => return none

/-- An anchor and a tag in any order. -/
def properties : Parse (Option String × Option String) := do
  match ← anchor? with
  | some anchor => return (some anchor, ← tag?)
  | none =>
    let tag ← tag?
    match tag with
    | some _ => return (← anchor?, tag)
    | none => return (none, none)

/-- Reads a node with an anchor, if it has one. -/
def anchored (anchor : Option String) (content : Parse Node) : Parse Node := do
  match anchor with
  | none => content
  | some name =>
    let place := (← get).anchors.begun
    modify fun g => { g with anchors := g.anchors.start name }
    let node ← content
    modify fun g => { g with anchors := g.anchors.finish place node }
    return node

/-- The tag of a scalar; a lone mark is none. -/
def scalarTag (tag : Option String) : Option String := if tag = some "!" then none else tag

mutual

/-- Reads a node; `inBlock` allows blocks, and `indentless` a sequence that is indented
no further than the mapping around it. -/
def node : (fuel : Nat) → (inBlock indentless : Bool) → Parse Node
  | 0, _, _ => failure
  | fuel + 1, inBlock, indentless => do
    match ← peek with
    | some (.reference name) =>
      advance
      count 1
      match (← get).anchors.names.lookup name with
      | some number => return .reference number
      | none => failure
    | _ =>
      let (anchor, tag) ← properties
      anchored anchor (content fuel inBlock indentless (anchor.isSome || tag.isSome) tag)

/-- Reads what follows the anchor and the tag of a node; only after one of them it may
be left out. -/
def content (fuel : Nat) (inBlock indentless optional : Bool) (tag : Option String) :
    Parse Node :=
  match fuel with
  | 0 => failure
  | fuel + 1 => do
    match ← peek, inBlock with
    | some (.scalar text plain), _ =>
      advance
      count 1
      return .scalar (scalarTag tag) text plain
    | some .flowSequenceStart, _ =>
      advance
      count 2
      return .sequence tag (← flowItems fuel true)
    | some .flowMappingStart, _ =>
      advance
      count 2
      return .mapping tag (← flowRows fuel true)
    | some .blockSequenceStart, true =>
      advance
      count 2
      return .sequence tag (← blockItems fuel)
    | some .blockMappingStart, true =>
      advance
      count 2
      return .mapping tag (← blockRows fuel)
    | token, _ =>
      if indentless && token = some .blockEntry then
        count 2
        return .sequence tag (← indentlessItems fuel)
      else if optional then
        count 1
        return .scalar tag "" true
      else failure

def blockItems : (fuel : Nat) → Parse (List Node)
  | 0 => failure
  | fuel + 1 => do
    if ← sees [.blockEnd] then
      advance
      return []
    expect .blockEntry
    let item ← if ← sees [.blockEntry, .blockEnd] then emptyNode else node fuel true false
    return item :: (← blockItems fuel)

def indentlessItems : (fuel : Nat) → Parse (List Node)
  | 0 => failure
  | fuel + 1 => do
    if !(← sees [.blockEntry]) then return []
    advance
    let item ← if ← sees [.blockEntry, .key, .value, .blockEnd] then emptyNode
      else node fuel true false
    return item :: (← indentlessItems fuel)

def blockRows : (fuel : Nat) → Parse (List (Node × Node))
  | 0 => failure
  | fuel + 1 => do
    if ← sees [.blockEnd] then
      advance
      return []
    expect .key
    let name ← if ← sees [.key, .value, .blockEnd] then emptyNode else node fuel true true
    let content ← valueUnless fuel [.key, .value, .blockEnd] true
    return (name, content) :: (← blockRows fuel)

/-- The value of a key, unless one of some tokens follows. -/
def valueUnless (fuel : Nat) (stops : List Token) (inBlock : Bool) : Parse Node :=
  match fuel with
  | 0 => failure
  | fuel + 1 => do
    if !(← sees [.value]) then emptyNode
    else
      advance
      if ← sees stops then emptyNode else node fuel inBlock inBlock

def flowItems (fuel : Nat) (first : Bool) : Parse (List Node) :=
  match fuel with
  | 0 => failure
  | fuel + 1 => do
    if !first && !(← sees [.flowSequenceEnd]) then expect .flowEntry
    if ← sees [.flowSequenceEnd] then
      advance
      return []
    let item ← if ← sees [.key] then flowPair fuel else node fuel false false
    return item :: (← flowItems fuel false)

/-- A mapping of one row without brackets of its own. -/
def flowPair (fuel : Nat) : Parse Node :=
  match fuel with
  | 0 => failure
  | fuel + 1 => do
    advance
    count 2
    let name ← if ← sees [.value, .flowEntry, .flowSequenceEnd] then do
        advance
        emptyNode
      else node fuel false false
    let content ← valueUnless fuel [.flowEntry, .flowSequenceEnd] false
    return .mapping none [(name, content)]

def flowRows (fuel : Nat) (first : Bool) : Parse (List (Node × Node)) :=
  match fuel with
  | 0 => failure
  | fuel + 1 => do
    if !first && !(← sees [.flowMappingEnd]) then expect .flowEntry
    if ← sees [.flowMappingEnd] then
      advance
      return []
    let row ← if ← sees [.key] then do
        advance
        let name ← if ← sees [.value, .flowEntry, .flowMappingEnd] then emptyNode
          else node fuel false false
        pure (name, ← valueUnless fuel [.flowEntry, .flowMappingEnd] false)
      else do
        let name ← node fuel false false
        pure (name, ← emptyNode)
    return row :: (← flowRows fuel false)

end

/-- The shorthands that every document has. -/
def standardShorthands : List (String × String) :=
  [("!", "!"), ("!!", "tag:yaml.org,2002:")]

/-- Reads the directives of a document. No handle may be given twice; `versioned` tells
that there was a version. -/
def directives (fuel : Nat) (versioned : Bool) (seen : List (String × String)) :
    Parse (List (String × String)) :=
  match fuel with
  | 0 => failure
  | fuel + 1 => do
    match ← peek with
    | some (.version major minor) =>
      if versioned || major ≠ 1 || (minor ≠ 1 && minor ≠ 2) then failure
      advance
      directives fuel true seen
    | some (.shorthand name expansion) =>
      if (seen.lookup name).isSome then failure
      advance
      directives fuel versioned ((name, expansion) :: seen)
    | _ => return seen

def atDirective : Parse Bool := do
  match ← peek with
  | some (.version ..) | some (.shorthand ..) => return true
  | _ => return false

/-- A document ends where nothing, or the start or end of one, follows. -/
def atBoundary : Parse Bool := do
  return (← peek).isNone || (← atDirective) || (← sees [.documentStart, .documentEnd])

def dropEnds : List Token → List Token := List.dropWhile (· = .documentEnd)

/-- Reads the root of the only document. Without directives its start may be left out. -/
def root (fuel : Nat) : Parse Node := do
  if (← atDirective) || (← sees [.documentStart]) then
    let given ← directives fuel false []
    expect .documentStart
    modify fun g => { g with shorthands := given ++ standardShorthands }
    if ← atBoundary then emptyNode else node fuel true false
  else
    modify fun g => { g with shorthands := standardShorthands }
    node fuel true false

end Grammar

/-- The document that tokens form, if they form one alone. -/
def Document.ofTokens? (tokens : List Token) : Option Document := do
  if tokens.isEmpty then return ⟨.empty, {}, 1⟩
  let (root, g) ← Grammar.root (4 * tokens.length + 8) { tokens }
  if (Grammar.dropEnds g.tokens).isEmpty then return ⟨root, g.anchors, g.nodes⟩ else none

end Autopilot.Yaml
