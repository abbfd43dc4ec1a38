import SolInterface.Yaml.Timestamp
import SolInterface.Yaml.Token

/-!
Nodes: what the tokens of a document make up. A node is known by its place among the nodes, so that
an alias is the node under its anchor, also inside that node.
-/
namespace SolInterface.Yaml

/-- A node, by its place. -/
abbrev NodeId := Nat

inductive Content where
  | scalar (text : Text)
  | seq (items : List NodeId)
  | map (entries : List (NodeId × NodeId))
  deriving DecidableEq, Repr, Inhabited

structure Node where
  tag : Tag
  content : Content
  deriving DecidableEq, Repr

/-- Nodes that stand in one another. -/
abbrev Graph := Array Node

/-- The nodes of a document, and the one that holds the others. -/
structure Document where
  nodes : Graph
  root : NodeId
  deriving DecidableEq, Repr

namespace Node

/-- What is left to read, and what was read and named so far. -/
structure State where
  tokens : List Token
  nodes : Graph := #[]
  anchors : List (Text × NodeId) := []
  handles : List (Text × Text) := []
  /-- How many collections are open around the place. -/
  depth : Nat := 0

abbrev Parse := StateT State (Except Error)

/-- The next token, if there is one; a fault shows when its place is reached. -/
def peek? : Parse (Option Token) := do
  match (← get).tokens.head? with
  | some (.broken e) => throw e
  | next => return next

def advance : Parse Unit := modify fun s => { s with tokens := s.tokens.drop 1 }

/-- Takes the token if it is next. -/
def take? (t : Token) : Parse Bool := do
  if (← peek?) == some t then
    advance
    return true
  else return false

def nextIs (ts : List Token) : Parse Bool := return (← peek?).any ts.contains

/-- Adds a node, under its anchor if it has one. -/
def add (anchor : Option Text) (node : Node) : Parse NodeId := do
  let place := (← get).nodes.size
  modify fun s => { s with
    nodes := s.nodes.push node
    anchors := match anchor with
      | some a => (a, place) :: s.anchors
      | none => s.anchors }
  return place

def empty : Parse NodeId := add none ⟨.null, .scalar []⟩

/-- Gives a node its content. -/
def fill (place : NodeId) (tag : Tag) (content : Content) : Parse NodeId := do
  modify fun s => { s with nodes := s.nodes.setIfInBounds place ⟨tag, content⟩ }
  return place

/-- The most collections that may be open at a time. -/
def mostDepth : Nat := 487

/-- Reads the inside of a collection. -/
def inside {α : Type} (members : Parse α) : Parse α := do
  if mostDepth ≤ (← get).depth then throw .tooDeep
  modify fun s => { s with depth := s.depth + 1 }
  let found ← members
  modify fun s => { s with depth := s.depth - 1 }
  return found

/-- Anchor and tag before a node, in either order. -/
def properties : Parse (Option Text × Option (Option Text × Text)) := do
  match ← peek? with
  | some (.anchor a) =>
    advance
    match ← peek? with
    | some (.tag h s) =>
      advance
      return (some a, some (h, s))
    | _ => return (some a, none)
  | some (.tag h s) =>
    advance
    match ← peek? with
    | some (.anchor a) =>
      advance
      return (some a, some (h, s))
    | _ => return (none, some (h, s))
  | _ => return (none, none)

/-- The full text of a tag. -/
def tagText (handle : Option Text) (suffix : Text) : Parse Text := do
  match handle with
  | none => return suffix
  | some h =>
    match (← get).handles.lookup h with
    | some stem => return stem ++ suffix
    | none => throw .malformed

mutual

/-- A node; `block` allows block collections, `indentless` a sequence at the indentation of the
mapping around it. -/
def node (block indentless : Bool) : Nat → Parse NodeId
  | 0 => throw .malformed
  | fuel + 1 => do
    match ← peek? with
    | some (.alias a) =>
      advance
      match (← get).anchors.lookup a with
      | some found => return found
      | none => throw .malformed
    | _ =>
      let (anchor, written) ← properties
      let tag? ← match written with
        | some (h, s) => do pure (some (← tagText h s))
        | none => pure none
      let _ ← peek?
      if let some a := anchor then
        if ((← get).anchors.lookup a).isSome then throw .malformed
      -- The tag `!` leaves the kind open, as if there were none.
      let stated := (tag?.filter (· != ['!'])).map Tag.ofText
      let seqTag := stated.getD .seq
      let mapTag := stated.getD .map
      match ← peek? with
      | some (.scalar text isPlain) =>
        advance
        let implied := if isPlain || tag?.isSome then Tag.ofPlain text else .str
        add anchor ⟨stated.getD implied, .scalar text⟩
      | some .flowSequenceStart =>
        advance
        let place ← add anchor ⟨seqTag, .seq []⟩
        fill place seqTag (.seq (← inside (flowItems true fuel)))
      | some .flowMappingStart =>
        advance
        let place ← add anchor ⟨mapTag, .map []⟩
        fill place mapTag (.map (← inside (flowEntries true fuel)))
      | next =>
        if indentless && next == some .blockEntry then
          let place ← add anchor ⟨seqTag, .seq []⟩
          fill place seqTag (.seq (← inside (indentlessItems fuel)))
        else if block && next == some .blockSequenceStart then
          advance
          let place ← add anchor ⟨seqTag, .seq []⟩
          fill place seqTag (.seq (← inside (blockItems fuel)))
        else if block && next == some .blockMappingStart then
          advance
          let place ← add anchor ⟨mapTag, .map []⟩
          fill place mapTag (.map (← inside (blockEntries fuel)))
        else if anchor.isSome || tag?.isSome then
          add anchor ⟨stated.getD .null, .scalar []⟩
        else throw .malformed

/-- The items of a block sequence up to its end. -/
def blockItems : Nat → Parse (List NodeId)
  | 0 => throw .malformed
  | fuel + 1 => do
    if ← take? .blockEntry then
      let item ← if ← nextIs [.blockEntry, .blockEnd] then empty else node true false fuel
      return item :: (← blockItems fuel)
    else if ← take? .blockEnd then return []
    else throw .malformed

/-- The items of a sequence that no end follows. -/
def indentlessItems : Nat → Parse (List NodeId)
  | 0 => throw .malformed
  | fuel + 1 => do
    if ← take? .blockEntry then
      let item ← if ← nextIs [.blockEntry, .key, .value, .blockEnd] then empty
        else node true false fuel
      return item :: (← indentlessItems fuel)
    else return []

/-- The entries of a block mapping up to its end. -/
def blockEntries : Nat → Parse (List (NodeId × NodeId))
  | 0 => throw .malformed
  | fuel + 1 => do
    if ← take? .key then
      let key ← if ← nextIs [.key, .value, .blockEnd] then empty else node true true fuel
      let value ←
        if ← take? .value then
          if ← nextIs [.key, .value, .blockEnd] then empty else node true true fuel
        else empty
      return (key, value) :: (← blockEntries fuel)
    else if ← take? .blockEnd then return []
    else throw .malformed

/-- The items of a flow sequence up to its bracket. -/
def flowItems (first : Bool) : Nat → Parse (List NodeId)
  | 0 => throw .malformed
  | fuel + 1 => do
    if ← take? .flowSequenceEnd then return []
    if !first then
      if !(← take? .flowEntry) then throw .malformed
    if ← take? .key then
      let (key, value) ← inside do
        let key ← if ← nextIs [.value, .flowEntry, .flowSequenceEnd] then empty
          else node false false fuel
        let value ←
          if ← take? .value then
            if ← nextIs [.flowEntry, .flowSequenceEnd] then empty else node false false fuel
          else empty
        pure (key, value)
      let item ← add none ⟨.map, .map [(key, value)]⟩
      return item :: (← flowItems false fuel)
    else if ← take? .flowSequenceEnd then return []
    else
      let item ← node false false fuel
      return item :: (← flowItems false fuel)

/-- The entries of a flow mapping up to its brace. -/
def flowEntries (first : Bool) : Nat → Parse (List (NodeId × NodeId))
  | 0 => throw .malformed
  | fuel + 1 => do
    if ← take? .flowMappingEnd then return []
    if !first then
      if !(← take? .flowEntry) then throw .malformed
    if ← take? .key then
      let key ← if ← nextIs [.value, .flowEntry, .flowMappingEnd] then empty
        else node false false fuel
      let value ←
        if ← take? .value then
          if ← nextIs [.flowEntry, .flowMappingEnd] then empty else node false false fuel
        else empty
      return (key, value) :: (← flowEntries false fuel)
    else if ← take? .flowMappingEnd then return []
    else
      let key ← node false false fuel
      let value ← empty
      return (key, value) :: (← flowEntries false fuel)

end

def standardHandles : List (Text × Text) := [("!", "!"), ("!!", "tag:yaml.org,2002:")]

/-- The directives before an explicit document: at most one version, which is 1, and each handle
once. -/
def directives : Bool → List (Text × Text) → List Token →
    Except Error (List (Text × Text) × List Token)
  | versioned, handles, t :: rest =>
    match t with
    | .version major _ =>
      if versioned || major != 1 then .error .malformed else directives true handles rest
    | .tagHandle h stem =>
      if (handles.lookup h).isSome then .error .malformed
      else directives versioned ((h, stem) :: handles) rest
    | .reserved => directives versioned handles rest
    | .broken e => .error e
    | _ => .ok (handles, t :: rest)
  | _, handles, [] => .ok (handles, [])

/-- The content of a document, and the tokens after it. -/
def document (handles : List (Text × Text)) (tokens : List Token) :
    Except Error (Document × List Token) :=
  ((node true false (4 * tokens.length + 4)).run { tokens, handles }).map fun found =>
    (⟨found.2.nodes, found.1⟩, found.2.tokens)

/-- Nothing may follow a document but document ends. -/
def closed (d : Document) : List Token → Except Error Document
  | [] => .ok d
  | .documentEnd :: rest => closed d rest
  | .broken e :: _ => .error e
  | _ => .error .malformed

/-- The tokens start what comes before a document's content. -/
def startsDocument : List Token → Bool
  | .version _ _ :: _ => true
  | .tagHandle _ _ :: _ => true
  | .reserved :: _ => true
  | .documentStart :: _ => true
  | _ => false

/-- The only document, if there is one. -/
def ofTokens : List Token → Except Error (Option Document)
  | [] => .ok none
  | tokens =>
    if startsDocument tokens then do
      let (handles, rest) ← directives false [] tokens
      match rest with
      | .documentStart :: rest =>
        if rest.isEmpty || startsDocument rest || rest.head? == some .documentEnd then
          return some (← closed ⟨#[⟨.null, .scalar []⟩], 0⟩ rest)
        else
          let (found, rest) ← document (handles ++ standardHandles) rest
          return some (← closed found rest)
      | _ => throw .malformed
    else do
      let (found, rest) ← document standardHandles tokens
      return some (← closed found rest)

end Node
end SolInterface.Yaml
