import SolInterface.Yaml.Atom
import SolInterface.Yaml.Node

/-!
Objects: what the nodes of a document stand for. A collection is made empty when it is first met,
and gets its members once everything met before it has its own; so a collection may hold itself, and
of two faults the one that is less deep shows. Merges are carried out when a mapping gets its
entries, in the nodes themselves, so that every alias sees them.
-/
namespace SolInterface.Yaml

/-- What a node was made into; its members are nodes that were made, too. -/
inductive Object where
  | atom (a : Atom)
  | seq (items : List NodeId)
  | pairs (items : List (NodeId × NodeId))
  | set (items : List (Atom × NodeId))
  | map (entries : List (Atom × NodeId))

namespace Object

structure State where
  nodes : Graph
  made : Array (Option Object)
  /-- Collections without their members yet, in the order in which they were met. -/
  waiting : List NodeId := []

abbrev Make := StateT State (Except Error)

def missing : Node := ⟨.null, .scalar []⟩

def nodeAt (place : NodeId) : Make Node := return (← get).nodes.getD place missing

def tagAt (place : NodeId) : Make Tag := return (← nodeAt place).tag

/-- The entries of a mapping. -/
def entriesAt (place : NodeId) : Make (List (NodeId × NodeId)) := do
  match (← nodeAt place).content with
  | .map entries => return entries
  | _ => throw .malformed

def update (place : NodeId) (change : Node → Node) : Make Unit :=
  modify fun s => { s with nodes := s.nodes.modify place change }

def setEntries (place : NodeId) (entries : List (NodeId × NodeId)) : Make Unit :=
  update place fun n => { n with content := .map entries }

def put (place : NodeId) (object : Object) : Make Unit :=
  modify fun s => { s with made := s.made.setIfInBounds place (some object) }

/-! Atoms -/

/-- The value of the first entry for the default value. -/
def defaultEntry? : List (NodeId × NodeId) → Make (Option NodeId)
  | [] => return none
  | (key, value) :: rest => do
    if (← tagAt key) = .defaultValue then return some value else defaultEntry? rest

/-- The text of a scalar, or of the default value that a mapping stands for. -/
def textAt : Nat → NodeId → Make Text
  | 0, _ => throw .tooDeep
  | fuel + 1, place => do
    match (← nodeAt place).content with
    | .scalar t => return t
    | .seq _ => throw .malformed
    | .map entries =>
      match ← defaultEntry? entries with
      | some value => textAt fuel value
      | none => throw .malformed

def isScalar (place : NodeId) : Make Bool := do
  match (← nodeAt place).content with
  | .scalar _ => return true
  | _ => return false

def makeAtom (place : NodeId) (tag : Tag) : Make Unit := do
  let t ← textAt ((← get).nodes.size + 1) place
  if tag = .timestamp then
    if !(← isScalar place) then throw .timestampOfMapping
  put place (.atom (← atomOf tag t))

/-! Collections -/

/-- An empty collection under a tag. -/
def empty? : Tag → Option Object
  | .seq => some (.seq [])
  | .omap => some (.pairs [])
  | .pairs => some (.pairs [])
  | .set => some (.set [])
  | .map => some (.map [])
  | _ => none

/-- Makes a node into its object, if it was not made before. -/
def make (place : NodeId) : Make Unit := do
  if (((← get).made.getD place none).isNone) then
    let tag ← tagAt place
    match empty? tag with
    | some object =>
      put place object
      modify fun s => { s with waiting := s.waiting ++ [place] }
    | none =>
      if tag = .merge || tag = .defaultValue || tag = .unknown then throw .malformed
      makeAtom place tag

def isMergeKey (nodes : Graph) (entry : NodeId × NodeId) : Bool :=
  (nodes.getD entry.1 missing).tag = .merge

mutual

/-- Carries out the merges of a mapping; `merged` are the entries found so far. -/
def merge (place : NodeId) : Nat → List (NodeId × NodeId) → Make Unit
  | 0, _ => throw .tooDeep
  | fuel + 1, merged => do
    let entries ← entriesAt place
    let isMerge := isMergeKey (← get).nodes
    match entries.find? isMerge with
    | none => setEntries place (merged ++ entries)
    | some (_, value) =>
      setEntries place (entries.eraseP isMerge)
      merge place fuel (merged ++ (← mergedEntries value fuel))

/-- The entries that a merged node contributes; of several mappings the first counts most. -/
def mergedEntries (value : NodeId) : Nat → Make (List (NodeId × NodeId))
  | 0 => throw .tooDeep
  | fuel + 1 => do
    match (← nodeAt value).content with
    | .map _ =>
      merge value fuel []
      entriesAt value
    | .seq items =>
      let parts ← items.mapM fun item => do
        let _ ← entriesAt item
        merge item fuel []
        entriesAt item
      return parts.reverse.flatten
    | .scalar _ => throw .malformed

end

/-- More than the merges that can be carried out one inside the other. -/
def mergeFuel (nodes : Graph) : Nat :=
  nodes.foldl (fun n node =>
    match node.content with
    | .map entries => n + 2 * entries.length
    | _ => n) 2

/-- A key that is an equals sign is plain text among the entries of a mapping. -/
def nameDefault (entry : NodeId × NodeId) : Make Unit :=
  update entry.1 fun n => if n.tag = .defaultValue then { n with tag := .str } else n

/-- The entries with one more, which takes the place of an entry with the same key. -/
def insertEntry (entries : List (Atom × NodeId)) (key : Atom) (value : NodeId) :
    List (Atom × NodeId) :=
  if entries.any fun e => e.1.same key then
    entries.map fun e => if e.1.same key then (e.1, value) else e
  else entries ++ [(key, value)]

/-- The atom that a key was made into. -/
def keyAt (place : NodeId) : Make Atom := do
  match (← get).made.getD place none with
  | some (.atom a) => return a
  | _ => throw .malformed

/-- The entries of a mapping, each key and each value being made. -/
def makeEntries (found : List (Atom × NodeId)) :
    List (NodeId × NodeId) → Make (List (Atom × NodeId))
  | [] => return found
  | (key, value) :: rest => do
    make key
    let atom ← keyAt key
    make value
    makeEntries (insertEntry found atom value) rest

def mapping (place : NodeId) : Make (List (Atom × NodeId)) := do
  let _ ← entriesAt place
  merge place (mergeFuel (← get).nodes) []
  let entries ← entriesAt place
  entries.forM nameDefault
  makeEntries [] entries

def itemsAt (place : NodeId) : Make (List NodeId) := do
  match (← nodeAt place).content with
  | .seq items => return items
  | _ => throw .malformed

/-- The only entry of a mapping in an ordered one. -/
def pairAt (place : NodeId) : Make (NodeId × NodeId) := do
  match ← entriesAt place with
  | [(key, value)] =>
    make key
    make value
    return (key, value)
  | _ => throw .malformed

/-- Gives a collection its members. -/
def fill (place : NodeId) : Make Unit := do
  match ← tagAt place with
  | .seq =>
    let items ← itemsAt place
    items.forM make
    put place (.seq items)
  | .omap | .pairs => put place (.pairs (← (← itemsAt place).mapM pairAt))
  | .set => put place (.set (← mapping place))
  | _ => put place (.map (← mapping place))

/-- Gives all collections that wait their members, and those that were met by then. -/
def fillAll : Nat → Make Unit
  | 0 => return
  | fuel + 1 => do
    let waiting := (← get).waiting
    if !waiting.isEmpty then
      modify fun s => { s with waiting := [] }
      waiting.forM fill
      fillAll fuel

/-- The objects of a document. -/
def ofDocument (d : Document) : Except Error (Array (Option Object)) :=
  let all : Make Unit := do
    make d.root
    fillAll (d.nodes.size + 1)
  (all.run ⟨d.nodes, d.nodes.map fun _ => none, []⟩).map fun found => found.2.made

end Object
end SolInterface.Yaml
