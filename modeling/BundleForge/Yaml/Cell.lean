import BundleForge.Entries
import BundleForge.Setting.Slots
import BundleForge.Yaml.Merge
import BundleForge.Yaml.Value

/-!
What the nodes of a document stand for. A scalar has its value at once. A collection has a cell that
is filled later, in the order in which the collections were met, so it may stand inside itself; and
of several faults the one that is met first in that order counts.
-/

namespace BundleForge.Yaml

/-- What a node stands for: a value of its own, or the cell at the node's place. -/
inductive Value
  | plain (value : Setting)
  | shared (id : Nat)

/-- What a collection holds. -/
inductive Cell
  | list (items : List Value)
  | pairs (items : List (Value × Value))
  | set (items : List Setting)
  | table (entries : List (Setting × Value))

abbrev Cells := Array (Option Cell)

/-- The nodes, the collections in the order in which they were met, whether one was met, and the
cells filled so far. The fuel is for merging. -/
structure Building where
  nodes : Nodes
  found : Array Nat := #[]
  isFound : Array Bool
  cells : Cells
  fuel : Nat

abbrev Builder (α : Type) := StateT Building (Except ValueFault) α

namespace Builder

def fail {α : Type} (fault : ValueFault) : Builder α := fun _ => .error fault

/-- Notes that a collection was met. -/
def note (id : Nat) : Builder Unit :=
  modify fun b =>
    if (b.isFound[id]?).getD true then b
    else { b with found := b.found.push id, isFound := b.isFound.setIfInBounds id true }

def setCell (id : Nat) (cell : Cell) : Builder Unit :=
  modify fun b => { b with cells := b.cells.setIfInBounds id (some cell) }

end Builder

open Builder

/-- The text of a scalar. A mapping with a default value counts as that value; it has no text at all
if it is its own default. -/
def scalarText (nodes : Nodes) (fuel id : Nat) : Except ValueFault Text.Spelled :=
  match fuel with
  | 0 => .error (.scalar .endless)
  | fuel + 1 =>
    match nodes.content id with
    | .scalar text => .ok text
    | .sequence _ => .error .malformed
    | .mapping entries =>
      match entries.find? fun e => nodes.tag e.1 = coreTag "value" with
      | some (_, value) => scalarText nodes fuel value
      | none => .error .malformed

/-- The tags of collections. -/
def collectionTags : List String := ["seq", "map", "set", "omap", "pairs"].map coreTag

/-- Whether a node is a scalar as it stands. -/
def Nodes.isScalar (nodes : Nodes) (id : Nat) : Bool :=
  match nodes.content id with
  | .scalar _ => true
  | _ => false

/-- The value of a scalar by its tag. A time has to be written as a scalar. -/
def scalarValue (nodes : Nodes) (id : Nat) : Except ValueFault Setting := do
  let tag := nodes.tag id
  match scalarReader? tag with
  | none => throw .malformed
  | some read =>
    let text ← scalarText nodes (nodes.size + 1) id
    if tag = coreTag "timestamp" && !nodes.isScalar id then throw (.scalar .notText) else read id text

/-- What a node stands for. -/
def valueOf (id : Nat) : Builder Value := do
  let nodes := (← get).nodes
  if collectionTags.contains (nodes.tag id) then
    note id
    return .shared id
  else match scalarValue nodes id with
    | .ok value => return .plain value
    | .error fault => fail fault

/-- The value of a key, which cannot be a collection. -/
def keyOf (id : Nat) : Builder Setting := do
  match ← valueOf id with
  | .plain key => if key.isKey then return key else fail .malformed
  | .shared _ => fail .malformed

/-- The entries of a mapping; later ones replace the values of earlier ones. -/
def tableFrom (entries : List (Setting × Value)) : List (Nat × Nat) → Builder (List (Setting × Value))
  | [] => return entries
  | (key, value) :: rest => do
    let key ← keyOf key
    let value ← valueOf value
    tableFrom (Entries.put key value entries) rest

/-- The entries of a node that has to be a mapping, after merging. -/
def tableOf (id : Nat) : Builder (List (Setting × Value)) := do
  let b ← get
  match b.nodes.content id with
  | .mapping _ =>
    match mergeFrom b.fuel id 0 #[] b.nodes with
    | none => fail .malformed
    | some nodes =>
      set { b with nodes }
      tableFrom [] (nodes.entries id).toList
  | _ => fail .malformed

/-- The items of a node that has to be a sequence. -/
def itemsOf (id : Nat) : Builder (List Nat) := do
  match (← get).nodes.content id with
  | .sequence items => return items.toList
  | _ => fail .malformed

/-- The two values of a node that has to be a mapping of one entry. -/
def pairOf (id : Nat) : Builder (Value × Value) := do
  match (← get).nodes.content id with
  | .mapping #[(key, value)] =>
    let key ← valueOf key
    let value ← valueOf value
    return (key, value)
  | _ => fail .malformed

/-- The cell of a collection, by its tag. -/
def cellOf (id : Nat) : Builder Cell := do
  let tag := (← get).nodes.tag id
  if tag = coreTag "seq" then return .list (← (← itemsOf id).mapM valueOf)
  else if tag = coreTag "map" then return .table (← tableOf id)
  else if tag = coreTag "set" then return .set (Setting.inSlots ((← tableOf id).map Prod.fst))
  else return .pairs (← (← itemsOf id).mapM pairOf)

/-- Fills the cells of all collections met, from one of them on. -/
def fillFrom (fuel index : Nat) : Builder Unit :=
  match fuel with
  | 0 => return ()
  | fuel + 1 => do
    match (← get).found[index]? with
    | none => return ()
    | some id =>
      setCell id (← cellOf id)
      fillFrom fuel (index + 1)

/-- The cells of a document, and what its outermost node stands for. -/
def Document.values (d : Document) : Except ValueFault (Cells × Value) :=
  let start : Building := {
    nodes := d.nodes
    isFound := Array.replicate d.nodes.size false
    cells := Array.replicate d.nodes.size none
    fuel := mergeFuel d.nodes }
  match (do let root ← valueOf d.root; fillFrom (d.nodes.size + 1) 0; return root : Builder Value).run start with
  | .ok (root, b) => .ok (b.cells, root)
  | .error fault => .error fault

end BundleForge.Yaml
