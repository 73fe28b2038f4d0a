import BundleForge.Yaml.Plain
import BundleForge.Yaml.Stream

/-!
YAML documents as graphs of tagged nodes. Tokens are put together by the grammar. Nodes are kept in
a store and known by their places in it; an alias is the place of the node that carries the anchor,
so that a node may be found at several places, also inside itself.
-/

namespace BundleForge.Yaml

/-- What a node holds. The nodes inside a collection are named by their places in the store. -/
inductive Content
  | scalar (text : Text.Spelled)
  | sequence (items : Array Nat)
  | mapping (entries : Array (Nat × Nat))
deriving Inhabited, Repr

/-- A node: its tag and what it holds. -/
structure Node where
  tag : String
  content : Content
deriving Inhabited, Repr

/-- The store of the nodes of a document. -/
abbrev Nodes := Array Node

namespace Nodes

/-- The node at a place. -/
def node (nodes : Nodes) (id : Nat) : Node := (nodes[id]?).getD default

def tag (nodes : Nodes) (id : Nat) : String := (nodes.node id).tag

def content (nodes : Nodes) (id : Nat) : Content := (nodes.node id).content

/-- The entries of a mapping; any other node has none. -/
def entries (nodes : Nodes) (id : Nat) : Array (Nat × Nat) :=
  match nodes.content id with
  | .mapping entries => entries
  | _ => #[]

def setTag (nodes : Nodes) (id : Nat) (tag : String) : Nodes :=
  nodes.modify id fun n => { n with tag }

def setContent (nodes : Nodes) (id : Nat) (content : Content) : Nodes :=
  nodes.modify id fun n => { n with content }

theorem size_setTag (nodes : Nodes) (id : Nat) (tag : String) :
    (nodes.setTag id tag).size = nodes.size := by simp [setTag]

theorem size_setContent (nodes : Nodes) (id : Nat) (content : Content) :
    (nodes.setContent id content).size = nodes.size := by simp [setContent]

end Nodes

/-- How many collections may lie one inside the other. -/
def depthLimit : Nat := 487

/-- What has been read so far: the tokens to come, the nodes, the anchors, the meaning of tag handles,
and how many more collections may be opened. -/
structure Reading where
  tokens : List Token
  nodes : Nodes := #[]
  anchors : List (String × Nat) := []
  handles : List (String × String) := []
  room : Nat := depthLimit

/-- A step of reading: it may fail, and moves on in the tokens. -/
abbrev Reader (α : Type) := StateT Reading (Except Fault) α

namespace Reader

def fail {α : Type} (fault : Fault) : Reader α := fun _ => .error fault

/-- The next token, left where it is. -/
def look : Reader Token := fun r =>
  match r.tokens with
  | [] => .error .endOfTokens
  | t :: _ => .ok (t, r)

def drop : Reader Unit := fun r => .ok ((), { r with tokens := r.tokens.drop 1 })

/-- Takes the next token if it is the given one. -/
def accept (t : Token) : Reader Bool := do
  if (← look) = t then
    drop
    return true
  else return false

def expect (t : Token) : Reader Unit := do
  if ← accept t then return () else fail .malformed

/-- Whether the next token is one of several. -/
def at_ (ts : List Token) : Reader Bool := do return ts.contains (← look)

/-- Puts a node into the store. -/
def keep (node : Node) : Reader Nat := fun r => .ok (r.nodes.size, { r with nodes := r.nodes.push node })

def fill (id : Nat) (content : Content) : Reader Unit := fun r =>
  .ok ((), { r with nodes := r.nodes.setContent id content })

/-- A node in the store under its anchor, which may be set only once. -/
def anchored (anchor : Option String) (node : Node) : Reader Nat := do
  match anchor with
  | none => keep node
  | some name =>
    if ((← get).anchors.lookup name).isSome then fail .malformed
    else
      let id ← keep node
      modify fun r => { r with anchors := (name, id) :: r.anchors }
      return id

/-- What lies inside a collection. -/
def within {α : Type} (inner : Reader α) : Reader α := do
  let room := (← get).room
  if room = 0 then fail .tooDeep
  else
    modify fun r => { r with room := room - 1 }
    let a ← inner
    modify fun r => { r with room }
    return a

def aliased (name : String) : Reader Nat := do
  match (← get).anchors.lookup name with
  | some id => return id
  | none => fail .malformed

end Reader

open Reader

/-- The node that stands where nothing is written. -/
def emptyNode : Node := ⟨coreTag "null", .scalar (.whole "")⟩

/-- A tag written out in full. -/
def fullTag (handle : Option String) (suffix : String) : Reader String := fun r =>
  match handle with
  | none => .ok (suffix, r)
  | some handle =>
    match r.handles.lookup handle with
    | some start => .ok (start ++ suffix, r)
    | none => .error .malformed

/-- The anchor and the tag before a node, in either order. -/
def properties : Reader (Option String × Option String) := do
  match ← look with
  | .anchor name =>
    drop
    match ← look with
    | .tag handle suffix =>
      drop
      let tag ← fullTag handle suffix
      return (some name, some tag)
    | _ => return (some name, none)
  | .tag handle suffix =>
    drop
    let anchor ←
      match ← look with
      | .anchor name =>
        drop
        pure (some name)
      | _ => pure none
    let tag ← fullTag handle suffix
    return (anchor, some tag)
  | _ => return (none, none)

/-- Where a node stands: that decides which collections may start there. -/
inductive Context
  | flow
  | block
  | blockOrIndentless
deriving DecidableEq

/-- The tag of a collection. -/
def collectionTag (tag : Option String) (kind : String) : String :=
  match tag with
  | none | some "!" => coreTag kind
  | some tag => tag

/-- The tag of a scalar: written, or told from its text when it is plain. -/
def scalarTag (tag : Option String) (text : String) (plain : Bool) : String :=
  match tag with
  | some "!" => plainTag text
  | some tag => tag
  | none => if plain then plainTag text else coreTag "str"

/-- A sequence with its anchor, which is known while the items are read. -/
def sequence (anchor tag : Option String) (items : Reader (List Nat)) : Reader Nat := do
  let id ← anchored anchor ⟨collectionTag tag "seq", .sequence #[]⟩
  fill id (.sequence (← within items).toArray)
  return id

/-- A mapping with its anchor, which is known while the entries are read. -/
def mapping (anchor tag : Option String) (entries : Reader (List (Nat × Nat))) : Reader Nat := do
  let id ← anchored anchor ⟨collectionTag tag "map", .mapping #[]⟩
  fill id (.mapping (← within entries).toArray)
  return id

mutual

/-- One node. The fuel bounds the number of nested steps. -/
def readNode (fuel : Nat) (context : Context) : Reader Nat :=
  match fuel with
  | 0 => fail .malformed
  | fuel + 1 => do
    match ← look with
    | .alias name =>
      drop
      aliased name
    | _ =>
      let (anchor, tag) ← properties
      readContent fuel context anchor tag

/-- What follows the properties of a node. -/
def readContent (fuel : Nat) (context : Context) (anchor tag : Option String) : Reader Nat :=
  match fuel with
  | 0 => fail .malformed
  | fuel + 1 => do
    let token ← look
    if token = .blockEntry && context = .blockOrIndentless then
      sequence anchor tag (readIndentless fuel)
    else match token with
      | .scalar text plain =>
        drop
        anchored anchor ⟨scalarTag tag text.text plain, .scalar text⟩
      | .flowSequenceStart =>
        drop
        sequence anchor tag (readFlowItems fuel true)
      | .flowMappingStart =>
        drop
        mapping anchor tag (readFlowEntries fuel true)
      | .blockSequence =>
        if context = .flow then fail .malformed
        else
          drop
          sequence anchor tag (readBlockItems fuel)
      | .blockMapping =>
        if context = .flow then fail .malformed
        else
          drop
          mapping anchor tag (readBlockEntries fuel)
      | _ =>
        if anchor.isSome || tag.isSome then anchored anchor ⟨scalarTag tag "" true, .scalar (.whole "")⟩
        else fail .malformed

/-- A node, or the empty one where one of the given tokens comes at once. -/
def readUnless (fuel : Nat) (context : Context) (stops : List Token) : Reader Nat :=
  match fuel with
  | 0 => fail .malformed
  | fuel + 1 => do
    if ← at_ stops then keep emptyNode else readNode fuel context

/-- The value of an entry, if it has one. -/
def readEntryValue (fuel : Nat) (context : Context) (stops : List Token) : Reader Nat :=
  match fuel with
  | 0 => fail .malformed
  | fuel + 1 => do
    if ← accept .value then readUnless fuel context stops else keep emptyNode

/-- The items of a sequence that stands no further in than its parent. -/
def readIndentless (fuel : Nat) : Reader (List Nat) :=
  match fuel with
  | 0 => fail .malformed
  | fuel + 1 => do
    if ← accept .blockEntry then
      let item ← readUnless fuel .block [.blockEntry, .key, .value, .blockEnd]
      return item :: (← readIndentless fuel)
    else return []

def readBlockItems (fuel : Nat) : Reader (List Nat) :=
  match fuel with
  | 0 => fail .malformed
  | fuel + 1 => do
    if ← accept .blockEntry then
      let item ← readUnless fuel .block [.blockEntry, .blockEnd]
      return item :: (← readBlockItems fuel)
    else
      expect .blockEnd
      return []

def readBlockEntries (fuel : Nat) : Reader (List (Nat × Nat)) :=
  match fuel with
  | 0 => fail .malformed
  | fuel + 1 => do
    if ← accept .key then
      let key ← readUnless fuel .blockOrIndentless [.key, .value, .blockEnd]
      let value ← readEntryValue fuel .blockOrIndentless [.key, .value, .blockEnd]
      return (key, value) :: (← readBlockEntries fuel)
    else
      expect .blockEnd
      return []

/-- The items of a flow sequence; a pair among them is a mapping of its own. -/
def readFlowItems (fuel : Nat) (first : Bool) : Reader (List Nat) :=
  match fuel with
  | 0 => fail .malformed
  | fuel + 1 => do
    if ← accept .flowSequenceEnd then return []
    else
      if !first then expect .flowEntry
      if ← accept .key then
        let entry ← within do
          let key ← readUnless fuel .flow [.value, .flowEntry, .flowSequenceEnd]
          return (key, ← readEntryValue fuel .flow [.flowEntry, .flowSequenceEnd])
        let pair ← keep ⟨coreTag "map", .mapping #[entry]⟩
        return pair :: (← readFlowItems fuel false)
      else if ← accept .flowSequenceEnd then return []
      else
        let item ← readNode fuel .flow
        return item :: (← readFlowItems fuel false)

def readFlowEntries (fuel : Nat) (first : Bool) : Reader (List (Nat × Nat)) :=
  match fuel with
  | 0 => fail .malformed
  | fuel + 1 => do
    if ← accept .flowMappingEnd then return []
    else
      if !first then expect .flowEntry
      if ← accept .key then
        let key ← readUnless fuel .flow [.value, .flowEntry, .flowMappingEnd]
        let value ← readEntryValue fuel .flow [.flowEntry, .flowMappingEnd]
        return (key, value) :: (← readFlowEntries fuel false)
      else if ← accept .flowMappingEnd then return []
      else
        let key ← readNode fuel .flow
        let value ← keep emptyNode
        return (key, value) :: (← readFlowEntries fuel false)

end

/-- The handles that are known without a directive. -/
def defaultHandles : List (String × String) := [("!", "!"), ("!!", "tag:yaml.org,2002:")]

/-- The directives before a document: at most one version, and each handle once. -/
def readDirectives (fuel : Nat) (versioned : Bool) (handles : List (String × String)) :
    Reader (List (String × String)) :=
  match fuel with
  | 0 => fail .malformed
  | fuel + 1 => do
    match ← look with
    | .version major =>
      drop
      if versioned || major ≠ 1 then fail .malformed else readDirectives fuel true handles
    | .tagHandle handle start =>
      drop
      if (handles.lookup handle).isSome then fail .malformed
      else readDirectives fuel versioned (handles ++ [(handle, start)])
    | .otherDirective =>
      drop
      readDirectives fuel versioned handles
    | _ => return handles ++ defaultHandles

def isDirective : Token → Bool
  | .version _ | .tagHandle .. | .otherDirective => true
  | _ => false

def setHandles (handles : List (String × String)) : Reader Unit := fun r => .ok ((), { r with handles })

def dropDocumentEnds (fuel : Nat) : Reader Unit :=
  match fuel with
  | 0 => return ()
  | fuel + 1 => do
    if ← accept .documentEnd then dropDocumentEnds fuel else return ()

/-- The only document of a stream, if there is one. -/
def readStream (fuel : Nat) : Reader (Option Nat) := do
  let first ← look
  if isDirective first || first = .documentStart || first = .streamEnd then
    if ← accept .streamEnd then return none
    else
      setHandles (← readDirectives fuel false [])
      expect .documentStart
      let next ← look
      let node ←
        if isDirective next || next = .documentStart || next = .documentEnd || next = .streamEnd then
          keep emptyNode
        else readNode fuel .block
      dropDocumentEnds fuel
      expect .streamEnd
      return some node
  else
    setHandles defaultHandles
    let node ← readNode fuel .block
    dropDocumentEnds fuel
    expect .streamEnd
    return some node

/-- A document: its nodes and the place of the outermost one. -/
structure Document where
  nodes : Nodes
  root : Nat

/-- The document of a text, if it has one. A fault of the tokens counts only once they are used
up. -/
def documentOf (supply : Text.Supply) : Except Fault (Option Document) :=
  let (tokens, fault) := tokensOf supply
  match (readStream (6 * tokens.size + 6)).run { tokens := tokens.toList } with
  | .ok (root, r) => .ok (root.map fun root => ⟨r.nodes, root⟩)
  | .error .endOfTokens => .error (fault.getD .malformed)
  | .error other => .error other

end BundleForge.Yaml
