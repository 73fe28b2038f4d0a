import BundleForge.Yaml.Node

/-!
Merging. An entry under the merge key gives way to the entries of the mapping that is its value, or
of several mappings. Merging changes the store: a mapping that has been merged stays so for every
other place where it is found.
-/

namespace BundleForge.Yaml

/-- The entries found under merge keys, over the whole store. -/
def mergeCount (nodes : Nodes) : Nat :=
  nodes.foldl (fun n node =>
    match node.content with
    | .mapping entries => n + (entries.filter fun e => nodes.tag e.1 = coreTag "merge").size
    | _ => n) 0

/-- The places named inside collections, over the whole store. -/
def nodeReferences (nodes : Nodes) : Nat :=
  nodes.foldl (fun n node =>
    match node.content with
    | .scalar _ => n
    | .sequence items => n + items.size
    | .mapping entries => n + 2 * entries.size) 0

mutual

/-- Merges into a mapping from one of its entries on. What was merged is put in front at the end.
Each merge entry is taken out before its value is looked at, so a mapping that is merged into itself
is left as it is. An equals sign that stands as a key is an ordinary text from then on. -/
def mergeFrom (fuel id index : Nat) (merged : Array (Nat × Nat)) (nodes : Nodes) : Option Nodes :=
  match fuel with
  | 0 => none
  | fuel + 1 =>
    let entries := nodes.entries id
    match entries[index]? with
    | none => some (if merged.isEmpty then nodes else nodes.setContent id (.mapping (merged ++ entries)))
    | some (key, value) =>
      if nodes.tag key = coreTag "merge" then
        let nodes := nodes.setContent id (.mapping (entries.eraseIdxIfInBounds index))
        match nodes.content value with
        | .mapping _ => do
          let nodes ← mergeFrom fuel value 0 #[] nodes
          mergeFrom fuel id index (merged ++ nodes.entries value) nodes
        | .sequence items => do
          let (nodes, parts) ← mergeItems fuel items.toList nodes
          mergeFrom fuel id index (parts.foldl (fun all part => all ++ part) merged) nodes
        | .scalar _ => none
      else if nodes.tag key = coreTag "value" then
        mergeFrom fuel id (index + 1) merged (nodes.setTag key (coreTag "str"))
      else mergeFrom fuel id (index + 1) merged nodes

/-- Merges into each of several mappings, and gives their entries: those of the later ones first, so
that the earlier ones win. -/
def mergeItems (fuel : Nat) (items : List Nat) (nodes : Nodes) :
    Option (Nodes × List (Array (Nat × Nat))) :=
  match fuel, items with
  | _, [] => some (nodes, [])
  | 0, _ => none
  | fuel + 1, item :: rest =>
    match nodes.content item with
    | .mapping _ => do
      let nodes ← mergeFrom fuel item 0 #[] nodes
      let entries := nodes.entries item
      let (nodes, parts) ← mergeItems fuel rest nodes
      return (nodes, parts ++ [entries])
    | _ => none

end

/-- Fuel for merging in a store as it was read: a merge goes over no more entries than all references
together can bring in, once for each merge. -/
def mergeFuel (nodes : Nodes) : Nat := Nat.pow (nodeReferences nodes + 2) (mergeCount nodes + 2)

end BundleForge.Yaml
