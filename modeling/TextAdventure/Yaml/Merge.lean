import TextAdventure.Yaml.Node

/-!
# Merging mappings

A mapping may ask for the entries of other mappings under its merge keys. They come before its own
entries, so that its own ones count more, and those of earlier mappings of a list count more than
those of later ones. Merging changes the node: the merge keys go away. A key for the value of the
mapping as a whole becomes a text where mappings are merged.
-/

namespace TextAdventure.Yaml

namespace Graph

/-- A node by its number. -/
def nodeAt (nodes : Array Node) (id : Nat) : Node := nodes.getD id default

/-- Whether a node has one of the standard tags. -/
def hasTag (nodes : Array Node) (name : String) (id : Nat) : Bool :=
  (nodeAt nodes id).tag == standardTag name

/-- The entries of a mapping. -/
def entries? (nodes : Array Node) (id : Nat) : Option (List (Nat × Nat)) :=
  match (nodeAt nodes id).content with
  | .mapping entries => some entries
  | _ => none

/-- Gives a mapping other entries. -/
def setEntries (nodes : Array Node) (id : Nat) (entries : List (Nat × Nat)) : Array Node :=
  nodes.modify id fun node => { node with content := .mapping entries }

/-- Makes the keys for values as a whole among some entries texts. -/
def retagKeys (nodes : Array Node) (entries : List (Nat × Nat)) : Array Node :=
  entries.foldl
    (fun nodes e =>
      if hasTag nodes "value" e.1 then
        nodes.modify e.1 fun node => { node with tag := standardTag "str" }
      else nodes)
    nodes

/-- The merge keys that are left in all mappings. -/
def mergeCount (nodes : Array Node) : Nat :=
  (nodes.toList.map fun node =>
    match node.content with
    | .mapping entries => (entries.filter fun e => hasTag nodes "merge" e.1).length
    | _ => 0).foldl (· + ·) 0

/-- The mappings whose entries are asked for, in the order in which they are merged; a node that is
none in their midst is refused when its turn comes. -/
def mergeTargets (nodes : Array Node) (id : Nat) : Option (List Nat) :=
  match (nodeAt nodes id).content with
  | .mapping _ => some [id]
  | .sequence items => some items
  | _ => none

/-- Gathers the entries of several mappings, each after it has been merged into by a step. -/
def gather (mergeInto : Nat → Array Node → Except ReadError (Array Node)) :
    List Nat → Array Node → Except ReadError (List (List (Nat × Nat)) × Array Node)
  | [], nodes => .ok ([], nodes)
  | target :: rest, nodes =>
    if (entries? nodes target).isNone then .error .malformed
    else do
      let nodes ← mergeInto target nodes
      let own := (entries? nodes target).getD []
      let (more, nodes) ← gather mergeInto rest nodes
      return (own :: more, nodes)

/-- Merges into a mapping what it asks for. `start` is the number of its entries that have been
looked at, and `merged` holds the entries that are to come before all others. There is a step for
each merge key. -/
def mergeFrom : Nat → Nat → Nat → List (Nat × Nat) → Array Node → Except ReadError (Array Node)
  | 0, _, _, _, _ => .error .malformed
  | n + 1, id, start, merged, nodes =>
    let entries := (entries? nodes id).getD []
    let ahead := entries.drop start
    let passed := ahead.takeWhile fun e => !hasTag nodes "merge" e.1
    let nodes := retagKeys nodes passed
    match ahead.drop passed.length with
    | [] => .ok (if merged.isEmpty then nodes else setEntries nodes id (merged ++ entries))
    | (_, target) :: _ => do
      let at' := start + passed.length
      let nodes := setEntries nodes id (entries.eraseIdx at')
      match mergeTargets nodes target with
      | none => .error .malformed
      | some targets =>
        let (gathered, nodes) ← gather (fun id nodes => mergeFrom n id 0 [] nodes) targets nodes
        mergeFrom n id at' (merged ++ gathered.reverse.flatten) nodes

/-- Merges into a mapping what it asks for. -/
def merge (nodes : Array Node) (id : Nat) : Except ReadError (Array Node) :=
  mergeFrom (2 * mergeCount nodes + 2) id 0 [] nodes

end Graph

end TextAdventure.Yaml
