import TextAdventure.Value.Fields
import TextAdventure.Value.SetOrder
import TextAdventure.Yaml.Merge

/-!
# Objects

The objects that the nodes of a document stand for: one for every node, whose parts are again known
by the numbers of their nodes. Collections are made empty first and filled one after another in the
order in which they were made, so that an object may well be a part of itself. The first node that
cannot be read ends the reading.
-/

namespace TextAdventure.Yaml

/-- The object that a node stands for. -/
inductive Object where
  | atom (v : Value)
  | list (items : List Nat)
  | table (entries : List (Nat × Nat))
  | set (items : List Nat)
  /-- A list of pairs. -/
  | pairs (entries : List (Nat × Nat))
  deriving DecidableEq, Repr

namespace Object

/-- The parts of an object, each as often as it stands in it. -/
def parts : Object → List Nat
  | .atom _ => []
  | .list items => items
  | .table entries => entries.flatMap fun e => [e.1, e.2]
  | .set items => items
  | .pairs entries => entries.flatMap fun e => [e.1, e.2]

end Object

/-- Objects under construction. -/
structure Construction where
  nodes : Array Node
  objects : Array (Option Object)
  /-- The collections that have been made, in order. -/
  made : Array Nat

/-- A step of constructing objects. -/
abbrev Construct := StateT Construction (Except ReadError)

namespace Construct

open TextAdventure.Yaml.Graph

/-- The label of the object of a node. -/
def label (id : Nat) : Label := ⟨0, id + 1⟩

/-- Gives up: a node cannot be read. -/
def refuse {α : Type} : Construct α := throw .malformed

/-- What a node holds. -/
def contentOf (id : Nat) : Construct Content := return (nodeAt (← get).nodes id).content

/-- The text of a node that is read as a scalar: its own, or that of the value under the key for
the value as a whole. Such keys may lead back to the node. -/
def scalarOf (nodes : Array Node) : Nat → Nat → Except ReadError Value
  | 0, _ => .error (.defect .endless)
  | n + 1, id =>
    match (nodeAt nodes id).content with
    | .scalar s => .ok (.text s)
    | .damaged codes => .ok (.damaged codes)
    | .sequence _ => .error .malformed
    | .mapping entries =>
      match entries.find? fun e => hasTag nodes "value" e.1 with
      | some e => scalarOf nodes n e.2
      | none => .error .malformed

/-- The small letters of a text with codes that are no characters. -/
def lowerCodes (codes : List Nat) : List Nat :=
  codes.flatMap fun n =>
    if Text.isHalf n then [n] else (Text.lowerChar (Char.ofNat n)).map Char.toNat

/-- Reads a text with codes that are no characters as a scalar of a kind; only as a text and as null
it has a value. -/
def readDamaged (kind : Scalar.Kind) (codes : List Nat) : Except ReadError Value :=
  match kind with
  | .null => .ok .null
  | .bool => .error (.defect (.missingKey (.damaged (lowerCodes codes))))
  | .int | .float => .error (.defect .badForm)
  | .stamp => .error (.defect .noFeature)
  | _ => .ok (.damaged codes)

/-- Reads a text as a scalar of a kind. A number that is none is an object of its own, unless the
text is the word for it. -/
def readText (id : Nat) (kind : Scalar.Kind) (s : String) : Except ReadError Value :=
  let lift (x : Except Defect Value) : Except ReadError Value := x.mapError .defect
  match kind with
  | .null => .ok .null
  | .bool => lift (Scalar.readBool s)
  | .int => lift (Scalar.readInt s)
  | .float => do
    match ← lift (Scalar.readFloat s) with
    | .float .nan =>
      return if Scalar.isNanWord s then .float .nan else .shared (label id) (.float .nan)
    | v => return v
  | .stamp => lift (Scalar.readStamp s)
  | _ => .ok (.text s)

/-- The kinds of scalars that have values. -/
def scalarKinds : List Scalar.Kind := [.null, .bool, .int, .float, .stamp, .text]

/-- The value of a node with the tag of a scalar. -/
def readScalar (nodes : Array Node) (id : Nat) (kind : Scalar.Kind) : Except ReadError Value := do
  let v ← scalarOf nodes (nodes.size + 1) id
  if kind = .stamp ∧ (entries? nodes id).isSome then .error (.defect .wrongKind)
  match v with
  | .damaged codes => readDamaged kind codes
  | v => readText id kind (v.text?.getD "")

/-- The bytes of a node. -/
def readBytes (nodes : Array Node) (id : Nat) : Except ReadError Value := do
  match ← scalarOf nodes (nodes.size + 1) id with
  | .text s => Scalar.readBinary s
  | _ => .error .malformed

/-- The empty collection for a tag, if it is the tag of a collection. -/
def emptyFor? (tag : String) : Option Object :=
  if tag = standardTag "seq" then some (.list [])
  else if tag = standardTag "map" then some (.table [])
  else if tag = standardTag "set" then some (.set [])
  else if tag = standardTag "omap" ∨ tag = standardTag "pairs" then some (.pairs [])
  else none

/-- Puts an object in the place of a node. -/
def put (id : Nat) (o : Object) : Construct Unit :=
  modify fun s => { s with objects := s.objects.setIfInBounds id (some o) }

/-- Makes the object of a node, unless it has been made: a scalar with its value, a collection
without its parts. -/
def make (id : Nat) : Construct Object := do
  let s ← get
  match s.objects.getD id none with
  | some o => return o
  | none =>
    let tag := (nodeAt s.nodes id).tag
    match emptyFor? tag with
    | some o =>
      put id o
      modify fun s => { s with made := s.made.push id }
      return o
    | none =>
      let v ←
        match scalarKinds.find? fun k => k.tag == tag with
        | some kind => readScalar s.nodes id kind
        | none => if tag = standardTag "binary" then readBytes s.nodes id else refuse
      put id (.atom v)
      return .atom v

/-- Makes the objects of several nodes. -/
def makeAll : List Nat → Construct Unit
  | [] => return ()
  | id :: rest => do
    let _ ← make id
    makeAll rest

/-- The value of a scalar that has been made. -/
def atomOf (objects : Array (Option Object)) (id : Nat) : Value :=
  match objects.getD id none with
  | some (.atom v) => v
  | _ => .null

/-- Puts an entry into those of a table: in the place of the one whose key agrees, or at the end. -/
def insertEntry (objects : Array (Option Object)) (entry : Nat × Nat) :
    List (Nat × Nat) → List (Nat × Nat)
  | [] => [entry]
  | e :: rest =>
    if (atomOf objects entry.1).agrees (atomOf objects e.1) then (e.1, entry.2) :: rest
    else e :: insertEntry objects entry rest

/-- Makes the parts of a mapping, and gives its entries. A collection is no key. -/
def makeEntries : List (Nat × Nat) → List (Nat × Nat) → Construct (List (Nat × Nat))
  | done, [] => return done
  | done, (key, value) :: rest => do
    match ← make key with
    | .atom _ => pure ()
    | _ => refuse
    let _ ← make value
    makeEntries (insertEntry (← get).objects (key, value) done) rest

/-- The entries of a mapping with all that is merged in. -/
def fillMapping (id : Nat) : Construct (List (Nat × Nat)) := do
  let s ← get
  if (entries? s.nodes id).isNone then refuse
  let nodes ← (merge s.nodes id : Except ReadError (Array Node))
  modify fun s => { s with nodes }
  makeEntries [] ((entries? nodes id).getD [])

/-- The only entry of each of several mappings. -/
def fillPairs : List Nat → Construct (List (Nat × Nat))
  | [] => return []
  | id :: rest => do
    match ← contentOf id with
    | .mapping [(key, value)] =>
      let _ ← make key
      let _ ← make value
      return (key, value) :: (← fillPairs rest)
    | _ => refuse

/-- The items of a set in its order. -/
def orderSet (objects : Array (Option Object)) (ids : List Nat) : List Nat :=
  let marked := ids.map fun id => (atomOf objects id, id)
  (setOrder (marked.map (·.1))).filterMap fun v => marked.lookup v

/-- Fills the collection of a node. -/
def fillIn (id : Nat) : Construct Unit := do
  match (← get).objects.getD id none with
  | some (.list _) =>
    match ← contentOf id with
    | .sequence items =>
      makeAll items
      put id (.list items)
    | _ => refuse
  | some (.table _) => put id (.table (← fillMapping id))
  | some (.set _) =>
    let entries ← fillMapping id
    put id (.set (orderSet (← get).objects (entries.map (·.1))))
  | some (.pairs _) =>
    match ← contentOf id with
    | .sequence items => put id (.pairs (← fillPairs items))
    | _ => refuse
  | _ => return ()

/-- Fills the collections that have been made, from one of them on; every node is made at most
once. -/
def fillFrom : Nat → Nat → Construct Unit
  | 0, _ => return ()
  | n + 1, i => do
    match (← get).made[i]? with
    | some id =>
      fillIn id
      fillFrom n (i + 1)
    | none => return ()

end Construct

/-- The objects that the nodes of a document stand for. -/
def Graph.objects (g : Graph) : Except ReadError (Array (Option Object)) := do
  let steps : Construct Unit := do
    let _ ← Construct.make g.root
    Construct.fillFrom (g.nodes.size + 1) 0
  let (_, s) ← steps.run ⟨g.nodes, .replicate g.nodes.size none, #[]⟩
  return s.objects

end TextAdventure.Yaml
