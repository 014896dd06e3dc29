import TextAdventure.Yaml.Scalar

/-!
# Nodes

The tokens of a document are put together to nodes: scalars, sequences and mappings, each with its
tag. Nodes are known by their numbers, and an alias stands for the node with its anchor, which may
be one that it lies in; so the nodes of a document make up a graph. `Graph.ofTokens` reads a text
with one document or none.
-/

namespace TextAdventure.Yaml

/-- What a node holds. -/
inductive Content where
  | scalar (text : String)
  /-- A scalar with codes that are no characters. -/
  | damaged (codes : List Nat)
  | sequence (items : List Nat)
  | mapping (entries : List (Nat × Nat))
  deriving DecidableEq, Repr, Inhabited

/-- A node of a document. -/
structure Node where
  tag : String
  content : Content
  deriving DecidableEq, Repr, Inhabited

/-- The nodes of a document, and the one that the document is. -/
structure Graph where
  nodes : Array Node
  root : Nat
  deriving Repr

/-- How the tags of the standard kinds begin. -/
def standardTag (name : String) : String := "tag:yaml.org,2002:" ++ name

/-- The tag of a plain scalar of a kind. -/
def Scalar.Kind.tag : Scalar.Kind → String
  | .null => standardTag "null"
  | .bool => standardTag "bool"
  | .int => standardTag "int"
  | .float => standardTag "float"
  | .stamp => standardTag "timestamp"
  | .merge => standardTag "merge"
  | .value => standardTag "value"
  | .mark => standardTag "yaml"
  | .text => standardTag "str"

/-- Nodes under composition: those that there are, the anchors that have been given, how many
collections are being read, one inside the other, and the tokens that are left. -/
structure Composition where
  nodes : Array Node
  anchors : List (String × Nat)
  depth : Nat
  tokens : List Token

/-- A step of composing nodes. -/
abbrev Compose := StateT Composition (Except ReadError)

namespace Compose

/-- What the handles of tags stand for. -/
abbrev Handles := List (String × String)

/-- The handles that every document has. -/
def defaultHandles : Handles := [("!", "!"), ("!!", standardTag "")]

/-- Gives up: the tokens make up no document. -/
def refuse {α : Type} : Compose α := throw .malformed

/-- The next token, which stays. Where the text could not be cut the fault comes up. -/
def peek : Compose Token := do
  match (← get).tokens with
  | .fault e :: _ => throw e
  | t :: _ => return t
  | [] => refuse

/-- Passes over the next token. -/
def advance : Compose Unit := modify fun s => { s with tokens := s.tokens.tail }

/-- Where a node stands: what may begin there depends on it. -/
inductive Context where
  /-- In a block. -/
  | block
  /-- In a block, where a sequence may go on without further indentation. -/
  | blockValue
  /-- In a flow collection. -/
  | flow
  deriving DecidableEq, Repr

/-- Adds a node, and registers it under its anchor; an anchor is given only once. -/
def add (anchor : Option String) (tag : String) (content : Content) : Compose Nat := do
  let s ← get
  let id := s.nodes.size
  let anchors ←
    match anchor with
    | none => pure s.anchors
    | some a => if (s.anchors.lookup a).isSome then refuse else pure ((a, id) :: s.anchors)
  set { s with nodes := s.nodes.push ⟨tag, content⟩, anchors }
  return id

/-- Adds a scalar. `resolves` tells whether its form decides on its kind. -/
def addScalar (anchor : Option String) (tag : Option String) (text : String) (resolves : Bool) :
    Compose Nat :=
  add anchor
    (match tag.filter (· != "!") with
      | some t => t
      | none => if resolves then (Scalar.kind text).tag else standardTag "str")
    (.scalar text)

/-- Adds a scalar that is left out. -/
def addAbsent : Compose Nat := addScalar none none "" true

/-- How many collections may lie one inside the other. -/
def deepest : Nat := 490

/-- Adds a collection whose members are composed once it is there. -/
def addCollection (anchor : Option String) (tag : Option String) (name : String)
    (empty : Content) (members : Compose Content) : Compose Nat := do
  let id ← add anchor ((tag.filter (· != "!")).getD (standardTag name)) empty
  let depth := (← get).depth
  if deepest ≤ depth then throw (.defect .endless)
  modify fun s => { s with depth := depth + 1 }
  let content ← members
  modify fun s => { s with depth, nodes := s.nodes.modify id fun node => { node with content } }
  return id

/-- Reads an anchor, if there is one. -/
def anchor? : Compose (Option String) := do
  match ← peek with
  | .anchor a => advance; return some a
  | _ => return none

/-- Reads a tag, if there is one. -/
def tag? : Compose (Option (Option String × String)) := do
  match ← peek with
  | .tag handle suffix => advance; return some (handle, suffix)
  | _ => return none

/-- The tag that a handle and what follows it stand for. -/
def resolveTag (handles : Handles) : Option (Option String × String) → Compose (Option String)
  | none => return none
  | some (none, suffix) => return some suffix
  | some (some handle, suffix) =>
    match handles.lookup handle with
    | some stem => return some (stem ++ suffix)
    | none => refuse

/-- Reads the anchor and the tag before a node, in either order. -/
def properties (handles : Handles) : Compose (Option String × Option String) := do
  match ← anchor? with
  | some a => return (some a, ← resolveTag handles (← tag?))
  | none =>
    match ← tag? with
    | none => return (none, none)
    | some t =>
      let anchor ← anchor?
      return (anchor, ← resolveTag handles (some t))

/-- Whether the value of a block's key is left out before this token. -/
def endsBlockValue : Token → Bool
  | .key | .value | .blockEnd => true
  | _ => false

/-- Whether a part of an entry of a flow collection is left out before this token. -/
def endsFlowPart (close t : Token) : Bool := t == .value || t == .flowEntry || t == close

/-- Passes over the comma between two entries of a flow collection, unless it ends there. -/
def flowComma (close : Token) : Compose Unit := do
  let next ← peek
  if next == .flowEntry then advance
  else if next == close then return ()
  else refuse

mutual
/-- Reads a node. -/
def node (handles : Handles) : Nat → Context → Compose Nat
  | 0, _ => refuse
  | n + 1, context => do
    match ← peek with
    | .reference a =>
      advance
      match (← get).anchors.lookup a with
      | some id => return id
      | none => refuse
    | _ =>
      let (anchor, tag) ← properties handles
      let sequence (items : Compose (List Nat)) : Compose Nat :=
        addCollection anchor tag "seq" (.sequence []) (Content.sequence <$> items)
      let mapping (entries : Compose (List (Nat × Nat))) : Compose Nat :=
        addCollection anchor tag "map" (.mapping []) (Content.mapping <$> entries)
      let absent : Compose Nat :=
        if anchor.isSome || tag.isSome then addScalar anchor tag "" (tag.isNone || tag == some "!")
        else refuse
      match ← peek with
      | .scalar text plain =>
        advance
        addScalar anchor tag text (plain && tag.isNone || tag == some "!")
      | .damaged codes =>
        advance
        add anchor ((tag.filter (· != "!")).getD (standardTag "str")) (.damaged codes)
      | .flowSequenceStart => advance; sequence (flowSequence handles n true)
      | .flowMappingStart => advance; mapping (flowMapping handles n true)
      | .blockEntry =>
        if context = .blockValue then sequence (sameLevel handles n) else absent
      | .blockSequenceStart =>
        if context = .flow then absent
        else
          advance
          sequence (blockSequence handles n)
      | .blockMappingStart =>
        if context = .flow then absent
        else
          advance
          mapping (blockMapping handles n)
      | _ => absent

/-- Reads the items of a block sequence up to its end. -/
def blockSequence (handles : Handles) : Nat → Compose (List Nat)
  | 0 => refuse
  | n + 1 => do
    match ← peek with
    | .blockEnd => advance; return []
    | .blockEntry =>
      advance
      let item ←
        match ← peek with
        | .blockEntry | .blockEnd => addAbsent
        | _ => node handles n .block
      return item :: (← blockSequence handles n)
    | _ => refuse

/-- Reads the items of a sequence that stands under a key without further indentation. -/
def sameLevel (handles : Handles) : Nat → Compose (List Nat)
  | 0 => refuse
  | n + 1 => do
    match ← peek with
    | .blockEntry =>
      advance
      let next ← peek
      let item ←
        if next == .blockEntry || endsBlockValue next then addAbsent else node handles n .block
      return item :: (← sameLevel handles n)
    | _ => return []

/-- Reads a key or a value of a block mapping, after its mark. -/
def blockPart (handles : Handles) : Nat → Compose Nat
  | 0 => refuse
  | n + 1 => do
    if endsBlockValue (← peek) then addAbsent else node handles n .blockValue

/-- Reads the entries of a block mapping up to its end. -/
def blockMapping (handles : Handles) : Nat → Compose (List (Nat × Nat))
  | 0 => refuse
  | n + 1 => do
    match ← peek with
    | .blockEnd => advance; return []
    | .key =>
      advance
      let key ← blockPart handles n
      let value ←
        match ← peek with
        | .value => advance; blockPart handles n
        | _ => addAbsent
      return (key, value) :: (← blockMapping handles n)
    | _ => refuse

/-- Reads a part of an entry of a flow collection. -/
def flowPart (handles : Handles) (close : Token) : Nat → Compose Nat
  | 0 => refuse
  | n + 1 => do
    if endsFlowPart close (← peek) then addAbsent else node handles n .flow

/-- Reads the value of an entry of a flow collection, if it has one. -/
def flowValue (handles : Handles) (close : Token) : Nat → Compose Nat
  | 0 => refuse
  | n + 1 => do
    match ← peek with
    | .value =>
      advance
      let next ← peek
      if next == .flowEntry || next == close then addAbsent else node handles n .flow
    | _ => addAbsent

/-- Reads the items of a flow sequence up to its end. A key makes a mapping of one entry. -/
def flowSequence (handles : Handles) : Nat → Bool → Compose (List Nat)
  | 0, _ => refuse
  | n + 1, isFirst => do
    if !isFirst then flowComma .flowSequenceEnd
    match ← peek with
    | .flowSequenceEnd => advance; return []
    | .key =>
      advance
      let item ← addCollection none none "map" (.mapping []) do
        let key ← flowPart handles .flowSequenceEnd n
        let value ← flowValue handles .flowSequenceEnd n
        return .mapping [(key, value)]
      return item :: (← flowSequence handles n false)
    | _ =>
      let item ← node handles n .flow
      return item :: (← flowSequence handles n false)

/-- Reads the entries of a flow mapping up to its end. -/
def flowMapping (handles : Handles) : Nat → Bool → Compose (List (Nat × Nat))
  | 0, _ => refuse
  | n + 1, isFirst => do
    if !isFirst then flowComma .flowMappingEnd
    match ← peek with
    | .flowMappingEnd => advance; return []
    | .key =>
      advance
      let key ← flowPart handles .flowMappingEnd n
      let value ← flowValue handles .flowMappingEnd n
      return (key, value) :: (← flowMapping handles n false)
    | _ =>
      let key ← node handles n .flow
      let value ← addAbsent
      return (key, value) :: (← flowMapping handles n false)
end

/-- Reads the directives before a document. -/
def directives : Nat → Bool → Handles → Compose Handles
  | 0, _, _ => refuse
  | n + 1, versioned, handles => do
    match ← peek with
    | .version major =>
      if versioned || major ≠ 1 then refuse
      else
        advance
        directives n true handles
    | .handle name stem =>
      if (handles.lookup name).isSome then refuse
      else
        advance
        directives n versioned ((name, stem) :: handles)
    | .directive => advance; directives n versioned handles
    | _ => return handles ++ defaultHandles.filter fun h => (handles.lookup h.1).isNone

/-- Whether a token belongs before a document or ends one. -/
def isOutside : Token → Bool
  | .version _ | .handle .. | .directive | .documentStart | .documentEnd | .streamEnd => true
  | _ => false

/-- Passes over the marks that end a document. -/
def skipEnds : Nat → Compose Unit
  | 0 => refuse
  | n + 1 => do
    if (← peek) == .documentEnd then
      advance
      skipEnds n

/-- Sees to it that the text ends after its document. A second one is refused once its beginning
has been read. -/
def finish (fuel : Nat) : Compose Unit := do
  skipEnds fuel
  if (← peek) ≠ .streamEnd then
    let _ ← directives fuel false []
    let _ ← peek
    refuse

/-- Reads the only document of a text, if there is one. -/
def document (fuel : Nat) : Compose (Option Nat) := do
  let first ← peek
  if first == .streamEnd then return none
  let root ←
    if isOutside first && first != .documentEnd then do
      let handles ← directives fuel false []
      if (← peek) ≠ .documentStart then refuse
      advance
      if isOutside (← peek) then addAbsent else node handles fuel .block
    else node defaultHandles fuel .block
  finish fuel
  return some root

end Compose

/-- Reads the only document of a text, if there is one. -/
def Graph.ofTokens (ts : List Token) : Except ReadError (Option Graph) := do
  let fuel := 4 * ts.length + 8
  let (root, s) ← (Compose.document fuel).run ⟨#[], [], 0, ts⟩
  return root.map fun root => ⟨s.nodes, root⟩

end TextAdventure.Yaml
