import TextAdventure.Yaml.Construct

/-!
# Documents

The value that the text of a document stands for: `Yaml.read` cuts the text into tokens, puts these
together to nodes, constructs the objects of the nodes and writes them out as one value. An object
that stands at several places is marked with its label at all of them.
-/

namespace TextAdventure.Yaml

namespace Objects

/-- How often each object stands in those that can be reached from the root, which itself stands
in the document. `waiting` holds the objects whose parts have not been counted. -/
def countPlaces (objects : Array (Option Object)) : Nat → List Nat → Array Nat → Array Nat
  | 0, _, counts => counts
  | _, [], counts => counts
  | n + 1, id :: waiting, counts =>
    let seen := counts.getD id 0
    let counts := counts.setIfInBounds id (seen + 1)
    let parts := if seen = 0 then ((objects.getD id none).map (·.parts)).getD [] else []
    countPlaces objects n (parts ++ waiting) counts

/-- How many places there are in all objects together. -/
def placeCount (objects : Array (Option Object)) : Nat :=
  (objects.toList.map fun o => (o.map (·.parts.length)).getD 0).foldl (· + ·) 0

/-- The values that have been written out so far. -/
abbrev Written := Array (Option Value)

/-- A value that has been written out, with the number of objects around the outermost one among
those that it names as standing around it. -/
structure Placed where
  value : Value
  outermost : Nat

/-- The label of a pair: pairs are no nodes, so they come after all of them. -/
def pairLabel (size id i : Nat) : Label := ⟨0, size * (i + 1) + id + 1⟩

/-- Whether an object is marked with its label because of where it stands: collections and points in
time are, if they stand at several places. -/
def isMarked (counts : Array Nat) (id : Nat) (o : Object) : Bool :=
  let isPlain : Bool :=
    match o with
    | .atom (.stamp _) => false
    | .atom _ => true
    | _ => false
  !isPlain && 1 < counts.getD id 0

/-- Writes out several objects one after another. -/
def mapPlaced (write : Nat → Written → Placed × Written) :
    List Nat → Written → List Value × Nat × Written
  | [], done => ([], done.size, done)
  | id :: rest, done =>
    let (x, done) := write id done
    let (xs, outermost, done) := mapPlaced write rest done
    (x.value :: xs, min x.outermost outermost, done)

/-- Two values after one another as entries. -/
def entriesOf : List Value → List (Value × Value)
  | k :: v :: rest => (k, v) :: entriesOf rest
  | _ => []

/-- Writes out an object; `around` holds the objects that it lies in, the outermost one first. An
object that leads back to itself is marked with its label in any case. -/
def place (objects : Array (Option Object)) (counts : Array Nat) :
    Nat → List Nat → Nat → Written → Placed × Written
  | 0, _, _, done => (⟨.null, done.size⟩, done)
  | n + 1, around, id, done =>
    match around.idxOf? id, done.getD id none, objects.getD id none with
    | some depth, _, _ => (⟨.again (Construct.label id), depth⟩, done)
    | none, some v, _ => (⟨v, done.size⟩, done)
    | none, none, none => (⟨.null, done.size⟩, done)
    | none, none, some o =>
      let (parts, outermost, done) :=
        mapPlaced (place objects counts n (around ++ [id])) o.parts done
      let body :=
        match o with
        | .atom v => v
        | .list _ => .list parts
        | .table _ => .table (entriesOf parts)
        | .set _ => .set parts
        | .pairs _ =>
          .list ((entriesOf parts).mapIdx fun i e =>
            .shared (pairLabel objects.size id i) (.pair e.1 e.2))
      let v := if isMarked counts id o || outermost ≤ around.length then .shared (Construct.label id) body else body
      if around.length ≤ outermost then
        (⟨v, done.size⟩, done.setIfInBounds id (some v))
      else (⟨v, outermost⟩, done)

/-- The value of an object with all its parts. -/
def valueOf (objects : Array (Option Object)) (root : Nat) : Value :=
  let counts :=
    countPlaces objects (placeCount objects + 2) [root] (.replicate objects.size 0)
  (place objects counts (objects.size + 1) [] root (.replicate objects.size none)).1.value

end Objects

/-- Line breaks of all kinds as files have them, each as a line feed. -/
def normalizeBreaks : List Char → List Char
  | '\r' :: '\n' :: rest => '\n' :: normalizeBreaks rest
  | '\r' :: rest => '\n' :: normalizeBreaks rest
  | c :: rest => c :: normalizeBreaks rest
  | [] => []

/-- The value that a text stands for; a text without a document stands for null. -/
def read (text : String) : Except ReadError Value := do
  match ← Graph.ofTokens (tokens (normalizeBreaks text.toList)) with
  | none => return .null
  | some g => return Objects.valueOf (← g.objects) g.root

end TextAdventure.Yaml
