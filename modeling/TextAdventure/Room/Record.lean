import TextAdventure.Room.Basic
import TextAdventure.Schema

/-!
# Rooms as records

Reading rooms from values, with all their attributes, conditions and effects, and writing them as
records for a store. A record leaves out the identity and whatever is absent.
-/

namespace TextAdventure

/-! ### Reading -/

/-- Reads a move: a pair of whole numbers or a word. If it is neither, the problems of both
readings are reported. -/
def Move.read (v : Value) : Checked Move :=
  match Schema.text v, Schema.wholePair v with
  | .valid w, _ => .valid (.word w)
  | _, .valid (dx, dy) => .valid (.delta dx dy)
  | .invalid qs, .invalid ps =>
    .invalid
      (ps.map (fun p => { p with path := .field "tuple[int, int]" :: p.path }) ++
        qs.map fun q => { q with path := .field "str" :: q.path })

/-- Reads an effect. -/
def Effect.read : Value → Checked Effect :=
  Schema.object fun fields =>
    Effect.mk <$> Schema.optional (Schema.nullable Move.read) none "move" fields
      <*> Schema.optional (Schema.list Schema.text) [] "items" fields
      <*> Schema.optional (Schema.nullable (Schema.choice Status.words)) none "status" fields
      <* Schema.onlyFields ["move", "items", "status"] fields

/-- Reads a condition. -/
def Condition.read : Value → Checked Condition :=
  Schema.object fun fields =>
    Condition.mk <$> Schema.optional (Schema.list Schema.text) [] "requires" fields
      <*> Schema.required Schema.text "message" fields
      <*> Schema.optional (Schema.nullable Effect.read) none "effect" fields
      <* Schema.onlyFields ["requires", "message", "effect"] fields

/-- Reads an attribute. It has at least one condition. -/
def Attribute.read : Value → Checked Attribute :=
  Schema.object fun fields =>
    Attribute.mk <$> Schema.required (Schema.choice AttributeKind.words) "type" fields
      <*> Schema.required Schema.text "name" fields
      <*> Schema.optional (Schema.nullable Schema.text) none "item" fields
      <*> Schema.optional (Schema.list Schema.text) [] "aliases" fields
      <*> Schema.required (Schema.nonEmptyList Condition.read) "conditions" fields
      <* Schema.onlyFields ["type", "name", "item", "aliases", "conditions"] fields

/-- The names that the identity may have: `_id`, and `id` where the first is not there. -/
def identityNames (fields : Fields) : List String :=
  if fields.has "_id" then ["_id"] else ["id"]

/-- Reads a room. -/
def Room.read : Value → Checked Room :=
  Schema.object fun fields =>
    Room.mk (Schema.identity fields) <$> Schema.required Schema.whole "x" fields
      <*> Schema.required Schema.whole "y" fields
      <*> Schema.optional Schema.text defaultMap "map" fields
      <*> Schema.required Schema.text "name" fields
      <*> Schema.required Schema.text "description" fields
      <*> Schema.optional (Schema.list Attribute.read) [] "attributes" fields
      <* Schema.onlyFields
          (identityNames fields ++ ["x", "y", "map", "name", "description", "attributes"]) fields

/-! ### Writing -/

/-- A list of texts as a value. -/
def Value.ofTexts (texts : List String) : Value := .list (texts.map .text)

/-- A move as a value. -/
def Move.toValue : Move → Value
  | .delta dx dy => .list [.int dx, .int dy]
  | .word w => .text w

/-- An effect as a record. -/
def Effect.toRecord (e : Effect) : Fields :=
  (match e.move with
    | some m => [(.text "move", m.toValue)]
    | none => []) ++
  [(.text "items", .ofTexts e.items)] ++
  (match e.status with
    | some s => [(.text "status", .text s.word)]
    | none => [])

/-- A condition as a record. -/
def Condition.toRecord (c : Condition) : Fields :=
  [(.text "requires", .ofTexts c.needs), (.text "message", .text c.message)] ++
  (match c.effect with
    | some e => [(.text "effect", .table e.toRecord)]
    | none => [])

/-- An attribute as a record. -/
def Attribute.toRecord (a : Attribute) : Fields :=
  [(.text "type", .text a.kind.word), (.text "name", .text a.name)] ++
  (match a.item with
    | some i => [(.text "item", .text i)]
    | none => []) ++
  [(.text "aliases", .ofTexts a.aliases),
    (.text "conditions", .list (a.conditions.map fun c => .table c.toRecord))]

/-- A room as a record: all but its identity. -/
def Room.toRecord (r : Room) : Fields :=
  [(.text "x", .int r.x), (.text "y", .int r.y), (.text "map", .text r.map),
    (.text "name", .text r.name), (.text "description", .text r.description),
    (.text "attributes", .list (r.attributes.map fun a => .table a.toRecord))]

end TextAdventure
