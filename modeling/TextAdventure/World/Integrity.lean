import TextAdventure.Language.Vocabulary
import TextAdventure.World.Basic

/-!
# Integrity of worlds and vocabularies

Checks of authored data before a game begins. Errors stop the game; warnings report what the game
puts up with.
-/

namespace TextAdventure

/-! ### Vocabularies -/

/-- A fault of a vocabulary. -/
inductive VocabularyFault where
  /-- A built-in command has no word. -/
  | noWord (b : Builtin)
  /-- An alias stands for no command. -/
  | danglingAlias (word key : String)
  deriving DecidableEq, Repr

namespace Vocabulary

/-- The faults of a vocabulary that leave commands out of reach. -/
def faults (v : Vocabulary) : List VocabularyFault :=
  (Builtin.all.filter fun b => (v.commands.lookup b.key).isNone).map .noWord ++
    (v.aliases.filter fun a => (v.commands.lookup a.2).isNone).map fun a => .danglingAlias a.1 a.2

/-- The text that reports a fault. -/
def faultMessage (v : Vocabulary) : VocabularyFault → String
  | .noWord b => "Command '" ++ b.key ++ "' has no word in language '" ++ v.language ++ "'"
  | .danglingAlias word key =>
    "Alias '" ++ word ++ "' points to unknown command '" ++ key ++ "'"

end Vocabulary

/-! ### Worlds -/

/-- A fault of a world. -/
inductive WorldFault where
  /-- Two rooms are at one position. -/
  | sharedPosition (first second : String) (x y : Int) (map : String)
  /-- A command of taking is about no item. -/
  | noItem (room trigger : String)
  /-- An effect moves in a direction that has no word. -/
  | unknownDirection (room trigger word : String)
  /-- An item change names no item. -/
  | emptyItem (room trigger : String)
  /-- There is no room where players begin. -/
  | noOrigin (x y : Int) (map : String)
  deriving DecidableEq, Repr

namespace WorldFault

/-- The text that reports a fault. -/
def message : WorldFault → String
  | .sharedPosition first second x y map =>
    "Rooms '" ++ first ++ "' and '" ++ second ++ "' share coordinates (" ++ toString x ++ ", " ++
      toString y ++ ") in map '" ++ map ++ "'"
  | .noItem room trigger =>
    "Room '" ++ room ++ "' has a '" ++ trigger ++ "' attribute without an item"
  | .unknownDirection room trigger word =>
    "Room '" ++ room ++ "' attribute '" ++ trigger ++ "' moves in unknown direction '" ++ word ++
      "'"
  | .emptyItem room trigger =>
    "Room '" ++ room ++ "' attribute '" ++ trigger ++ "' has an empty item change"
  | .noOrigin x y map =>
    "Origin (" ++ toString x ++ ", " ++ toString y ++ ") has no room in map '" ++ map ++ "'"

/-- Whether the positions in the text that reports a fault can be written. -/
def isWritable : WorldFault → Bool
  | .sharedPosition _ _ x y _ | .noOrigin x y _ => Text.isWritable x && Text.isWritable y
  | .noItem .. | .unknownDirection .. | .emptyItem .. => true

end WorldFault

/-- Whether a word for an item change names no item. -/
def isEmptyChange (word : String) : Bool := word.toList.all fun c => c == '+' || c == '-'

/-- The faults of an effect. -/
def Effect.faults (v : Vocabulary) (room trigger : String) (e : Effect) : List WorldFault :=
  (match e.move with
    | some (.word w) =>
      if (v.directions.lookup (Text.fold w)).isNone then [.unknownDirection room trigger w] else []
    | _ => []) ++
  (e.items.filter isEmptyChange).map fun _ => .emptyItem room trigger

/-- The faults of an attribute. -/
def Attribute.faults (v : Vocabulary) (room : String) (a : Attribute) : List WorldFault :=
  (if Text.fold a.name = Text.fold (v.wordFor .get) ∧ a.item.getD "" = "" then
    [.noItem room a.name] else []) ++
  a.conditions.flatMap fun c =>
    match c.effect with
    | some e => e.faults v room a.name
    | none => []

/-- The fault of a room that stands where an earlier one does. -/
def Room.positionFaults (earlier : List Room) (r : Room) : List WorldFault :=
  match earlier.find? fun o => o.x == r.x && o.y == r.y && o.map == r.map with
  | some o => [.sharedPosition o.name r.name r.x r.y r.map]
  | none => []

/-- The faults of rooms, each checked against those before it. -/
def roomFaults (v : Vocabulary) : List Room → List Room → List WorldFault
  | _, [] => []
  | earlier, r :: rest =>
    r.positionFaults earlier ++ r.attributes.flatMap (·.faults v r.name) ++
      roomFaults v (earlier ++ [r]) rest

namespace World

/-- The faults of a world that would go wrong in play. -/
def faults (w : World) (v : Vocabulary) : List WorldFault :=
  roomFaults v [] w.rooms ++
    match w.roomAt? w.origin.1 w.origin.2 "" with
    | some _ => []
    | none => [.noOrigin w.origin.1 w.origin.2 w.map]

end World

/-- A warning: an attribute that an earlier one of the same kind, name and item always precedes. -/
structure Shadowing where
  room : String
  kind : AttributeKind
  name : String
  deriving DecidableEq, Repr

namespace Shadowing

/-- The text of a warning. -/
def message (s : Shadowing) : String :=
  "Room '" ++ s.room ++ "' declares " ++ s.kind.word ++ " '" ++ s.name ++
    "' more than once; the first one wins"

end Shadowing

/-- What attributes are compared by: kind, folded name and folded item. -/
def Attribute.signature (a : Attribute) : AttributeKind × String × String :=
  (a.kind, Text.fold a.name, Text.fold (a.item.getD ""))

/-- The attributes that repeat the signature of an earlier one. -/
def repeated : List Attribute → List Attribute → List Attribute
  | _, [] => []
  | earlier, a :: rest =>
    (if earlier.any fun o => o.signature == a.signature then [a] else []) ++
      repeated (earlier ++ [a]) rest

/-- The warnings about a world. -/
def World.warnings (w : World) : List Shadowing :=
  w.rooms.flatMap fun r => (repeated [] r.attributes).map fun a => ⟨r.name, a.kind, a.name⟩

end TextAdventure
