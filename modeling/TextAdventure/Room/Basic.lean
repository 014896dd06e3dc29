import TextAdventure.Text.CaseFold
import TextAdventure.Value.Fields

/-!
# Rooms and their attributes

A room stands at a position of a map and has attributes, which say what can be done in it. Each
attribute lists the conditions under which something happens, and a condition says what the
player is told and what effect follows.
-/

namespace TextAdventure

/-- The state of a player: only a living one plays on. -/
inductive Status where
  | alive
  | dead
  | win
  deriving DecidableEq, Repr, Inhabited

namespace Status

/-- The word for a status. -/
def word : Status → String
  | .alive => "alive"
  | .dead => "dead"
  | .win => "win"

/-- The words for all statuses. -/
def words : List (String × Status) := [("alive", .alive), ("dead", .dead), ("win", .win)]

@[simp] theorem lookup_word (s : Status) : words.lookup s.word = some s := by cases s <;> rfl

end Status

/-- Where an effect takes the player: by a distance, or in a direction named by a word. -/
inductive Move where
  | delta (dx dy : Int)
  | word (w : String)
  deriving DecidableEq, Repr

/-- What happens to the player. -/
structure Effect where
  /-- Where the player is taken. -/
  move : Option Move
  /-- The item changes, in order: a leading minus takes an item away, all else gives one. -/
  items : List String
  /-- The status that the player gets. -/
  status : Option Status
  deriving DecidableEq, Repr

/-- A case of an attribute: with the required items in hand the player is told the message, and
the effect follows. -/
structure Condition where
  needs : List String
  message : String
  effect : Option Effect
  deriving DecidableEq, Repr

/-- An attribute is a way out of the room or a command that works in it. -/
inductive AttributeKind where
  | exit
  | command
  deriving DecidableEq, Repr

namespace AttributeKind

/-- The word for a kind. -/
def word : AttributeKind → String
  | .exit => "exit"
  | .command => "command"

/-- The words for both kinds. -/
def words : List (String × AttributeKind) := [("exit", .exit), ("command", .command)]

@[simp] theorem lookup_word (k : AttributeKind) : words.lookup k.word = some k := by
  cases k <;> rfl

end AttributeKind

/-- Something that can be done in a room. -/
structure Attribute where
  kind : AttributeKind
  name : String
  /-- The item that a command of taking is about. -/
  item : Option String
  /-- Further names of an exit. -/
  aliases : List String
  /-- The cases, from the most to the least specific. -/
  conditions : List Condition
  deriving DecidableEq, Repr

/-- The name of the command that is run when a player enters the room. -/
def entryName : String := "enter"

namespace Attribute

/-- Whether a name means this attribute: its own name or one of its aliases, regardless of
case. -/
def answersTo (a : Attribute) (name : String) : Bool :=
  Text.fold a.name == Text.fold name || a.aliases.any fun s => Text.fold s == Text.fold name

/-- Whether this is a command that is run on entry. -/
def isEntry (a : Attribute) : Bool :=
  a.kind == .command && Text.fold a.name == entryName

end Attribute

/-- The map that rooms and players are on when none is named. -/
def defaultMap : String := "default"

/-- A room. -/
structure Room where
  id : Value
  x : Int
  y : Int
  map : String
  name : String
  description : String
  attributes : List Attribute
  deriving DecidableEq, Repr

namespace Room

/-- The room without anything that a player is in where the map has none. -/
def empty (x y : Int) (map : String) : Room :=
  { id := .null, x, y, map, name := "", description := "", attributes := [] }

/-- The attribute that is run on entry: the first one of that kind. -/
def entry? (r : Room) : Option Attribute := r.attributes.find? (·.isEntry)

/-- The ways out of the room. -/
def exits (r : Room) : List Attribute := r.attributes.filter (·.kind == .exit)

end Room

end TextAdventure
