import TextAdventure.Player.Inventory
import TextAdventure.Room.Record

/-!
# Players

A player stands at a position of a map, has a status and holds items. Stored players are records;
reading one ignores fields that nobody knows, and writing one leaves out the identity.
-/

namespace TextAdventure

/-- A player. -/
structure Player where
  id : Value
  username : String
  map : String
  x : Int
  y : Int
  status : Status
  items : Inventory
  deriving DecidableEq, Repr

namespace Player

/-- A living player who holds nothing, at a position. -/
def atPosition (username map : String) (x y : Int) : Player :=
  { id := .null, username, map, x, y, status := .alive, items := .empty }

/-- Whether a player plays no more. -/
def isFinished (p : Player) : Bool := p.status != .alive

/-- The player sent back to a place, alive, and with empty hands if everything is reset. -/
def resetTo (p : Player) (place : Int × Int) (everything : Bool) : Player :=
  { p with
    x := place.1
    y := place.2
    status := .alive
    items := if everything then .empty else p.items }

/-- The storable fields of a player, in the order of their names: all but the identity. -/
def toRecord (p : Player) : Fields :=
  [(.text "items", .ofTexts p.items.names), (.text "map", .text p.map),
    (.text "status", .text p.status.word), (.text "username", .text p.username),
    (.text "x", .int p.x), (.text "y", .int p.y)]

/-- Reads a player, and the room the player is said to be in if one is given. -/
def readWithRoom : Value → Checked (Player × Option Room) :=
  Schema.object fun fields =>
    (fun username map x y status items room =>
        ({ id := Schema.identity fields, username, map, x, y, status,
           items := Inventory.ofList items }, room)) <$>
      Schema.required Schema.text "username" fields
      <*> Schema.optional Schema.text defaultMap "map" fields
      <*> Schema.optional Schema.whole 0 "x" fields
      <*> Schema.optional Schema.whole 0 "y" fields
      <*> Schema.optional (Schema.choice Status.words) .alive "status" fields
      <*> Schema.optional (Schema.set Schema.text) [] "items" fields
      <*> Schema.optional (Schema.nullable Room.read) none "room" fields

/-- Reads a player. -/
def read (v : Value) : Checked Player := (readWithRoom v).map (·.1)

end Player

end TextAdventure
