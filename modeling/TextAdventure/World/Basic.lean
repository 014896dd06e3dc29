import TextAdventure.Host
import TextAdventure.Room.Record
import TextAdventure.Value.Access
import TextAdventure.Value.Display

/-!
# Worlds

The rooms of one map and the position where new players begin. A world is read from authored data:
its rooms are checked one by one, while its name and its origin are taken as they come.
-/

namespace TextAdventure

/-- The rooms of one map, and where players begin. -/
structure World where
  map : String
  origin : Int × Int
  rooms : List Room
  deriving DecidableEq, Repr

/-- Why a world cannot be read from its data. -/
inductive WorldError where
  | defect (d : Defect)
  /-- A room is none. -/
  | invalid (problems : List Problem)
  deriving DecidableEq, Repr

namespace World

/-- Reads the origin: the first two parts of a value as whole numbers. Without one players begin at
the middle of the map. -/
def readOrigin (v : Value) : Except Defect (Int × Int) :=
  if v.isGiven then do
    let x ← (← v.item (.int 0)).toWhole
    let y ← (← v.item (.int 1)).toWhole
    return (x, y)
  else return (0, 0)

/-- The name of a map that a value stands for: its displayed form. A text with codes that are no
characters is its own name. -/
def mapName : Value → Value
  | .damaged codes => .damaged codes
  | v => .text v.display

/-- The name of a map that a value stands for, if the value can be shown. -/
def showName (host : Host) (v : Value) : Except Defect Value :=
  if !v.isWritable then .error .badForm
  else if !host.shows v then .error .endless
  else .ok (mapName v)

/-- Tells the name of a map. -/
def tellName (host : Host) : Value → Except Defect Unit
  | .damaged codes => if host.takes codes then .ok () else .error .badForm
  | _ => .ok ()

/-- Reads one room of a world; a room is on the world's map unless it says otherwise. -/
def readRoom (map : Value) (v : Value) : Except WorldError Room :=
  match v.toFields with
  | .error d => .error (.defect d)
  | .ok fields =>
    match Room.read (.table (fields.putNew "map" map)) with
    | .valid r => .ok r
    | .invalid ps => .error (.invalid ps)

/-- Reads a world. The first room that cannot be read ends the reading. If the name of the map has codes
that are no characters, then no room can be on that map, where players begin, and whoever reports this
has to tell the name. -/
def read (data : Value) (host : Host := .boundless) : Except WorldError World := do
  let lift {α : Type} (x : Except Defect α) : Except WorldError α := x.mapError .defect
  let map ← lift (showName host (← lift (data.entryOr "map" (.text defaultMap))))
  let origin ← lift (readOrigin (← lift (data.entryOr "origin" .null)))
  let rooms ← lift (← lift (data.entryOr "rooms" (.list []))).elements
  let w : World := { map := map.display, origin, rooms := ← rooms.mapM (readRoom map) }
  lift (tellName host map)
  return w

/-- The first room at a position of a map; an empty name stands for the world's own map. -/
def roomAt? (w : World) (x y : Int) (map : String) : Option Room :=
  let map := if map = "" then w.map else map
  w.rooms.find? fun r => r.x == x && r.y == y && r.map == map

/-- The rooms as the records of a collection. -/
def records (w : World) : List Fields := w.rooms.map (·.toRecord)

end World

end TextAdventure
