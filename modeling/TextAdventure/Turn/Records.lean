import TextAdventure.Turn.Script

/-!
# Players and rooms from a store

The scripts by which a turn gets players and rooms from a store and saves what has changed. A
failing look-up or insertion is an error; a failing update is only logged.
-/

namespace TextAdventure

namespace Script

/-- The player that a look-up brings: a record that is found must be one of a player. -/
def playerFound (username : String) :
    Except StorageError (Option Fields) → Except StorageError (Option Player)
  | .error e => .error e
  | .ok none => .ok none
  | .ok (some record) =>
    match Player.read (.table record) with
    | .valid p => .ok (some p)
    | .invalid problems => .error (.invalidPlayer username problems)

/-- The player that an insertion brings: the store must give an identity. -/
def playerCreated (p : Player) : Except StorageError Fields → Except StorageError Player
  | .error e => .error e
  | .ok stored =>
    match stored.get? "_id" with
    | none | some .null => .error (.noIdentity p.username)
    | some id => .ok { p with id }

/-- The room that a look-up brings: a record that is found must be one of a room. -/
def roomFound (x y : Int) (map : String) :
    Except StorageError (Option Fields) → Except StorageError (Option Room)
  | .error e => .error e
  | .ok none => .ok none
  | .ok (some record) =>
    match Room.read (.table record) with
    | .valid r => .ok (some r)
    | .invalid problems => .error (.invalidRoom x y map problems)

/-- What is logged about a change of a player that could not be saved. -/
def saveNotes (p : Player) (change : Change) : Except StorageError Bool → List Note
  | .error e => [.log (.updateFailed p.username change.fieldNames e.message)]
  | .ok false => [.log (.updateMissed p.username p.toRecord change.fieldNames)]
  | .ok true => []

/-- Whether a change was saved. -/
def isSaved : Except StorageError Bool → Bool
  | .ok saved => saved
  | .error _ => false

/-- Looks up a player. -/
def findPlayer (username map : String) : Script (Except StorageError (Option Player)) :=
  .ask (.findPlayer username map) fun answer => .done (playerFound username answer)

/-- Stores a new player at a place. The store gives the identity. -/
def createPlayer (username map : String) (place : Int × Int) :
    Script (Except StorageError Player) :=
  let p := Player.atPosition username map place.1 place.2
  .ask (.insertPlayer p.toRecord) fun answer =>
    match playerCreated p answer with
    | .error e => .done (.error e)
    | .ok p => .note [.log (.playerCreated username map)] (.done (.ok p))

/-- Looks up the room at a position. -/
def findRoom (x y : Int) (map : String) : Script (Except StorageError (Option Room)) :=
  .ask (.findRoom x y map) fun answer => .done (roomFound x y map answer)

/-- Saves a change of a player; the result tells whether it was saved. -/
def savePlayer (p : Player) (change : Change) : Script Bool :=
  .ask (.updatePlayer p.id change) fun answer =>
    .note (saveNotes p change answer) (.done (isSaved answer))

/-- Saves the items of a player. -/
def saveItems (p : Player) : Script Bool := savePlayer p (.items p.items)

/-- Saves the position of a player. -/
def savePosition (p : Player) : Script Bool := savePlayer p (.position p.x p.y)

/-- Saves the status of a player. -/
def saveStatus (p : Player) : Script Bool := savePlayer p (.status p.status)

end Script

end TextAdventure
