import TextAdventure.Schema

/-!
# Failures of a store

Why a store, or the reading of what it holds, fails.
-/

namespace TextAdventure

/-- A failure of a store. -/
inductive StorageError where
  /-- The store itself refuses the call. -/
  | refused (reason : String)
  /-- The record found for a player is no player. -/
  | invalidPlayer (username : String) (problems : List Problem)
  /-- A new player was stored, but the store gave no identity. -/
  | noIdentity (username : String)
  /-- The record found at a position is no room. -/
  | invalidRoom (x y : Int) (map : String) (problems : List Problem)
  /-- The save file cannot be read. -/
  | unreadableSave (path : String)
  /-- The save file can be read but holds no list of players. -/
  | noPlayerList (path : String)
  /-- The save file cannot be written. -/
  | unwritableSave (path : String)
  deriving DecidableEq, Repr

namespace StorageError

/-- The text that reports a failure. -/
def message : StorageError → String
  | .refused reason => reason
  | .invalidPlayer username _ => "Invalid player record for '" ++ username ++ "'"
  | .noIdentity username => "Player '" ++ username ++ "' was stored without an identity"
  | .invalidRoom x y map _ =>
    "Invalid room record at (" ++ toString x ++ ", " ++ toString y ++ ") in '" ++ map ++ "'"
  | .unreadableSave path => "Failed to load save file '" ++ path ++ "'"
  | .noPlayerList path => "Save file '" ++ path ++ "' does not hold a 'player' list"
  | .unwritableSave path => "Failed to write save file '" ++ path ++ "'"

/-- The problems of the record that was found, if it is the record that is at fault. -/
def problems : StorageError → List Problem
  | .invalidPlayer _ ps => ps
  | .invalidRoom _ _ _ ps => ps
  | _ => []

end StorageError

end TextAdventure
