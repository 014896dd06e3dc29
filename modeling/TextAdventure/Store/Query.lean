import TextAdventure.Store.Error
import TextAdventure.Player.Basic

/-!
# Queries to a store

What a game asks of a store: it looks up players and rooms, inserts players and updates them. The
type of the answer depends on the query.
-/

namespace TextAdventure

/-- The name of the collection of players. -/
def playerCollection : String := "player"

/-- The name of the collection of rooms. -/
def roomCollection : String := "room"

/-- A part of a player that is saved at once. -/
inductive Change where
  | items (items : Inventory)
  | position (x y : Int)
  | status (s : Status)
  deriving DecidableEq, Repr

namespace Change

/-- The fields of the record that a change sets. -/
def fields : Change → Fields
  | .items inv => [(.text "items", .ofTexts inv.names)]
  | .position x y => [(.text "x", .int x), (.text "y", .int y)]
  | .status s => [(.text "status", .text s.word)]

/-- The names of the fields that a change sets, in increasing order. -/
def fieldNames : Change → List String
  | .items _ => ["items"]
  | .position _ _ => ["x", "y"]
  | .status _ => ["status"]

end Change

/-- A query to a store. -/
inductive Query where
  | findPlayer (username map : String)
  | insertPlayer (record : Fields)
  | findRoom (x y : Int) (map : String)
  | updatePlayer (id : Value) (change : Change)
  deriving DecidableEq, Repr

namespace Query

/-- The answer to a query: the record found, the record as it was stored, or whether a record was
updated. -/
@[reducible] def Answer : Query → Type
  | .findPlayer .. => Except StorageError (Option Fields)
  | .insertPlayer .. => Except StorageError Fields
  | .findRoom .. => Except StorageError (Option Fields)
  | .updatePlayer .. => Except StorageError Bool

/-- A query as it is shown to the operator. -/
def describe : Query → String
  | .findPlayer .. => "find player"
  | .insertPlayer .. => "insert player"
  | .findRoom .. => "find room"
  | .updatePlayer _ change => "update player " ++ ",".intercalate change.fieldNames

/-- The fields that the wanted player has. -/
def playerSelector (username map : String) : Fields :=
  [(.text "username", .text username), (.text "map", .text map)]

/-- The fields that the wanted room has. -/
def roomSelector (x y : Int) (map : String) : Fields :=
  [(.text "x", .int x), (.text "y", .int y), (.text "map", .text map)]

/-- The field that the wanted record has, given its identity. -/
def identitySelector (id : Value) : Fields := [(.text "_id", id)]

end Query

/-- Something that answers queries and keeps a state of type `σ` between them. -/
structure Backend (σ : Type) where
  answer : (q : Query) → σ → q.Answer × σ

end TextAdventure
