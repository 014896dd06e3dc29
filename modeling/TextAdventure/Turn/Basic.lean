import TextAdventure.Language.Phrase
import TextAdventure.Log.Event
import TextAdventure.Value.Access

/-!
# Turns

A turn carries one line of one player from the store to the replies. `Turn` is its working state:
the player and the room as far as they are known, the replies so far, and what is still to be
saved or announced. While it works, a turn notes what happens, for the log and for whoever
watches it.
-/

namespace TextAdventure

/-- What a turn has changed and still has to save or announce. -/
structure Pending where
  items : Bool
  position : Bool
  status : Bool
  /-- The player has come to a place that has not been announced. -/
  arrival : Bool
  deriving DecidableEq, Repr

/-- Nothing is left to do. -/
def Pending.none : Pending := ⟨false, false, false, false⟩

/-- A note of what happens in a turn. -/
inductive Note where
  /-- An event for the log. -/
  | log (event : Event)
  /-- A room is entered: it is described, and its entry attribute is run. -/
  | entered (room : Room)
  /-- A line is acted upon in a room. -/
  | acted (line : String) (room : Room)
  /-- A condition of an attribute is applied to a player, who becomes another. -/
  | applied (trigger : Attribute) (condition : Condition) (before after : Player)
  /-- A reply is handed to the player. -/
  | replied (reply : Value)
  /-- The turn is handed back as complete. -/
  | completed
  deriving DecidableEq, Repr

/-- The working state of a turn. -/
structure Turn where
  line : String
  username : String
  map : String
  player : Option Player
  /-- The room the player is in, once it has been looked up. -/
  room : Option Room
  phrase : Option Phrase
  /-- The replies so far; message tables may hold any value. -/
  replies : List Value
  pending : Pending
  /-- The status the player had when the turn began. -/
  statusAtEntry : Option Status
  error : Option StorageError
  isComplete : Bool
  /-- The notes that have been taken and not yet passed on. -/
  notes : List Note
  deriving DecidableEq, Repr

/-- Why a turn breaks off without being completed. -/
inductive Crash where
  /-- A message is missing or cannot be used. -/
  | defect (d : Defect)
  /-- The turn is completed a second time. -/
  | alreadyComplete (line username : String)
  deriving DecidableEq, Repr

namespace Turn

/-- A turn at its beginning. -/
def start (line username map : String) : Turn :=
  { line, username, map, player := none, room := none, phrase := none, replies := [],
    pending := .none, statusAtEntry := none, error := none, isComplete := false, notes := [] }

/-- Adds a reply. -/
def reply (t : Turn) (r : Value) : Turn := { t with replies := t.replies ++ [r] }

/-- Takes a note. -/
def note (t : Turn) (n : Note) : Turn := { t with notes := t.notes ++ [n] }

/-- Notes an event for the log. -/
def log (t : Turn) (e : Event) : Turn := t.note (.log e)

/-- Replies with the message of a table that stands under a key. -/
def say (t : Turn) (messages : Value) (key : String) : Turn × Option Crash :=
  match messages.entry key with
  | .ok message => (t.reply message, none)
  | .error d => (t, some (.defect d))

/-- Completes a turn; this is allowed once. -/
def complete (t : Turn) : Turn × Option Crash :=
  if t.isComplete then (t, some (.alreadyComplete t.line t.username))
  else ({ t with isComplete := true }.note .completed, none)

/-- A turn as it is shown to the operator. -/
def describe (t : Turn) : Value :=
  .table
    [(.text "text", .text t.line),
      (.text "username", .text t.username),
      (.text "map", .text t.map),
      (.text "player", (t.player.map fun p => Value.table p.toRecord).getD .null),
      (.text "verb", (t.phrase.map fun p => Value.text p.verb).getD .null),
      (.text "object", (t.phrase.map fun p => Value.text p.object).getD .null),
      (.text "replies", .list t.replies),
      (.text "dirty", .table
        [(.text "items", .bool t.pending.items), (.text "position", .bool t.pending.position),
          (.text "status", .bool t.pending.status),
          (.text "announce_room", .bool t.pending.arrival)]),
      (.text "status_at_entry", (t.statusAtEntry.map fun s => Value.text s.word).getD .null)]

end Turn

/-- The text that reports a crash, where it has one of its own. -/
def Crash.message : Crash → String
  | .defect _ => ""
  | .alreadyComplete line username =>
    "Command '" ++ line ++ "' for '" ++ username ++ "' already completed"

end TextAdventure
