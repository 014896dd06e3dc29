import TextAdventure.Player.Basic
import TextAdventure.Store.Error
import TextAdventure.Value.Display

/-!
# Logged events

What the game reports to its operator. An event is a cause; its level, its title and its named
details are functions of it.
-/

namespace TextAdventure

/-- How serious an event is, from the least to the most. -/
inductive Level where
  | debug
  | info
  | warning
  | error
  deriving DecidableEq, Repr

namespace Level

/-- The rank of a level. -/
def rank : Level → Nat
  | .debug => 0
  | .info => 1
  | .warning => 2
  | .error => 3

/-- The word for a level. -/
def word : Level → String
  | .debug => "debug"
  | .info => "info"
  | .warning => "warning"
  | .error => "error"

/-- The least level that is logged: with debugging on everything is, otherwise all from `info`
on. -/
def threshold (debugging : Bool) : Level := if debugging then .debug else .info

/-- Whether an event of this level passes a threshold. -/
def passes (level least : Level) : Bool := least.rank ≤ level.rank

end Level

/-- An event that is reported to the operator. -/
inductive Event where
  | phraseRead (verb object : String)
  | compoundRefused (line : String)
  | finishedIgnored (username : String) (status : Status)
  | nothingTriggered (verb object : String)
  | unknownDirection (word username : String)
  | playerMoved (username : String) (x y : Int)
  | itemsChanged (username : String) (items : Inventory)
  | statusSet (username : String) (status : Status)
  | playerReset (username : String) (everything : Bool)
  | statusChanged (username : String) (previous : Option Status) (status : Status)
  | noRoom (username : String) (x y : Int) (map : String)
  | chainCutOff (username : String) (rooms : Nat)
  | turnFailed (reason : String) (turn : Value)
  | playerCreated (username map : String)
  | updateFailed (username : String) (fields : List String) (reason : String)
  | updateMissed (username : String) (player : Fields) (fields : List String)
  | fileMissing (file : String)
  | fileMalformed (file : String)
  | vocabularyInvalid (file : String)
  deriving DecidableEq, Repr

namespace Event

/-- How serious an event is. -/
def level : Event → Level
  | .phraseRead .. | .compoundRefused .. | .finishedIgnored .. | .nothingTriggered ..
  | .playerMoved .. | .itemsChanged .. | .statusSet .. => .debug
  | .playerReset .. | .statusChanged .. | .playerCreated .. => .info
  | .unknownDirection .. | .noRoom .. | .chainCutOff .. | .updateFailed ..
  | .updateMissed .. => .warning
  | .turnFailed .. | .fileMissing .. | .fileMalformed .. | .vocabularyInvalid .. => .error

/-- What an event is called in the log. -/
def title : Event → String
  | .phraseRead .. => "parsed command"
  | .compoundRefused .. => "compound command rejected"
  | .finishedIgnored .. => "finished player ignored"
  | .nothingTriggered .. => "no attribute matched"
  | .unknownDirection .. => "unknown direction in effect"
  | .playerMoved .. => "player moved"
  | .itemsChanged .. => "player items"
  | .statusSet .. => "player status"
  | .playerReset .. => "player reset"
  | .statusChanged .. => "player status changed"
  | .noRoom .. => "no room at player position"
  | .chainCutOff .. => "room entry chain cut off"
  | .turnFailed .. => "turn failed"
  | .playerCreated .. => "player created"
  | .updateFailed .. => "player update failed"
  | .updateMissed .. => "player update matched no record"
  | .fileMissing .. => "Missing file"
  | .fileMalformed .. => "Invalid YAML"
  | .vocabularyInvalid .. => "Invalid parser configuration"

/-- The named details of an event. -/
def details : Event → List (String × Value)
  | .phraseRead verb object => [("verb", .text verb), ("object", .text object)]
  | .compoundRefused line => [("text", .text line)]
  | .finishedIgnored username status =>
    [("username", .text username), ("status", .text status.word)]
  | .nothingTriggered verb object => [("verb", .text verb), ("object", .text object)]
  | .unknownDirection word username => [("move", .text word), ("username", .text username)]
  | .playerMoved username x y => [("username", .text username), ("x", .int x), ("y", .int y)]
  | .itemsChanged username items =>
    [("username", .text username), ("items", .ofTexts items.names)]
  | .statusSet username status => [("username", .text username), ("status", .text status.word)]
  | .playerReset username everything =>
    [("username", .text username), ("everything", .bool everything)]
  | .statusChanged username previous status =>
    [("username", .text username),
      ("previous", (previous.map fun s => Value.text s.word).getD .null),
      ("status", .text status.word)]
  | .noRoom username x y map =>
    [("username", .text username), ("x", .int x), ("y", .int y), ("map", .text map)]
  | .chainCutOff username rooms => [("username", .text username), ("rooms", .int rooms)]
  | .turnFailed reason turn => [("error", .text reason), ("command", turn)]
  | .playerCreated username map => [("username", .text username), ("map", .text map)]
  | .updateFailed username fields reason =>
    [("username", .text username), ("fields", .ofTexts fields), ("error", .text reason)]
  | .updateMissed username player fields =>
    [("username", .text username), ("player", .table player), ("fields", .ofTexts fields)]
  | .fileMissing file | .fileMalformed file | .vocabularyInvalid file => [("file", .text file)]

/-- An event as a line of the log. -/
def line (e : Event) : String :=
  "[" ++ e.level.word ++ "] " ++ e.title ++
    String.join (e.details.map fun d => " " ++ d.1 ++ "=" ++ d.2.inspect)

end Event

end TextAdventure
