import TextAdventure.Text.Template
import TextAdventure.Turn.Effect
import TextAdventure.Value.Display

/-!
# Reactions

What a line of a player brings about. `Setting.react` decides on a reaction from the player, the
room and what was read of the line; `Setting.perform` carries it out on the turn. A reset is
decided on before the room is looked at, and an attribute of the room before the commands that
the game itself knows.
-/

namespace TextAdventure

/-- The place where players begin, as it was given: its coordinates, which should be two. -/
abbrev Origin := List Int

namespace Origin

/-- Where a new player is put: at the first two coordinates. -/
def start : Origin → Except Defect (Int × Int)
  | x :: y :: _ => .ok (x, y)
  | _ => .error .outOfRange

/-- Where a reset leads: the coordinates must be two. -/
def place : Origin → Except Defect (Int × Int)
  | [x, y] => .ok (x, y)
  | _ => .error .badForm

@[simp] theorem start_pair (x y : Int) : start [x, y] = .ok (x, y) := rfl

@[simp] theorem place_pair (x y : Int) : place [x, y] = .ok (x, y) := rfl

end Origin

/-- What a game is played with: the words, the messages and the place where players begin. Messages
and place are taken as they are given, and found wanting only when they are needed. -/
structure Setting where
  vocabulary : Vocabulary
  messages : Value
  origin : Origin
  deriving DecidableEq, Repr

/-- What a line brings about. -/
inductive Reaction where
  /-- A player who plays no more is not answered. -/
  | ignored
  /-- The line is no command. -/
  | notUnderstood
  /-- The player begins anew, with empty hands if `everything` is reset. -/
  | reset (everything : Bool)
  /-- The reset of something that cannot be reset. -/
  | resetRefused
  /-- An attribute of the room is at work. -/
  | triggers (a : Attribute)
  | look
  | exits
  /-- Nothing answers to the command. -/
  | unmatched (verb object : String)
  deriving DecidableEq, Repr

namespace Setting

/-- The words for directions, with the distances that they lead. -/
def directions (s : Setting) : Directions := s.vocabulary.directions

/-- What the word for a reset does with an object. -/
def reactToReset (s : Setting) (object : String) : Reaction :=
  if object = "" then .reset false
  else if Text.fold object = Text.fold s.vocabulary.everything then .reset true
  else .resetRefused

/-- What a command does in a room. -/
def reactInRoom (s : Setting) (room : Room) (p : Phrase) : Reaction :=
  match Attribute.triggered? room.attributes (s.vocabulary.wordFor .go) (s.vocabulary.wordFor .get)
      p.verb p.object with
  | some a => .triggers a
  | none =>
    if p.verb = s.vocabulary.wordFor .exits then .exits
    else if p.verb = s.vocabulary.wordFor .look then .look
    else .unmatched p.verb p.object

/-- What a line does, given what was read of it. -/
def react (s : Setting) (player : Player) (room : Room) (phrase : Option Phrase) : Reaction :=
  match phrase with
  | none => if player.isFinished then .ignored else .notUnderstood
  | some p =>
    if p.verb = s.vocabulary.wordFor .reset then s.reactToReset p.object
    else if player.isFinished then .ignored
    else s.reactInRoom room p

/-- Resets the player of a turn. -/
def reset (s : Setting) (t : Turn) (everything : Bool) : Turn × Option Crash :=
  match t.player with
  | none => (t, none)
  | some p =>
    match s.origin.place with
    | .error d => (t, some (.defect d))
    | .ok place =>
      let todo : Pending :=
        { items := t.pending.items || everything, position := true, status := true,
          arrival := true }
      let t := { t with player := some (p.resetTo place everything), pending := todo }
      (t.log (.playerReset p.username everything)).say s.messages
        (if everything then "reset_all" else "reset")

/-- Describes the room. -/
def look (s : Setting) (t : Turn) (room : Room) : Turn × Option Crash :=
  if room.description = "" then t.say s.messages "nowhere"
  else (t.reply (.text room.description), none)

/-- The message that lists the ways out. -/
def exitsMessage (s : Setting) (names : List String) : Except Defect String := do
  match ← s.messages.entry "exits" with
  | .text template => Text.fillTemplate template "exits" (Text.join ", " names)
  | _ => .error .noFeature

/-- Lists the ways out of the room. -/
def listExits (s : Setting) (t : Turn) (room : Room) : Turn × Option Crash :=
  match room.exits.map (·.name) with
  | [] => t.say s.messages "no_exits"
  | names =>
    match s.exitsMessage names with
    | .ok message => (t.reply (.text message), none)
    | .error d => (t, some (.defect d))

/-- Resets as the object of the word for a reset says. -/
def resetObject (s : Setting) (t : Turn) (object : String) : Turn × Option Crash :=
  match s.reactToReset object with
  | .reset everything => s.reset t everything
  | _ => t.say s.messages "no_match"

/-- Carries a reaction out. -/
def perform (s : Setting) (t : Turn) (p : Player) (room : Room) :
    Reaction → Turn × Option Crash
  | .ignored => (t.log (.finishedIgnored p.username p.status), none)
  | .notUnderstood => t.say s.messages "parse_failure"
  | .reset everything => s.reset t everything
  | .resetRefused => t.say s.messages "no_match"
  | .triggers a =>
    match t.trigger s.directions p a with
    | some t => (t, none)
    | none => t.say s.messages "no_match"
  | .look => s.look t room
  | .exits => s.listExits t room
  | .unmatched verb object => (t.log (.nothingTriggered verb object)).say s.messages "no_match"

/-- What is logged about the reading of a line. -/
def readingNotes (line : String) : Reading → List Note
  | .nothing => []
  | .compound => [.log (.compoundRefused line)]
  | .phrase p => [.log (.phraseRead p.verb p.object)]

/-- The room in which the player of a turn acts: the one looked up, or else an empty one. -/
def roomOf (t : Turn) (p : Player) : Room := t.room.getD (.empty p.x p.y p.map)

/-- Acts upon the line of a turn. -/
def dispatch (s : Setting) (t : Turn) : Turn × Option Crash :=
  match t.player with
  | none => (t, none)
  | some p =>
    let reading := s.vocabulary.readLine t.line
    let room := roomOf t p
    let t :=
      { t with
        phrase := reading.phrase?
        notes := t.notes ++ [.acted t.line room] ++ readingNotes t.line reading }
    s.perform t p room (s.react p room reading.phrase?)

/-- Enters a room: describes it and runs the attribute for entry, if there is one. -/
def enterRoom (s : Setting) (t : Turn) (room : Room) : Turn :=
  match t.player with
  | none => t
  | some p =>
    let t := (t.note (.entered room)).reply (.text room.description)
    match room.entry? with
    | none => t
    | some a => (t.trigger s.directions p a).getD t

end Setting

end TextAdventure
