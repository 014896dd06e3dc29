import TextAdventure.Turn.Reaction
import TextAdventure.Turn.Records

/-!
# The course of a turn

A turn looks up its player or creates one, enters the player's room, acts upon the line, saves
what has changed, and announces the rooms the player has come to, each of which may move the
player on. At last it announces a change of status, hands out the replies and is completed.

A failing look-up or insertion ends the turn early: it is completed without replies. A defect of
the messages breaks the turn off, and it is not completed.
-/

namespace TextAdventure

/-- Why a turn does not go on as planned. -/
inductive Halt where
  | storage (e : StorageError)
  | crash (c : Crash)
  deriving DecidableEq, Repr

/-- A turn under way: it ends with the state it has reached and the reason, if it was halted. -/
abbrev Run := Script (Turn × Option Halt)

namespace Run

/-- Goes on unless halted. -/
def andThen (r : Run) (next : Turn → Run) : Run :=
  r.bind fun
    | (t, none) => next t
    | (t, some h) => .done (t, some h)

/-- A step without queries: its notes are passed on. -/
def pass (step : Turn × Option Crash) : Run :=
  .note step.1.notes (.done ({ step.1 with notes := [] }, step.2.map .crash))

end Run

/-- Room entries that move the player on may chain; no more than this many are followed. -/
def maxRoomChain : Nat := 8

namespace Setting

/-- Looks up the player of a turn. A player who is not found is created, and so arrives. -/
def identify (s : Setting) (t : Turn) : Run :=
  (Script.findPlayer t.username t.map).bind fun
    | .error e => .done (t, some (.storage e))
    | .ok (some p) => .done ({ t with player := some p }, none)
    | .ok none =>
      match s.origin.start with
      | .error d => .done (t, some (.crash (.defect d)))
      | .ok place =>
        (Script.createPlayer t.username t.map place).bind fun
          | .error e => .done (t, some (.storage e))
          | .ok p =>
            .done
              ({ t with player := some p, pending := { t.pending with arrival := true } }, none)

/-- Puts the player of a turn into the room that was looked up, or into an empty one. A player who
has just arrived enters the room. -/
def arrive (s : Setting) (t : Turn) (p : Player) : Option Room → Turn × Option Crash
  | none =>
    let t := { t with room := some (.empty p.x p.y p.map) }.log (.noRoom p.username p.x p.y p.map)
    if t.pending.arrival then
      { t with pending := { t.pending with arrival := false } }.say s.messages "nowhere"
    else (t, none)
  | some room =>
    let t := { t with room := some room }
    if t.pending.arrival then
      (s.enterRoom { t with pending := { t.pending with arrival := false } } room, none)
    else (t, none)

/-- Looks up the room the player is in, and enters it if the player has just arrived. -/
def enter (s : Setting) (t : Turn) : Run :=
  match t.player with
  | none => .done (t, none)
  | some p =>
    let t := { t with statusAtEntry := t.statusAtEntry.or (some p.status) }
    (Script.findRoom p.x p.y p.map).bind fun
      | .error e => .done (t, some (.storage e))
      | .ok room => Run.pass (s.arrive t p room)

/-- Saves the items of the player, if they have changed. -/
def persistItems (p : Player) (t : Turn) : Script Turn :=
  if t.pending.items then
    (Script.saveItems p).bind fun _ => .done { t with pending := { t.pending with items := false } }
  else .done t

/-- Saves the position of the player, if it has changed. -/
def persistPosition (p : Player) (t : Turn) : Script Turn :=
  if t.pending.position then
    (Script.savePosition p).bind fun _ =>
      .done { t with pending := { t.pending with position := false } }
  else .done t

/-- Saves the items and the position of the player, as far as they have changed. -/
def persist (t : Turn) : Script Turn :=
  match t.player with
  | none => .done t
  | some p => (persistItems p t).bind (persistPosition p)

/-- Enters the rooms that the player has come to, one after another, up to a number. -/
def announce (s : Setting) : Nat → Turn → Run
  | 0, t =>
    if t.pending.arrival then
      Run.pass ({ t with pending := { t.pending with arrival := false } }.log
        (.chainCutOff t.username maxRoomChain), none)
    else .done (t, none)
  | n + 1, t =>
    if t.pending.arrival then
      (s.enter t).andThen fun t => (persist t).bind fun t => s.announce n t
    else .done (t, none)

/-- The keys of the messages for a status: when it is reached, and while it lasts. -/
def statusKeys : Status → Option (String × String)
  | .alive => none
  | .dead => some ("dead", "still_dead")
  | .win => some ("win", "still_won")

/-- Reminds a player who plays no more. -/
def remind (s : Setting) (t : Turn) (p : Player) : Turn × Option Crash :=
  match statusKeys p.status with
  | none => (t, none)
  | some keys => t.say s.messages keys.2

/-- Tells a player who plays no more from now on. -/
def tellStatus (s : Setting) (t : Turn) (p : Player) : Turn × Option Crash :=
  match statusKeys p.status with
  | none => (t, none)
  | some keys => t.say s.messages keys.1

/-- The turn with its status settled. -/
def settleStatus (t : Turn) : Turn := { t with pending := { t.pending with status := false } }

/-- Announces and saves a change of status, or reminds a player who plays no more. -/
def announceStatus (s : Setting) (t : Turn) : Run :=
  match t.player with
  | none => .done (t, none)
  | some p =>
    if t.statusAtEntry = some p.status then
      (Run.pass (s.remind t p)).andThen fun t => .done (settleStatus t, none)
    else
      (Run.pass (s.tellStatus t p)).andThen fun t =>
        .note [.log (.statusChanged p.username t.statusAtEntry p.status)]
          ((Script.saveStatus p).bind fun _ => .done (settleStatus t, none))

/-- Takes the player out of the room and completes the turn. -/
def conclude (t : Turn) : Run := Run.pass ({ t with room := none }.complete)

/-- Hands out the replies of a turn that went well, to somebody who takes them, or reports one that
failed, and completes it. -/
def finish (s : Setting) (t : Turn) : Run :=
  match t.error with
  | some e =>
    conclude ({ t with replies := [] }.log (.turnFailed e.message t.describe))
  | none =>
    (s.announceStatus t).andThen fun t =>
      conclude { t with notes := t.notes ++ t.replies.map .replied }

/-- The course of a turn up to the announcement of the last room. -/
def advanceTurn (s : Setting) (t : Turn) : Run :=
  (s.identify t).andThen fun t =>
    (s.enter t).andThen fun t =>
      (Run.pass (s.dispatch t)).andThen fun t =>
        (persist t).bind fun t => s.announce maxRoomChain t

/-- The course of a turn. -/
def play (s : Setting) (t : Turn) : Run :=
  (s.advanceTurn t).bind fun
    | (t, none) => s.finish t
    | (t, some (.storage e)) => s.finish { t with error := some e }
    | (t, some (.crash c)) => .done (t, some (.crash c))

end Setting

end TextAdventure
