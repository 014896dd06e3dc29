import TextAdventure.Session.Opening

/-!
# Sessions

A session of one player with a game: lines are heard one after another, each a turn unless it is
blank, until there are no more or a turn breaks off. With a save file that no file can be the first
turn breaks off, since it begins with saving a new player.
-/

namespace TextAdventure

/-- A session of a player with a game. -/
structure Session where
  username : String
  game : Game SavedStore

/-- What a session shows after some lines. -/
structure Shown where
  replies : List Value
  events : List Event
  crash : Option Crash

namespace Session

/-- Hears one line. -/
def hear (s : Session) (line : String) : Shown × Session :=
  if line.toList.all Text.isBlank then (⟨[], [], none⟩, s)
  else if s.game.store.hasBadName then (⟨[], [], some (.defect .badForm)⟩, s)
  else
    let (played, game) :=
      s.game.play SavedStore.backend .straight (s.game.turn line s.username none)
    let notes := played.trace.map (·.2)
    let replies := notes.filterMap fun
      | .replied r => some r
      | _ => none
    let events := notes.filterMap fun
      | .log e => some e
      | _ => none
    let crash := played.turns.findSome? fun
      | (_, some (.crash c)) => some c
      | _ => none
    (⟨replies, events, crash⟩, { s with game })

/-- What the player is told at the end. -/
def farewell (s : Session) : Except Defect Value := s.game.setting.messages.entry "farewell"

/-- Hears the lines one after another and says farewell. What comes with the result are the lines
that nobody has heard. -/
def run (s : Session) : List String → Shown × List String × Session
  | [] =>
    match s.farewell with
    | .ok message => (⟨[message], [], none⟩, [], s)
    | .error d => (⟨[], [], some (.defect d)⟩, [], s)
  | line :: rest =>
    let (shown, s) := s.hear line
    match shown.crash with
    | some _ => (shown, rest, s)
    | none =>
      let (more, unheard, s) := s.run rest
      (⟨shown.replies ++ more.replies, shown.events ++ more.events, more.crash⟩, unheard, s)

end Session

end TextAdventure
