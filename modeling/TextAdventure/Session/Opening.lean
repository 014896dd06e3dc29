import TextAdventure.Game.Basic
import TextAdventure.Language.Pack
import TextAdventure.Store.SaveFile
import TextAdventure.World.Bundled
import TextAdventure.World.Integrity

/-!
# Opening a game

A game is opened over a world, a language pack and perhaps a save file. The world and the pack are
checked first: warnings are reported, and faults keep the game from being opened. Whatever is
reported are lines for the player, in the order in which the checks are made.
-/

namespace TextAdventure

/-- What a game is to be opened with. -/
structure Plan where
  /-- The file of the world; without one the bundled world is played. -/
  world : Option Path
  /-- The language; without one there is no pack to be found. -/
  language : Option String
  /-- The save file; without one nothing is kept. -/
  save : Option Path
  deriving DecidableEq, Repr

/-- How a program ends: with a number, or with a text that says why. -/
inductive Exit where
  | code (n : Nat)
  | text (s : String)
  deriving DecidableEq, Repr

/-- The text of an exit. -/
def Exit.toText : Exit → String
  | .code n => toString n
  | .text s => s

/-- Why a game cannot be opened. -/
inductive OpeningError where
  | worldMissing (path : Path)
  | worldMalformed
  | worldInvalid (problems : List Problem)
  | pack (e : PackError)
  /-- The world or the vocabulary has faults. -/
  | faulty (faults : List String)
  | save (e : StorageError)
  /-- A file cannot be loaded for a reason that nobody reports. -/
  | load (e : LoadError)
  | defect (d : Defect)
  deriving DecidableEq, Repr

namespace OpeningError

/-- The lines that report the failure to the player. -/
def report : OpeningError → List String
  | .worldMissing path =>
    ["ERROR: Missing world file: [Errno 2] No such file or directory: " ++ Text.quoted path.toText]
  | .worldMalformed | .worldInvalid _ => ["ERROR: Invalid world file"]
  | .faulty faults => faults.map ("ERROR: " ++ ·)
  | .save e => ["ERROR: " ++ e.message]
  | .pack _ | .load _ | .defect _ => []

/-- How the program ends, if it ends in order. -/
def exit? : OpeningError → Option Exit
  | .worldMissing _ | .worldMalformed | .worldInvalid _ | .save _ => some (.code 1)
  | .faulty _ => some (.text "Integrity check failed")
  | .pack e => e.exitText?.map .text
  | .load _ | .defect _ => none

/-- What is logged about the failure. -/
def events : OpeningError → List Event
  | .pack e => e.events
  | _ => []

end OpeningError

/-- What opening a game brings: lines for the player, events for the log, and the game. -/
structure Opening where
  lines : List String
  events : List Event
  result : Except OpeningError (Game SavedStore)

namespace Opening

/-- A game that is not opened, after some lines. -/
def refused (lines : List String) (e : OpeningError) : Opening :=
  { lines := lines ++ e.report, events := e.events, result := .error e }

/-- Loads the world. -/
def loadWorld (disk : Disk) (plan : Plan) (host : Host := .boundless) :
    Except OpeningError World :=
  match plan.world with
  | none =>
    (Bundled.world (plan.language.getD Pack.referenceLanguage)).mapError fun e => .load (.file e)
  | some path =>
    match disk.load path with
    | .error (.file .missing) => .error (.worldMissing path)
    | .error (.content .malformed) => .error .worldMalformed
    | .error e => .error (.load e)
    | .ok document =>
      match World.read document.orEmptyTable host with
      | .ok w => .ok w
      | .error (.invalid problems) => .error (.worldInvalid problems)
      | .error (.defect d) => .error (.defect d)

/-- The warnings about a language pack and a world. -/
def warnings (discrepancies : List Discrepancy) (w : World) : List String :=
  (discrepancies.map (·.message) ++ w.warnings.map (·.message)).map ("WARNING: " ++ ·)

/-- The faults of a vocabulary and a world. -/
def faults (v : Vocabulary) (w : World) : List String :=
  v.faults.map v.faultMessage ++ (w.faults v).map (·.message)

/-- The setting of a game in a world with a language pack. -/
def setting (w : World) (pack : Pack) : Setting where
  vocabulary := pack.vocabulary
  messages := pack.messages
  origin := [w.origin.1, w.origin.2]

/-- Opens the store of a game after some lines. -/
def openStore (disk : Disk) (plan : Plan) (lines : List String) (w : World) (pack : Pack)
    (host : Host := .boundless) : Opening :=
  match SavedStore.open? disk plan.save [(roomCollection, w.records)] host with
  | .error (.storage e) => refused lines (.save e)
  | .error (.file e) => refused lines (.load (.file e))
  | .error (.defect d) => refused lines (.defect d)
  | .ok store => { lines, events := [], result := .ok (.new (setting w pack) w.map store) }

/-- Opens a game in a world with the language pack of a data folder. -/
def inWorld (data disk : Disk) (plan : Plan) (language : String) (w : World)
    (host : Host := .boundless) : Opening :=
  match Pack.load data language with
  | .error e => refused [] (.pack e)
  | .ok pack =>
    match Pack.discrepancies data language with
    | .error e => refused [] (.load e)
    | .ok discrepancies =>
      if discrepancies.all (·.isTold host) then
        let lines := warnings discrepancies w
        match faults pack.vocabulary w with
        | [] => openStore disk plan lines w pack host
        | found =>
          -- all faults are put into words before the first one is reported
          if (w.faults pack.vocabulary).all (·.isWritable) then refused lines (.faulty found)
          else refused lines (.defect .badForm)
      else refused [] (.defect .badForm)

/-- Opens a game with the language packs of a data folder. -/
def start (data disk : Disk) (plan : Plan) (host : Host := .boundless) : Opening :=
  match loadWorld disk plan host with
  | .error e => refused [] e
  | .ok w =>
    match plan.language with
    | none => refused [] (.pack .nameless)
    | some language => inWorld data disk plan language w host

end Opening

end TextAdventure
