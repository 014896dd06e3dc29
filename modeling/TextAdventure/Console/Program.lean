import TextAdventure.Console.Basic
import TextAdventure.Console.CommandLine
import TextAdventure.Session.Basic

/-!
# The program on the console

The program asks for a name unless it is given one, opens a game and plays it line by line. It is a
machine that is fed lines: `Program.start` begins with the arguments, and `Program.feed` goes on
with a line or with the end of the input. Both tell what is to be written on the screen and what is
logged.
-/

namespace TextAdventure

/-- Why the program breaks off. -/
inductive Breakdown where
  | pack (e : PackError)
  | opening (e : OpeningError)
  | turn (c : Crash)
  /-- The file for the log cannot be written. -/
  | logFile (e : FileError)
  deriving DecidableEq, Repr

/-- How the program has ended. -/
inductive Ending where
  | finished
  | misused
  | broken (b : Breakdown)
  deriving DecidableEq, Repr

/-- The exit of the program, if it has ended in order. -/
def Ending.exit? : Ending → Option Exit
  | .finished => some (.code 0)
  | .misused => some (.code 2)
  | .broken (.pack e) => e.exitText?.map .text
  | .broken (.opening e) => e.exit?
  | .broken (.turn _) | .broken (.logFile _) => none

/-- How far the program has come. -/
inductive Phase where
  /-- The player is asked for a name. -/
  | naming
  | playing (s : Session)
  | ended (e : Ending)

/-- The program on the console. -/
structure Program where
  /-- The folder of the language packs. -/
  data : Disk
  disk : Disk
  options : Options
  phase : Phase

/-- What a step of the program writes on the screen and logs. -/
structure Output where
  text : String
  events : List Event

namespace Output

/-- Nothing is written. -/
def none : Output := ⟨"", []⟩

/-- Only a text is written. -/
def ofText (text : String) : Output := ⟨text, []⟩

/-- One output after another. -/
def append (a b : Output) : Output := ⟨a.text ++ b.text, a.events ++ b.events⟩

end Output

namespace Program

/-- What stands before every line of the player. -/
def prompt : String := "> "

/-- What asks for a name, if the messages say nothing about it. -/
def namePrompt : String := "What is your username? "

/-- The program at its end. -/
def endWith (p : Program) (e : Ending) (out : Output) : Program × Output :=
  ({ p with phase := .ended e }, out)

/-- Whether an event is logged. -/
def isLogged (o : Options) (e : Event) : Bool :=
  e.level.passes (Level.threshold (o.debugging != .off))

/-- What is to be opened. -/
def plan (o : Options) : Plan :=
  let named (text : Option String) : Option Path := (text.filter (· != "")).map .ofText
  { world := named o.world, language := o.language, save := named o.save }

/-- Begins the file for the log, if there is one. -/
def openLog (p : Program) : Except FileError Disk :=
  match p.options.debugging with
  | .file path => p.disk.write (.ofText path) (.text "")
  | .off | .on => .ok p.disk

/-- Opens the game for a player. -/
def openGame (p : Program) (username : String) : Program × Output :=
  match p.openLog with
  | .error e => p.endWith (.broken (.logFile e)) .none
  | .ok disk =>
    let p := { p with disk }
    let opening := Opening.start p.data p.disk (plan p.options)
    let lines := String.join (opening.lines.map fun l => shownLine (.text l))
    let events := opening.events.filter (isLogged p.options)
    match opening.result with
    | .error e => p.endWith (.broken (.opening e)) ⟨lines, events⟩
    | .ok game => ({ p with phase := .playing ⟨username, game⟩ }, ⟨lines ++ prompt, events⟩)

/-- Asks for a name. -/
def askName (p : Program) : Program × Output :=
  let messages : Except PackError Value :=
    match p.options.language with
    | some language => Pack.loadMessages p.data language
    | none => .error .nameless
  match messages with
  | .error e => p.endWith (.broken (.pack e)) ⟨"", e.events⟩
  | .ok messages =>
    match messages.entryOr "username_prompt" (.text namePrompt) with
    | .error d => p.endWith (.broken (.pack (.defect d))) .none
    | .ok question => ({ p with phase := .naming }, .ofText question.display)

/-- The program at its beginning. -/
def start (data disk : Disk) (args : List String) : Program × Output :=
  let p : Program := { data, disk, options := .standard, phase := .naming }
  match Invocation.ofArgs args with
  | .misuse => p.endWith .misused .none
  | .help => p.endWith .finished .none
  | .play options =>
    let p := { p with options }
    match options.username.filter (· != "") with
    | some username => p.openGame username
    | none => p.askName

/-- Plays a line, or says farewell at the end of the input. -/
def play (p : Program) (s : Session) : Option String → Program × Output
  | none =>
    match s.farewell with
    | .ok message => p.endWith .finished (.ofText (shownLine message))
    | .error d => p.endWith (.broken (.turn (.defect d))) .none
  | some line =>
    let (shown, s) := s.hear line
    let p := { p with disk := s.game.store.disk }
    let text := String.join (shown.replies.map shownLine)
    let events := shown.events.filter (isLogged p.options)
    match shown.crash with
    | some c => p.endWith (.broken (.turn c)) ⟨text, events⟩
    | none => ({ p with phase := .playing s }, ⟨text ++ prompt, events⟩)

/-- Goes on with a line, or with the end of the input. -/
def feed (p : Program) (line : Option String) : Program × Output :=
  match p.phase with
  | .naming =>
    match (line.map Text.trimBlanks).filter (· != "") with
    | some username => p.openGame username
    | none => p.endWith .finished .none
  | .playing s => p.play s line
  | .ended _ => (p, .none)

/-- Goes on with all lines of an input to its end. -/
def feedAll (p : Program) : List String → Program × Output
  | [] => p.feed none
  | line :: rest =>
    let (p, out) := p.feed (some line)
    let (p, more) := p.feedAll rest
    (p, out.append more)

/-- Runs the program over an input. -/
def run (data disk : Disk) (args : List String) (input : String) : Program × Output :=
  let (p, out) := start data disk args
  let (p, more) := p.feedAll (inputLines input)
  (p, out.append more)

end Program

end TextAdventure
