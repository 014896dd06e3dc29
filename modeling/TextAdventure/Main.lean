import TextAdventure.Console.Program

/-!
# Playing on the console

The outermost layer: it hands the files named by the arguments and the lines of the standard input
to the program, writes on the screen what the program shows, sends events to the log and writes
back the files that have changed.
-/

namespace TextAdventure

/-- Whether there is a folder at a path. -/
def isFolderOnDisk (path : Path) : IO Bool := do
  try
    (← IO.FS.realPath path.toText).isDir
  catch _ => return false

/-- The files that the options name, and the folders that these are in, as far as they exist. -/
def readDisk (o : Options) : IO Disk := do
  let logFile := match o.debugging with
    | .file path => some path
    | _ => none
  let mut disk := Disk.empty
  for name in [o.world, o.save, logFile].filterMap (·.filter (· != "")) do
    let path := Path.ofText name
    for folder in [path, { path with steps := path.steps.dropLast }] do
      if ← isFolderOnDisk folder then
        disk := { disk with folders := disk.folders ++ [folder] }
    try
      let bytes ← IO.FS.readBinFile path.toText
      let content : Content :=
        match String.fromUTF8? bytes with
        | some text => .text text
        | none => .raw bytes.toList
      disk := { disk with files := Disk.putFile path content disk.files }
    catch _ => pure ()
  return disk

/-- Writes back the files that have changed. -/
def writeChanges (before after : Disk) : IO Unit := do
  for (path, content) in after.files do
    match content with
    | .text text =>
      if before.file? path != some content then IO.FS.writeFile path.toText text
    | .document _ | .raw _ => pure ()

/-- Sends events to the log. -/
def writeLog (o : Options) (events : List Event) : IO Unit := do
  match o.debugging with
  | .file path =>
    let log ← IO.FS.Handle.mk (Path.ofText path).toText .append
    for e in events do log.putStrLn e.line
  | _ =>
    for e in events do IO.eprintln e.line

/-- Shows a step of the program and carries out what it has changed. -/
def showStep (before : Disk) (p : Program) (out : Output) : IO Unit := do
  writeChanges before p.disk
  unless out.events.isEmpty do writeLog p.options out.events
  let screen ← IO.getStdout
  screen.putStr out.text
  screen.flush

/-- The number with which the program leaves; a text that says why goes to the error output. -/
def leave (e : Ending) : IO UInt32 := do
  match e.exit? with
  | some (.code n) => return n.toUInt32
  | some (.text reason) =>
    IO.eprintln reason
    return 1
  | none =>
    IO.eprintln "The game broke off."
    return 1

/-- Feeds the lines of the standard input to the program until it ends. -/
partial def playLines (p : Program) : IO UInt32 := do
  match p.phase with
  | .ended e => leave e
  | _ =>
    let typed ← (← IO.getStdin).getLine
    let line := if typed.isEmpty then none else (inputLines typed).head?
    let (next, out) := p.feed line
    showStep p.disk next out
    playLines next

end TextAdventure

open TextAdventure in
/-- Plays a game on the console. -/
def main (args : List String) : IO UInt32 := do
  let disk ← match Invocation.ofArgs args with
    | .play o => readDisk o
    | _ => pure Disk.empty
  let (p, out) := Program.start Bundled.data disk args
  showStep disk p out
  playLines p
