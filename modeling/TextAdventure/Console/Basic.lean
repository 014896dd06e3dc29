import TextAdventure.Text.Words
import TextAdventure.Value.Display

/-!
# Consoles

Text in and text out: a line is read after a prompt, and what is shown is written with a line break
behind it. Prompts always go to the standard output, while all else may go to a stream of its own.
-/

namespace TextAdventure

/-- The lines of an input; the last one may lack its line break. -/
def inputLines (input : String) : List String :=
  let parts := (Text.partsAt '\n' input.toList).map String.ofList
  if parts.getLast? = some "" then parts.dropLast else parts

/-- What stands on a screen after a value has been shown. -/
def shownLine (v : Value) : String := v.display ++ "\n"

/-- A console: its prompt, the lines that are still to be read, and what has been written. -/
structure Console where
  prompt : String
  unread : List String
  written : String
  /-- What has been written to a stream of its own, if there is one. -/
  stream : Option String
  deriving DecidableEq, Repr

namespace Console

/-- A console over an input. -/
def ofInput (prompt input : String) (hasStream : Bool) : Console where
  prompt := prompt
  unread := inputLines input
  written := ""
  stream := if hasStream then some "" else none

/-- Reads a line after the given prompt or the console's own. -/
def readLine (c : Console) (prompt : Option String) : Option String × Console :=
  let c := { c with written := c.written ++ prompt.getD c.prompt }
  (c.unread.head?, { c with unread := c.unread.tail })

/-- Shows a value. -/
def print (c : Console) (v : Value) : Console :=
  match c.stream with
  | some s => { c with stream := some (s ++ shownLine v) }
  | none => { c with written := c.written ++ shownLine v }

end Console

end TextAdventure
