import TextAdventure.Disk.Basic
import TextAdventure.Host
import TextAdventure.Language.Bundled
import TextAdventure.Log.Event
import TextAdventure.Value.Access
import TextAdventure.Value.Display

/-!
# Language packs

A language pack is a folder with two documents: the messages of a language and its words. Packs
are found under a data folder by the code of their language. The words are checked when a pack is
loaded; the messages are taken as they come, and `Pack.discrepancies` compares both with the
English pack.
-/

namespace TextAdventure

/-- The two documents of a language pack. -/
inductive PackPart where
  | messages
  | words
  deriving DecidableEq, Repr

namespace PackPart

/-- How the name of the document begins. -/
def stem : PackPart → String
  | .messages => "messages"
  | .words => "parser"

/-- What one entry of the document is called. -/
def entryWord : PackPart → String
  | .messages => "message"
  | .words => "command"

/-- Where the document of a language is in the data folder. -/
def path (part : PackPart) (language : String) : Path :=
  (Path.ofText language).join (.ofText (part.stem ++ "." ++ language ++ ".yaml"))

end PackPart

/-- Why a language pack cannot be loaded. -/
inductive PackError where
  /-- No language is named. -/
  | nameless
  /-- A document is not there. -/
  | missing (name : String)
  | malformed (name : String)
  /-- The document of the words is no vocabulary. -/
  | invalid (name : String)
  | file (e : FileError)
  | defect (d : Defect)
  deriving DecidableEq, Repr

namespace PackError

/-- The text with which the program ends, where it ends in order. -/
def exitText? : PackError → Option String
  | .missing name => some ("ERROR: Missing file '" ++ name ++ "'")
  | .malformed name => some ("ERROR: Invalid YAML in '" ++ name ++ "'")
  | .invalid name => some ("ERROR: Invalid parser configuration in '" ++ name ++ "'")
  | .nameless | .file _ | .defect _ => none

/-- What is logged about the failure. -/
def events : PackError → List Event
  | .missing name => [.fileMissing name]
  | .malformed name => [.fileMalformed name]
  | .invalid name => [.vocabularyInvalid name]
  | .nameless | .file _ | .defect _ => []

end PackError

/-- The messages and the words of one language. -/
structure Pack where
  language : String
  messages : Value
  vocabulary : Vocabulary
  deriving DecidableEq, Repr

namespace Pack

/-- Loads one document of a language. -/
def loadPart (data : Disk) (part : PackPart) (language : String) : Except PackError Value :=
  let path := part.path language
  match data.load path with
  | .ok v => .ok v.orEmptyTable
  | .error (.file .missing) => .error (.missing path.name)
  | .error (.file e) => .error (.file e)
  | .error (.content .malformed) => .error (.malformed path.name)
  | .error (.content (.defect d)) => .error (.defect d)

/-- Loads the messages of a language. -/
def loadMessages (data : Disk) (language : String) : Except PackError Value :=
  loadPart data .messages language

/-- Loads the words of a language. -/
def loadVocabulary (data : Disk) (language : String) : Except PackError Vocabulary := do
  let v ← loadPart data .words language
  let v ← (v.putNew "language" (.text language)).mapError .defect
  match Vocabulary.read v with
  | .valid vocabulary => return vocabulary
  | .invalid _ => .error (.invalid (PackPart.words.path language).name)

/-- Loads the pack of a language. -/
def load (data : Disk) (language : String) : Except PackError Pack := do
  return { language
           messages := ← loadMessages data language
           vocabulary := ← loadVocabulary data language }

end Pack

/-! ### Comparing packs -/

/-- A key that one of two packs has and the other has not. -/
inductive Discrepancy where
  /-- A key of the reference has no entry in the pack. -/
  | lacking (part : PackPart) (key : Value)
  /-- A key of the pack is not in the reference. -/
  | unused (part : PackPart) (key : Value)
  deriving DecidableEq, Repr

/-- The text that reports a discrepancy. -/
def Discrepancy.message : Discrepancy → String
  | .lacking part key =>
    "Missing translation for " ++ part.entryWord ++ " '" ++ key.display ++ "'"
  | .unused part key =>
    "Unused " ++ part.entryWord ++ " translation '" ++ key.display ++ "' ignored"

/-- The key that one of the packs has not. -/
def Discrepancy.key : Discrepancy → Value
  | .lacking _ key | .unused _ key => key

/-- Whether the text that reports a discrepancy can be written and is taken. -/
def Discrepancy.isTold (host : Host) (d : Discrepancy) : Bool :=
  d.key.isWritable &&
    match d.key.bare with
    | .damaged codes => host.takes codes
    | _ => true

namespace Pack

/-- The elements of a value that another one does not have. -/
def notIn (v other : Value) : Except Defect (List Value) := do
  (← v.elements).filterM fun key => do return !(← other.hasElement key)

/-- The entries of a document that are compared: all messages, and the words for commands. -/
def comparedEntries (part : PackPart) (v : Value) : Except Defect Value :=
  match part with
  | .messages => .ok v
  | .words => v.entryOr "commands" (.table [])

/-- The language whose pack the others are compared with. -/
def referenceLanguage : String := "en"

/-- The discrepancies between one document of a language and that of the reference; none if one of
them is not there. -/
def partDiscrepancies (data : Disk) (language : String) (part : PackPart) :
    Except LoadError (List Discrepancy) := do
  let reference := part.path referenceLanguage
  let ownPath := part.path language
  let find (path : Path) : Except LoadError Bool := (data.has path).mapError .file
  if ← (do if ← find reference then find ownPath else return false) then
    let lift {α : Type} (x : Except Defect α) : Except LoadError α :=
      x.mapError fun d => .content (.defect d)
    let base := (← data.load reference).orEmptyTable
    let own := (← data.load ownPath).orEmptyTable
    let base ← lift (comparedEntries part base)
    let own ← lift (comparedEntries part own)
    let lacking ← lift (notIn base own)
    let unused ← lift (notIn own base)
    return lacking.map (.lacking part) ++ unused.map (.unused part)
  else return []

/-- The discrepancies between the pack of a language and the reference. -/
def discrepancies (data : Disk) (language : String) : Except LoadError (List Discrepancy) := do
  return (← partDiscrepancies data language .messages) ++
    (← partDiscrepancies data language .words)

end Pack

/-- The data folder that comes with the game. -/
def Bundled.data : Disk where
  folders := []
  files :=
    [(PackPart.messages.path "en", .document Bundled.englishMessages),
      (PackPart.words.path "en", .document Bundled.english.toValue),
      (PackPart.messages.path "de", .document Bundled.germanMessages),
      (PackPart.words.path "de", .document Bundled.german.toValue)]

end TextAdventure
