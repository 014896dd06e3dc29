import TextAdventure.Schema
import TextAdventure.Text.CaseFold

/-!
# Vocabularies

The words of one language: what players type for the commands that the game itself knows, further
words for these, words that join or pad a command, and the words for directions.
-/

namespace TextAdventure

/-- The commands that the game itself knows. -/
inductive Builtin where
  | go
  | get
  | reset
  | look
  | exits
  deriving DecidableEq, Repr

namespace Builtin

/-- The key under which a vocabulary lists the word for a command. -/
def key : Builtin → String
  | .go => "go"
  | .get => "get"
  | .reset => "reset"
  | .look => "look"
  | .exits => "exits"

/-- All built-in commands. -/
def all : List Builtin := [.go, .get, .reset, .look, .exits]

end Builtin

/-- The words of one language. -/
structure Vocabulary where
  language : String
  /-- The word that players type for each command key. -/
  commands : List (String × String)
  /-- Further words, each with the key of the command that it stands for. -/
  aliases : List (String × String)
  /-- Words that may stand between the verb and the object, like `in` and `on`. -/
  operators : List String
  /-- Words that join two commands, like `and`. -/
  linkers : List String
  /-- Words without meaning, like `the`. -/
  fluff : List String
  /-- What joins the words of an object. -/
  separator : String
  /-- The object of a reset that also empties the inventory. -/
  everything : String
  /-- The distance that each direction leads. -/
  directions : List (String × (Int × Int))
  deriving DecidableEq, Repr

namespace Vocabulary

/-- The word for a command key; a key without a word stands for itself. -/
def wordForKey (v : Vocabulary) (key : String) : String := (v.commands.lookup key).getD key

/-- The word for a built-in command. -/
def wordFor (v : Vocabulary) (b : Builtin) : String := v.wordForKey b.key

/-- Whether a folded word is one of a list of words, regardless of case. -/
def isAmong (word : String) (words : List String) : Bool := words.any fun w => Text.fold w == word

/-- The command word that a folded alias stands for. Of two aliases that differ in case only, the
later one counts; one that stands for an empty word does not. -/
def resolveAlias? (v : Vocabulary) (word : String) : Option String :=
  match v.aliases.reverse.find? fun a => Text.fold a.1 == word with
  | some a =>
    let target := v.wordForKey a.2
    if target = "" then none else some target
  | none => none

/-- The spelling of a folded command word: the word of the last command that has it, or else the
word as it is. -/
def spelling (v : Vocabulary) (word : String) : String :=
  ((v.commands.reverse.find? fun c => Text.fold c.2 == word).map (·.2)).getD word

/-- The names of the fields of a vocabulary. -/
def fieldNames : List String :=
  ["language", "commands", "aliases", "operators", "linkers", "fluff", "separator", "everything",
    "directions"]

/-- Reads a vocabulary. Only the commands must be given. -/
def read : Value → Checked Vocabulary :=
  Schema.object fun fields =>
    Vocabulary.mk <$> Schema.optional Schema.text "en" "language" fields
      <*> Schema.required (Schema.table Schema.text) "commands" fields
      <*> Schema.optional (Schema.table Schema.text) [] "aliases" fields
      <*> Schema.optional (Schema.list Schema.text) [] "operators" fields
      <*> Schema.optional (Schema.list Schema.text) [] "linkers" fields
      <*> Schema.optional (Schema.list Schema.text) [] "fluff" fields
      <*> Schema.optional Schema.text "_" "separator" fields
      <*> Schema.optional Schema.text "all" "everything" fields
      <*> Schema.optional (Schema.table Schema.wholePair) [] "directions" fields
      <* Schema.onlyFields fieldNames fields

/-- A table of words as a value. -/
def wordTable (words : List (String × String)) : Value :=
  .table (words.map fun w => (.text w.1, .text w.2))

/-- A list of words as a value. -/
def wordList (words : List String) : Value := .list (words.map .text)

/-- A vocabulary as a value. -/
def toValue (v : Vocabulary) : Value :=
  .table
    [(.text "language", .text v.language), (.text "commands", wordTable v.commands),
      (.text "aliases", wordTable v.aliases), (.text "operators", wordList v.operators),
      (.text "linkers", wordList v.linkers), (.text "fluff", wordList v.fluff),
      (.text "separator", .text v.separator), (.text "everything", .text v.everything),
      (.text "directions",
        .table (v.directions.map fun d => (.text d.1, .list [.int d.2.1, .int d.2.2])))]

end Vocabulary

end TextAdventure
