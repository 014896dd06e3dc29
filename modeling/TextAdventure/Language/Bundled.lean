import TextAdventure.Language.Vocabulary

/-!
# The bundled languages

The words and the messages of the two languages that come with the game, English and German.
-/

namespace TextAdventure

namespace Bundled

/-- The words of English. -/
def english : Vocabulary where
  language := "en"
  commands :=
    [("go", "go"), ("get", "get"), ("reset", "reset"), ("look", "look"), ("exits", "exits")]
  aliases :=
    [("walk", "go"), ("move", "go"), ("head", "go"), ("grab", "get"), ("take", "get"),
      ("pick", "get"), ("see", "look"), ("peep", "look")]
  operators := ["in", "on", "up", "if"]
  linkers := ["and", "or", "then"]
  fluff := ["the"]
  separator := "_"
  everything := "all"
  directions :=
    [("north", (0, -1)), ("n", (0, -1)), ("south", (0, 1)), ("s", (0, 1)), ("east", (1, 0)),
      ("e", (1, 0)), ("west", (-1, 0)), ("w", (-1, 0))]

/-- The words of German. -/
def german : Vocabulary where
  language := "de"
  commands :=
    [("go", "gehe"), ("get", "nimm"), ("reset", "neustart"), ("look", "schau"),
      ("exits", "ausgänge")]
  aliases :=
    [("geh", "go"), ("lauf", "go"), ("laufe", "go"), ("nehme", "get"), ("hole", "get"),
      ("heb", "get"), ("sieh", "look"), ("betrachte", "look")]
  operators := ["in", "auf", "an", "nach", "hoch"]
  linkers := ["und", "oder", "dann"]
  fluff := ["der", "die", "das", "den", "dem"]
  separator := "_"
  everything := "alles"
  directions :=
    [("norden", (0, -1)), ("n", (0, -1)), ("süden", (0, 1)), ("s", (0, 1)), ("osten", (1, 0)),
      ("o", (1, 0)), ("westen", (-1, 0)), ("w", (-1, 0))]

/-- A table of messages. -/
def messageTable (messages : List (String × String)) : Value :=
  .table (messages.map fun m => (.text m.1, .text m.2))

/-- The messages of English. -/
def englishMessages : Value :=
  messageTable
    [("parse_failure", "I don't know what you mean."),
      ("no_match", "I couldn't understand you."),
      ("exits", "Available exits: \x7bexits\x7d"),
      ("no_exits", "There are no exits here."),
      ("nowhere", "You are nowhere at all. Type \"reset\" to start over."),
      ("reset", "You find yourself back where you started."),
      ("reset_all", "You find yourself back where you started, empty-handed."),
      ("dead", "You have died."),
      ("still_dead", "You're still dead. Type \"reset\" to try again."),
      ("win", "You have won!"),
      ("still_won", "You've already won. Type \"reset\" to play again."),
      ("username_prompt", "What is your username? "),
      ("farewell", "Goodbye!")]

/-- The messages of German. -/
def germanMessages : Value :=
  messageTable
    [("parse_failure", "Ich weiß nicht, was du meinst."),
      ("no_match", "Ich habe dich nicht verstanden."),
      ("exits", "Ausgänge: \x7bexits\x7d"),
      ("no_exits", "Hier gibt es keine Ausgänge."),
      ("nowhere", "Du bist nirgendwo. Gib \"neustart\" ein, um von vorne zu beginnen."),
      ("reset", "Du findest dich am Anfang wieder."),
      ("reset_all", "Du findest dich mit leeren Händen am Anfang wieder."),
      ("dead", "Du bist gestorben."),
      ("still_dead", "Du bist immer noch tot. Gib \"neustart\" ein, um es noch einmal zu versuchen."),
      ("win", "Du hast gewonnen!"),
      ("still_won",
        "Du hast bereits gewonnen. Gib \"neustart\" ein, um noch einmal zu spielen."),
      ("username_prompt", "Wie ist dein Benutzername? "),
      ("farewell", "Auf Wiedersehen!")]

end Bundled

end TextAdventure
