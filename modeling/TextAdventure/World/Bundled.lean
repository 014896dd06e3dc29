import TextAdventure.Disk.Basic
import TextAdventure.World.Basic

/-!
# The bundled worlds

The sample world that comes with the game, in English and in German. There is a key to find, a pit
to fall into and a treasure to open.
-/

namespace TextAdventure

namespace Bundled

/-- A case that only tells something. -/
def tells (message : String) (needs : List String) : Condition := ⟨needs, message, none⟩

/-- A case with an effect. -/
def does (message : String) (needs : List String) (effect : Effect) : Condition :=
  ⟨needs, message, some effect⟩

/-- The effect of walking in a direction. -/
def walk (word : String) : Effect := ⟨some (.word word), [], none⟩

/-- The effect of a change of items. -/
def swap (items : List String) : Effect := ⟨none, items, none⟩

/-- A way out. -/
def wayOut (name short : String) (conditions : List Condition) : Attribute :=
  ⟨.exit, name, none, [short], conditions⟩

/-- A command. -/
def command (name : String) (conditions : List Condition) : Attribute :=
  ⟨.command, name, none, [], conditions⟩

/-- A room of the sample world. -/
def room (name : String) (x y : Int) (description : String) (attributes : List Attribute) : Room :=
  { id := .null, x, y, map := defaultMap, name, description, attributes }

/-- The sample world in English. -/
def englishWorld : World where
  map := defaultMap
  origin := (0, 0)
  rooms :=
    [room "key_room" 0 0 "This room looks pretty plain."
        [command "look"
            [tells "This room had a key in it, but it's empty now." ["key"],
              tells "Huh, there's a key here." []],
          { command "get"
              [tells "You already have the key." ["key"],
                does "You pick up the key…" [] (swap ["+key"])] with
            item := some "key" },
          wayOut "north" "n" [does "You head north…" [] (walk "north")]],
      room "cave_entrance" 0 (-1) "You find yourself in another room. It's a lot like the first one."
        [command "look"
            [tells "It looks like your key might open the northern door…" ["key"],
              tells "It looks like the northern door is locked." []],
          wayOut "north" "n"
            [does "You use your key to open the lock, and continue onward." ["key"] (walk "north"),
              tells "You need a key to open this door." []],
          wayOut "east" "e"
            [does "You squeeze through a crack in the eastern wall…" [] (walk "east")],
          wayOut "south" "s" [does "You head south…" [] (walk "south")]],
      room "pit" 1 (-1) "It's pitch black in here."
        [command "enter"
            [does "You stumble forward and fall into a bottomless pit." []
              ⟨none, [], some .dead⟩]],
      room "treasure_room" 0 (-2) "A cavern opens up before you, glittering with gold."
        [command "enter"
            [does "The key snaps in the lock as the treasure chest swings open." ["key"]
                ⟨none, ["-key", "+gold"], some .win⟩,
              tells "The treasure chest is locked tight." []],
          wayOut "south" "s" [does "You head south…" [] (walk "south")]]]

/-- The sample world in German. -/
def germanWorld : World where
  map := defaultMap
  origin := (0, 0)
  rooms :=
    [room "key_room" 0 0 "Dieser Raum sieht ziemlich schlicht aus."
        [command "schau"
            [tells "Hier lag ein Schlüssel, aber jetzt ist der Raum leer." ["schlüssel"],
              tells "Oh, hier liegt ein Schlüssel." []],
          { command "nimm"
              [tells "Du hast den Schlüssel schon." ["schlüssel"],
                does "Du hebst den Schlüssel auf…" [] (swap ["+schlüssel"])] with
            item := some "schlüssel" },
          wayOut "norden" "n" [does "Du gehst nach Norden…" [] (walk "norden")]],
      room "cave_entrance" 0 (-1)
        "Du stehst in einem weiteren Raum. Er ähnelt sehr dem ersten."
        [command "schau"
            [tells "Dein Schlüssel könnte die nördliche Tür öffnen…" ["schlüssel"],
              tells "Die nördliche Tür scheint verschlossen zu sein." []],
          wayOut "norden" "n"
            [does "Du schließt mit deinem Schlüssel auf und gehst weiter." ["schlüssel"]
                (walk "norden"),
              tells "Du brauchst einen Schlüssel für diese Tür." []],
          wayOut "osten" "o"
            [does "Du zwängst dich durch einen Spalt in der östlichen Wand…" [] (walk "osten")],
          wayOut "süden" "s" [does "Du gehst nach Süden…" [] (walk "süden")]],
      room "pit" 1 (-1) "Hier ist es stockdunkel."
        [command "enter"
            [does "Du stolperst nach vorne und fällst in eine bodenlose Grube." []
              ⟨none, [], some .dead⟩]],
      room "treasure_room" 0 (-2) "Vor dir öffnet sich eine Höhle voller glitzerndem Gold."
        [command "enter"
            [does "Der Schlüssel bricht im Schloss ab, als die Schatztruhe aufspringt."
                ["schlüssel"] ⟨none, ["-schlüssel", "+gold"], some .win⟩,
              tells "Die Schatztruhe ist fest verschlossen." []],
          wayOut "süden" "s" [does "Du gehst nach Süden…" [] (walk "süden")]]]

/-- The sample worlds in languages other than the first one. -/
def otherWorlds : List (String × World) := [("de", germanWorld)]

/-- The name of the file of the sample world in a language. -/
def worldFileIn (language : String) : String := "default." ++ language ++ ".yaml"

/-- The sample world for a language with the name of its file: the one in that language if there is
one, for which a file of its name is looked for. -/
def worldFor (language : String) : Except FileError (String × World) :=
  match otherWorlds.lookup language with
  | some w => .ok (worldFileIn language, w)
  | none => do
    let _ ← Disk.empty.has (.ofText (worldFileIn language))
    return ("default.yaml", englishWorld)

/-- The file name of the sample world for a language. -/
def worldFile (language : String) : Except FileError String := (·.1) <$> worldFor language

/-- The sample world for a language. -/
def world (language : String) : Except FileError World := (·.2) <$> worldFor language

end Bundled

end TextAdventure
