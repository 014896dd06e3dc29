import TextAdventure.Proofs.World.Seeding

/-!
# Data that a world can be read from

The data of a world is reached into before anything checks it: its entries are asked for, the name of
its map is put into words, its origin is taken apart, its rooms are gone through. Only then is each room
checked, and only a room that fails its check is reported as a problem of the world; everything before
that ends in a defect that nobody reports. `World.IsShaped` says which data is read without a defect; that
depends on what the host can show and on whether it takes a name with codes that are no characters.

Reading stops at the first room that it cannot read. A room that has no entries is therefore a defect
only if all rooms before it are in order; behind a room that failed its check nothing is looked at.
-/

namespace TextAdventure

/-- A reading fails, if at all, with problems that can be reported. -/
def Reportable {α : Type} (x : Except WorldError α) : Prop := ∀ d, x ≠ .error (.defect d)

namespace Reportable

variable {α β : Type}

theorem pure (a : α) : Reportable (Pure.pure a) := nofun

end Reportable

namespace World

variable {host : Host} {v : Value}

section Shape

variable (entries : Fields)

end Shape

end World

end TextAdventure
