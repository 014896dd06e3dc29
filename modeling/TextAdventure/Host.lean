import TextAdventure.Value.Fields

/-!
# Hosts

What the machine that a game is opened on can do, where authored data can ask for more than any machine
has. A value may be nested more deeply than the notation of its document is, since a part of it can
stand for a part written before; such a value can be read and yet not be shown or copied. A text may
have codes that are no characters, which not everybody takes who is to be told it.
-/

namespace TextAdventure

/-- What the machine that a game is opened on can do. -/
structure Host where
  /-- Whether a value can be shown before the stack is used up. -/
  shows : Value → Bool
  /-- Whether a record can be copied before the stack is used up. -/
  copies : Fields → Bool
  /-- Whether a text with codes that are no characters is taken by whoever is told it. -/
  takes : List Nat → Bool

/-- A machine that can do all of it. -/
def Host.boundless : Host where
  shows _ := true
  copies _ := true
  takes _ := true

end TextAdventure
