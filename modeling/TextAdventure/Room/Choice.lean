import TextAdventure.Player.Inventory
import TextAdventure.Room.Basic

/-!
# Choosing an attribute and a condition

Which attribute of a room a verb and an object trigger, and which of its conditions applies to a
player. In both cases the order of declaration decides.
-/

namespace TextAdventure

/-- The first element with a property, or else the last one. -/
def firstOrLast? {α : Type} (p : α → Bool) (xs : List α) : Option α :=
  (xs.find? p).or xs.getLast?

namespace Attribute

/-- Whether a verb and an object trigger an attribute, given the words for going and taking:

* going to an exit triggers it by its name or an alias,
* taking an item triggers a taking attribute about that item,
* any other verb triggers the command of that name, except for one that is run on entry. -/
def isTriggeredBy (goWord getWord verb object : String) (a : Attribute) : Bool :=
  let name := Text.fold a.name
  let verb := Text.fold verb
  let taking := Text.fold getWord
  (verb == Text.fold goWord && a.kind == .exit && a.answersTo (Text.fold object)) ||
    (verb == taking && name == taking && Text.fold (a.item.getD "") == Text.fold object) ||
    (a.kind == .command && name != taking && name != entryName && name == verb)

/-- The first attribute that a verb and an object trigger. -/
def triggered? (attributes : List Attribute) (goWord getWord verb object : String) :
    Option Attribute :=
  attributes.find? (·.isTriggeredBy goWord getWord verb object)

end Attribute

namespace Condition

/-- Whether all needed items are held. -/
def isMetBy (items : Inventory) (c : Condition) : Bool := c.needs.all items.holds

/-- The condition that applies: the first one that is met, or else the last one. -/
def select? (items : Inventory) (conditions : List Condition) : Option Condition :=
  firstOrLast? (·.isMetBy items) conditions

end Condition

end TextAdventure
