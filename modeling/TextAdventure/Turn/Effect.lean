import TextAdventure.Room.Choice
import TextAdventure.Turn.Basic

/-!
# Effects

Applying an effect to a player: first the move, then the item changes, then the status. What the
effect does to the player (`Effect.apply`), what it leaves to be saved (`Effect.mark`) and what is
logged about it (`Effect.notes`) are separate functions, put together in `Turn.applyCondition`.
-/

namespace TextAdventure

/-- The distances that the words for directions lead. -/
abbrev Directions := List (String × (Int × Int))

/-- The distance of a move; a word for no direction has none. -/
def Move.distance? (directions : Directions) : Move → Option (Int × Int)
  | .delta dx dy => some (dx, dy)
  | .word w => directions.lookup (Text.fold w)

namespace Effect

/-- The distance that the effect moves the player, if it does. -/
def distance? (directions : Directions) (e : Effect) : Option (Int × Int) :=
  e.move.bind (·.distance? directions)

/-- The player after the move. -/
def movePlayer (directions : Directions) (e : Effect) (p : Player) : Player :=
  match e.distance? directions with
  | some (dx, dy) => { p with x := p.x + dx, y := p.y + dy }
  | none => p

/-- The player after the effect. -/
def apply (directions : Directions) (e : Effect) (p : Player) : Player :=
  { e.movePlayer directions p with
    items := p.items.applyWords e.items
    status := e.status.getD p.status }

/-- What is to be saved and announced after the effect. -/
def mark (directions : Directions) (e : Effect) (todo : Pending) : Pending :=
  { items := todo.items || !e.items.isEmpty
    position := todo.position || (e.distance? directions).isSome
    status := todo.status || e.status.isSome
    arrival := todo.arrival || (e.distance? directions).isSome }

/-- What is logged about the effect. -/
def notes (directions : Directions) (e : Effect) (p : Player) : List Note :=
  (match e.move, e.distance? directions with
    | some (.word w), none => [.log (.unknownDirection w p.username)]
    | some _, some (dx, dy) => [.log (.playerMoved p.username (p.x + dx) (p.y + dy))]
    | _, _ => []) ++
  (if e.items.isEmpty then []
    else [.log (.itemsChanged p.username (p.items.applyWords e.items))]) ++
  (match e.status with
    | some s => [.log (.statusSet p.username s)]
    | none => [])

end Effect

namespace Turn

/-- Replies with the message of a condition and applies its effect to the player of the turn. -/
def applyCondition (t : Turn) (directions : Directions) (c : Condition) : Turn :=
  let t := t.reply (.text c.message)
  match c.effect, t.player with
  | some e, some p =>
    { t with
      player := some (e.apply directions p)
      pending := e.mark directions t.pending
      notes := t.notes ++ e.notes directions p }
  | _, _ => t

/-- Lets an attribute work: the condition that fits the items of the player is applied. -/
def trigger (t : Turn) (directions : Directions) (p : Player) (a : Attribute) : Option Turn :=
  (Condition.select? p.items a.conditions).map fun c =>
    let next := t.applyCondition directions c
    next.note (.applied a c p (next.player.getD p))

end Turn

end TextAdventure
