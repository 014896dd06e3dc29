/-!
# Turn slots

Turns of one player on one map never run at the same time. The table of slots has an entry for
every player with turns in progress: how many there are, which one holds the slot, and which ones
wait for it, in the order of their arrival. The entry goes away with the last turn.
-/

namespace TextAdventure

/-- Whose turns exclude each other: those of one player on one map. -/
structure TurnKey where
  username : String
  map : String
  deriving DecidableEq, Repr

/-- The slot of one player. Turns are known by their numbers. -/
structure Slot where
  /-- How many turns hold the slot or wait for it. -/
  pending : Nat
  holder : Option Nat
  waiting : List Nat
  deriving DecidableEq, Repr

namespace Slot

/-- A slot without turns. -/
def free : Slot := ⟨0, none, []⟩

/-- Whether a turn may take the slot at once: nobody holds it, and nobody waits. -/
def isFree (s : Slot) : Bool := s.holder.isNone && s.waiting.isEmpty

/-- A turn arrives: it takes the slot at once if it can, and waits otherwise. -/
def arrive (s : Slot) (turn : Nat) : Slot :=
  if s.isFree then { s with pending := s.pending + 1, holder := some turn }
  else { s with pending := s.pending + 1, waiting := s.waiting ++ [turn] }

/-- Whether a waiting turn is the next one and the slot is free for it. -/
def isNext (s : Slot) (turn : Nat) : Bool := s.holder.isNone && s.waiting.head? == some turn

/-- The next waiting turn takes the slot. -/
def take (s : Slot) : Slot :=
  { s with holder := s.waiting.head?, waiting := s.waiting.tail }

/-- The holder leaves. -/
def leave (s : Slot) : Slot := { s with pending := s.pending - 1, holder := none }

end Slot

/-- The table of slots. -/
abbrev Slots := List (TurnKey × Slot)

namespace Slots

/-- The slot of a player; one that is not listed is free. -/
def slot (slots : Slots) (key : TurnKey) : Slot := (slots.lookup key).getD .free

/-- Puts a slot in the place of the one that is listed, or lists it. -/
def put (key : TurnKey) (s : Slot) : Slots → Slots
  | [] => [(key, s)]
  | (k, old) :: rest => if k = key then (k, s) :: rest else (k, old) :: put key s rest

/-- Takes a slot off the list. -/
def remove (key : TurnKey) (slots : Slots) : Slots := slots.filter fun e => e.1 ≠ key

/-- A turn arrives at the slot of its player. -/
def arrive (slots : Slots) (key : TurnKey) (turn : Nat) : Slots :=
  put key ((slots.slot key).arrive turn) slots

/-- The next waiting turn takes the slot of its player. -/
def take (slots : Slots) (key : TurnKey) : Slots := put key (slots.slot key).take slots

/-- The holder leaves the slot of its player, which goes away if nobody waits. -/
def leave (slots : Slots) (key : TurnKey) : Slots :=
  let s := (slots.slot key).leave
  if s.pending = 0 then remove key slots else put key s slots

end Slots

end TextAdventure
