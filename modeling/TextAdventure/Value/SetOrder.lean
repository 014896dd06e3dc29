import TextAdventure.Value.Basic

/-!
# The order of sets

A set shows its items in an order of its own. It keeps numbers in a row of slots, each number in
the slot that its code names, or in the next one that is free on a path from there; gone through,
the set gives the items slot by slot. Equal numbers have equal codes, whether they are whole
numbers, truth values or numbers with a fraction. Items of other kinds have no codes that could be
foretold: a set that has one shows its items in the order in which they were written.
-/

namespace TextAdventure

namespace SetOrder

/-- Codes are reckoned modulo this prime. -/
def codeModulus : Nat := 0x1FFFFFFFFFFFFFFF

/-- How many bits a code has. -/
def codeRange : Nat := 0x10000000000000000

/-- The code of a number with a sign, given what its size leaves modulo the prime. -/
def signedCode (negative : Bool) (rest : Nat) : Nat :=
  if !negative then rest
  else if rest = 0 then 0
  else if rest = 1 then codeRange - 2
  else codeRange - rest

/-- The code of a number, if the value is one. -/
def code? : Value → Option Nat
  | .bool b => some (if b then 1 else 0)
  | .int n => some (signedCode (n < 0) (n.natAbs % codeModulus))
  | .float (.finite s m e) =>
    some (signedCode s (m * Nat.pow 2 (e % 61).toNat % codeModulus))
  | .float (.infinite s) => some (signedCode s 314159)
  | _ => none

/-- How many slots a set with some items has. -/
def slotCount (items : Nat) : Nat :=
  if items < 5 then 8 else Nat.pow 2 ((2 * items).log2 + 1)

/-- How many neighbours of a slot are tried before the path leads on. -/
def neighbours : Nat := 9

/-- The first free slot on the path of a code. -/
def freeSlot (slots : Array (Option Value)) : Nat → Nat → Nat → Nat
  | 0, _, slot => slot
  | n + 1, rest, slot =>
    let reach := if slot + neighbours < slots.size then neighbours + 1 else 1
    match ((List.range reach).map (slot + ·)).find? fun i => (slots.getD i none).isNone with
    | some i => i
    | none =>
      let rest := rest / 32
      freeSlot slots n rest ((slot * 5 + 1 + rest) % slots.size)

/-- Puts an item into its slot. -/
def place (slots : Array (Option Value)) (item : Value) (code : Nat) : Array (Option Value) :=
  slots.setIfInBounds (freeSlot slots (slots.size + 16) code (code % slots.size)) (some item)

end SetOrder

/-- The items of a set in the order in which the set shows them. -/
def setOrder (items : List Value) : List Value :=
  match items.mapM SetOrder.code? with
  | none => items
  | some codes =>
    let slots := Array.replicate (SetOrder.slotCount items.length) none
    ((items.zip codes).foldl (fun slots e => SetOrder.place slots e.1 e.2) slots).toList.filterMap id

end TextAdventure
