import TextAdventure.Value.Basic

/-!
# Copies of values

A record that is taken into a store is copied with all that is in it. The copies of one record share
their parts as the parts of the record do, but no parts with the copies of other records: their
labels say to which copy they belong. What cannot change is not copied: numbers, and pairs of such
things.

A record is known by its fields only. Where it stands inside itself, the label `Label.record` stands
for it.
-/

namespace TextAdventure

/-- The label of a record inside itself. -/
def Label.record : Label := ⟨0, 0⟩

namespace Value

/-- Whether a value can neither change nor hold anything that can. -/
def isFixed : Value → Bool
  | .list _ | .table _ | .set _ | .stamp _ | .again _ => false
  | .pair a b => isFixed a && isFixed b
  | .shared _ v => isFixed v
  | _ => true

mutual
/-- A value with the labels of a copy. -/
def withCopy (n : Nat) : Value → Value
  | .list items => .list (withCopyList n items)
  | .table entries => .table (withCopyTable n entries)
  | .pair a b => .pair (withCopy n a) (withCopy n b)
  | .set items => .set (withCopyList n items)
  | .shared l v =>
    if isFixed v then .shared l v else .shared { l with copy := n } (withCopy n v)
  | .again l => .again { l with copy := n }
  | v => v
termination_by structural v => v

/-- The items of a list with the labels of a copy. -/
def withCopyList (n : Nat) : List Value → List Value
  | [] => []
  | x :: xs => withCopy n x :: withCopyList n xs
termination_by structural v => v

/-- The entries of a table with the labels of a copy. -/
def withCopyTable (n : Nat) : List (Value × Value) → List (Value × Value)
  | [] => []
  | x :: xs => withCopyEntry n x :: withCopyTable n xs
termination_by structural v => v

/-- An entry of a table with the labels of a copy. -/
def withCopyEntry (n : Nat) : Value × Value → Value × Value
  | (k, v) => (withCopy n k, withCopy n v)
termination_by structural v => v
end

mutual
/-- Whether a label stands for an object around the value. -/
def mentions (l : Label) : Value → Bool
  | .list items => mentionsList l items
  | .table entries => mentionsTable l entries
  | .pair a b => mentions l a || mentions l b
  | .set items => mentionsList l items
  | .shared m v => m != l && mentions l v
  | .again m => m == l
  | _ => false
termination_by structural v => v

/-- Whether a label stands for an object around the items of a list. -/
def mentionsList (l : Label) : List Value → Bool
  | [] => false
  | x :: xs => mentions l x || mentionsList l xs
termination_by structural v => v

/-- Whether a label stands for an object around the entries of a table. -/
def mentionsTable (l : Label) : List (Value × Value) → Bool
  | [] => false
  | x :: xs => mentionsEntry l x || mentionsTable l xs
termination_by structural v => v

/-- Whether a label stands for an object around an entry of a table. -/
def mentionsEntry (l : Label) : Value × Value → Bool
  | (k, v) => mentions l k || mentions l v
termination_by structural v => v
end

mutual
/-- A value in which no object is written out inside itself. `around` holds the labels of the objects
that it lies in. -/
def settled (around : List Label) : Value → Value
  | .list items => .list (settledList around items)
  | .table entries => .table (settledTable around entries)
  | .pair a b => .pair (settled around a) (settled around b)
  | .set items => .set (settledList around items)
  | .shared l v =>
    if around.contains l then .again l else .shared l (settled (l :: around) v)
  | v => v
termination_by structural v => v

/-- The items of a list in which no object is written out inside itself. -/
def settledList (around : List Label) : List Value → List Value
  | [] => []
  | x :: xs => settled around x :: settledList around xs
termination_by structural v => v

/-- The entries of a table in which no object is written out inside itself. -/
def settledTable (around : List Label) : List (Value × Value) → List (Value × Value)
  | [] => []
  | x :: xs => settledEntry around x :: settledTable around xs
termination_by structural v => v

/-- An entry of a table in which no object is written out inside itself. -/
def settledEntry (around : List Label) : Value × Value → Value × Value
  | (k, v) => (settled around k, settled around v)
termination_by structural v => v
end

/-- The record that a table is. -/
def record? : Value → Option Fields
  | .table entries => some entries
  | .shared l (.table entries) => some (fillTable l (.again .record) (settledTable [l] entries))
  | _ => none

/-- A record as a value. -/
def ofRecord (record : Fields) : Value :=
  if mentionsTable .record record then .shared .record (.table record) else .table record

@[simp] theorem record?_table (entries : Fields) : record? (.table entries) = some entries := rfl

end Value

end TextAdventure
