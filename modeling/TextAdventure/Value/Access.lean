import TextAdventure.Text.Bytes
import TextAdventure.Text.Digit
import TextAdventure.Value.Fields

/-!
# Reaching into values

Authored data is used before it is checked in a few places: a message is looked up in a table
that may be no table, the parts of an origin are read as whole numbers, the rooms of a world are
gone through one by one. The functions here say what is found, or which defect of the data
stands in the way.
-/

namespace TextAdventure

/-- What is wrong with a value that is used in a way that its kind or content does not allow. -/
inductive Defect where
  /-- A table has no entry under the key. -/
  | missingKey (key : Value)
  /-- The value is of a kind that cannot be used so. -/
  | wrongKind
  /-- The value is of a fitting kind but does not have a fitting form. -/
  | badForm
  /-- There is no item at the position. -/
  | outOfRange
  /-- The value has no such feature. -/
  | noFeature
  /-- The number is beyond all whole numbers. -/
  | overflow
  /-- The value leads back to itself without end, or is nested too deeply. -/
  | endless
  /-- The result is too large for any memory. -/
  | tooLarge
  deriving DecidableEq, Repr

namespace Value

/-- The value itself if it counts as given, and an empty table otherwise. -/
def orEmptyTable (v : Value) : Value := if v.isGiven then v else .table []

/-- The position that a value names: a whole number or a truth value. -/
def position? : Value → Option Int
  | .int n => some n
  | .bool b => some (if b then 1 else 0)
  | _ => none

/-- What is at a position of a row; negative positions are counted from the end. -/
def itemAt {α : Type} (items : List α) (key : Value) : Except Defect α :=
  match key.position? with
  | none => .error .wrongKind
  | some n =>
    let n := if n < 0 then n + items.length else n
    match if n < 0 then none else items[n.toNat]? with
    | some x => .ok x
    | none => .error .outOfRange

/-- A byte as a number. -/
def ofByte (b : UInt8) : Value := .int b.toNat

/-- What stands in a value under a key: an entry of a table, an item of a list or of a pair, or a
character of a text or a byte, by its position. -/
def item (v key : Value) : Except Defect Value :=
  match v.bare with
  | .table entries =>
    if key.isKey then
      match Fields.lookup? entries key with
      | some x => .ok x
      | none => .error (.missingKey key)
    else .error .wrongKind
  | .list items => itemAt items key
  | .pair a b => itemAt [a, b] key
  | .text s => (itemAt s.toList key).map fun c => .text (String.singleton c)
  | .binary bytes => (itemAt bytes key).map ofByte
  | _ => .error .wrongKind

/-- What stands in a value under a name. -/
def entry (v : Value) (name : String) : Except Defect Value := v.item (.text name)

/-- The entry of a table under a name, or a default; other values have no entries to ask for. -/
def entryOr (v : Value) (name : String) (default : Value) : Except Defect Value :=
  match v.bare with
  | .table entries => .ok ((Fields.get? entries name).getD default)
  | _ => .error .noFeature

/-- What going through a value brings up: the items of a list, a pair or a set, the keys of a
table, the characters of a text, the bytes as numbers. -/
def elements (v : Value) : Except Defect (List Value) :=
  match v.bare with
  | .list items => .ok items
  | .table entries => .ok (entries.map (·.1))
  | .pair a b => .ok [a, b]
  | .set items => .ok items
  | .text s => .ok (s.toList.map fun c => .text (String.singleton c))
  | .binary bytes => .ok (bytes.map ofByte)
  | _ => .error .wrongKind

/-- Whether one row lies in another without gaps. -/
def isWithin {α : Type} [BEq α] (part whole : List α) : Bool :=
  (List.range (whole.length + 1)).any fun i => part.isPrefixOf (whole.drop i)

/-- Whether a value holds an element: an item of a list, a pair or a set, a key of a table, a part
of a text or of bytes, or a single byte. -/
def hasElement (v x : Value) : Except Defect Bool :=
  let isSet (v : Value) : Bool :=
    match v.bare with
    | .set _ => true
    | _ => false
  match v.bare with
  | .list items => .ok (items.any fun y => x.agrees y)
  | .pair a b => .ok (x.agrees a || x.agrees b)
  | .set items =>
    if x.isKey then .ok (items.any fun y => x.agrees y)
    else if isSet x then .ok false
    else .error .wrongKind
  | .table entries =>
    if x.isKey then .ok (Fields.lookup? entries x).isSome else .error .wrongKind
  | .text s =>
    match x with
    | .text t => .ok (isWithin t.toList s.toList)
    | _ => .error .wrongKind
  | .binary bytes =>
    match x, x.position? with
    | .binary part, _ => .ok (isWithin part bytes)
    | _, some n =>
      if 0 ≤ n ∧ n < 256 then .ok (bytes.any fun b => (b.toNat : Int) == n) else .error .badForm
    | _, none => .error .wrongKind
  | _ => .error .wrongKind

/-- A value read as a whole number: a fraction is cut off, a text may write the number in the
digits of any script, and bytes in ASCII digits. -/
def toWhole (v : Value) : Except Defect Int :=
  let read (s : String) : Except Defect Int :=
    match Text.readInt? s with
    | some n => .ok n
    | none => .error .badForm
  match v.bare with
  | .bool b => .ok (if b then 1 else 0)
  | .int n => .ok n
  | .float x =>
    match x with
    | .nan => .error .badForm
    | .infinite _ => .error .overflow
    | x =>
      match x.truncate? with
      | some n => .ok n
      | none => .error .badForm
  | .text s => read s
  | .binary bytes =>
    match Text.ofAscii? bytes with
    | some s => read s
    | none => .error .badForm
  | _ => .error .wrongKind

/-- A value read as a pair of a key and a value. -/
def toPair (v : Value) : Except Defect (Value × Value) :=
  match v.elements with
  | .error d => .error d
  | .ok [k, x] => if k.isKey then .ok (k, x) else .error .wrongKind
  | .ok _ => .error .badForm

/-- A value read as the entries of a table: a table is taken as it is, and anything else is gone
through for pairs. -/
def toFields (v : Value) : Except Defect Fields :=
  match v.bare with
  | .table entries => .ok entries
  | _ => do
    let pairs ← (← v.elements).mapM toPair
    return Fields.ofEntries pairs

/-- Puts a value under a name if it is not taken; only tables can take it. -/
def putNew (v : Value) (name : String) (value : Value) : Except Defect Value :=
  match v.bare with
  | .table entries => .ok (.table (Fields.putNew entries name value))
  | _ => .error .noFeature

/-- In a table a name is found exactly if it has an entry. -/
theorem entry_table (entries : Fields) (name : String) :
    entry (.table entries) name =
      match Fields.get? entries name with
      | some x => .ok x
      | none => .error (.missingKey (.text name)) := rfl

end Value

end TextAdventure
