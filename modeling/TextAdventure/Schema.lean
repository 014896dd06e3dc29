import TextAdventure.Text.Bytes
import TextAdventure.Text.Digit
import TextAdventure.Value.Display

/-!
# Checked reading of values

Rooms, players and vocabularies are read from values that anyone may have written. Reading gives
either the object or all problems found, each with the path to the value at fault; `Checked` is
an applicative functor that gathers the problems of independent parts.
-/

namespace TextAdventure

/-- One step of a path into a value. -/
inductive Step where
  | field (name : String)
  | index (n : Int)
  deriving DecidableEq, Repr

/-- Why a value is not accepted. -/
inductive Cause where
  /-- A field that must be there is not. -/
  | missing
  /-- A field that nobody asked for. -/
  | unknownField
  /-- A field whose name is not a text. -/
  | badKey
  | notText
  /-- Bytes that write no text, or codes that are no characters. -/
  | notEncoded
  | notWhole
  /-- A number with a fraction in place of a whole one. -/
  | fraction
  /-- A number that is infinite or none at all in place of a whole one. -/
  | notFinite
  /-- A text that writes no whole number. -/
  | unreadable
  /-- A text or number too large to be read as a whole number. -/
  | tooLarge
  /-- None of the words that may stand there. -/
  | notAChoice
  | notList
  | notSet
  | notTable
  | notPair
  | tooShort
  | tooLong
  /-- A value that is no table in place of an object with fields. -/
  | notObject
  deriving DecidableEq, Repr

/-- A problem: where it lies and what it is. -/
structure Problem where
  path : List Step
  cause : Cause
  deriving DecidableEq, Repr

/-- An object read from a value, or all problems that stand in the way. -/
inductive Checked (α : Type) where
  | valid (a : α)
  | invalid (problems : List Problem)
  deriving Repr

namespace Checked

/-- Applies a function to a valid object. -/
def map {α β : Type} (f : α → β) : Checked α → Checked β
  | .valid a => .valid (f a)
  | .invalid ps => .invalid ps

/-- Applies a checked function to a checked object; the problems of both are kept. -/
def seq {α β : Type} : Checked (α → β) → Checked α → Checked β
  | .valid f, .valid a => .valid (f a)
  | .valid _, .invalid qs => .invalid qs
  | .invalid ps, .valid _ => .invalid ps
  | .invalid ps, .invalid qs => .invalid (ps ++ qs)

instance : Applicative Checked where
  pure := .valid
  map := map
  seq f a := seq f (a ())

/-- Goes on with a valid object. -/
def andThen {α β : Type} : Checked α → (α → Checked β) → Checked β
  | .valid a, f => f a
  | .invalid ps, _ => .invalid ps

/-- A single problem at the value itself. -/
def problem {α : Type} (cause : Cause) : Checked α := .invalid [⟨[], cause⟩]

/-- Places the problems of a part under a step of the path. -/
def under {α : Type} (step : Step) : Checked α → Checked α
  | .valid a => .valid a
  | .invalid ps => .invalid (ps.map fun p => { p with path := step :: p.path })

/-- The object, if it is valid. -/
def toOption {α : Type} : Checked α → Option α
  | .valid a => some a
  | .invalid _ => none

/-- Checks the members of a list, each under its own step. -/
def all {α β : Type} (step : Nat → α → Step) (check : α → Checked β) :
    Nat → List α → Checked (List β)
  | _, [] => .valid []
  | i, a :: rest => (List.cons <$> under (step i a) (check a)) <*> all step check (i + 1) rest

end Checked

namespace Schema

/-- Reads a text; bytes are taken for the text that they write. -/
def text : Value → Checked String
  | .text s => .valid s
  | .binary bytes =>
    match Text.ofUtf8? bytes with
    | some s => .valid s
    | none => .problem .notEncoded
  | .damaged _ => .problem .notEncoded
  | _ => .problem .notText

/-- The whole numbers that a number with a fraction may stand for lie within 63 bits. -/
def maxWhole : Int := 0x8000000000000000

/-- Reads a written whole number. -/
def written (s : String) : Checked Int :=
  match Text.readPlainInt s with
  | .read n => .valid n
  | .unreadable => .problem .unreadable
  | .tooLong => .problem .tooLarge

/-- Reads a whole number; truth values, numbers without a fraction and written numbers are taken
as well. -/
def whole (v : Value) : Checked Int :=
  match v.bare with
  | .bool b => .valid (if b then 1 else 0)
  | .int n => .valid n
  | .float x =>
    match x.truncate?, x.toInt? with
    | some n, some _ => if -maxWhole < n ∧ n < maxWhole then .valid n else .problem .tooLarge
    | some _, none => .problem .fraction
    | none, _ => .problem .notFinite
  | .text s => written s
  | .binary bytes =>
    match Text.ofUtf8? bytes with
    | some s => written s
    | none => .problem .unreadable
  | .damaged _ => .problem .notEncoded
  | _ => .problem .notWhole

/-- Reads any value. -/
def any (v : Value) : Checked Value := .valid v

/-- Reads a value that may be null. -/
def nullable {α : Type} (read : Value → Checked α) : Value → Checked (Option α)
  | .null => .valid none
  | v => some <$> read v

/-- The items of a list, a pair or a set. -/
def rowOf? (v : Value) : Option (List Value) :=
  match v.bare with
  | .list items => some items
  | .pair a b => some [a, b]
  | .set items => some items
  | _ => none

/-- Reads a list. -/
def list {α : Type} (read : Value → Checked α) (v : Value) : Checked (List α) :=
  match rowOf? v with
  | some items => Checked.all (fun i _ => .index i) read 0 items
  | none => .problem .notList

/-- Reads a list that has at least one item. -/
def nonEmptyList {α : Type} (read : Value → Checked α) (v : Value) : Checked (List α) :=
  match rowOf? v with
  | some [] => .problem .tooShort
  | _ => list read v

/-- Reads the items of a set, which may be written as a list. -/
def set {α : Type} (read : Value → Checked α) (v : Value) : Checked (List α) :=
  match rowOf? v with
  | some items => Checked.all (fun i _ => .index i) read 0 items
  | none => .problem .notSet

/-- Reads two whole numbers. -/
def wholePair (v : Value) : Checked (Int × Int) :=
  match rowOf? v with
  | some [a, b] =>
    (Prod.mk <$> (whole a).under (.index 0)) <*> (whole b).under (.index 1)
  | some [a] =>
    (Prod.mk <$> (whole a).under (.index 0)) <*> (Checked.problem .missing).under (.index 1)
  | some [] =>
    (Prod.mk <$> (Checked.problem .missing).under (.index 0)) <*>
      (Checked.problem .missing).under (.index 1)
  | some _ => .problem .tooLong
  | none => .problem .notPair

/-- The step that leads to the entry under a key: a number within 63 bits counts as an index, and
any other key that is no text is shown as it stands inside a table. -/
def keyStep : Value → Step
  | .text s => .field s
  | .damaged codes => .field (Text.replacingHalves codes)
  | .bool b => .index (if b then 1 else 0)
  | .int n => if -maxWhole ≤ n ∧ n < maxWhole then .index n else .field (toString n)
  | v => .field v.inspect

/-- Entries by name, so that of two entries with one name the later value stays in the place of the
earlier. -/
def byName {α : Type} (entries : List (String × α)) : List (String × α) :=
  entries.foldl
    (fun done e =>
      if (done.lookup e.1).isSome then done.map fun d => if d.1 = e.1 then e else d
      else done ++ [e])
    []

/-- Reads a table whose keys are texts. -/
def table {α : Type} (read : Value → Checked α) (v : Value) : Checked (List (String × α)) :=
  match v.bare with
  | .table entries =>
    byName <$> Checked.all (fun _ e => keyStep e.1)
      (fun e : Value × Value => (Prod.mk <$> (text e.1).under (.field "[key]")) <*> read e.2)
      0 entries
  | _ => .problem .notTable

/-- Reads one of several words. -/
def choice {α : Type} (words : List (String × α)) : Value → Checked α
  | .text s =>
    match words.lookup s with
    | some a => .valid a
    | none => .problem .notAChoice
  | .damaged _ => .problem .notEncoded
  | _ => .problem .notAChoice

/-! ### Objects with fields -/

/-- Reads a field that must be there. -/
def required {α : Type} (read : Value → Checked α) (name : String) (fields : Fields) : Checked α :=
  match fields.get? name with
  | some v => (read v).under (.field name)
  | none => (Checked.problem .missing).under (.field name)

/-- Reads a field that may be left out. -/
def optional {α : Type} (read : Value → Checked α) (default : α) (name : String) (fields : Fields) :
    Checked α :=
  match fields.get? name with
  | some v => (read v).under (.field name)
  | none => .valid default

/-- The identity of a stored object: the entry `_id`, or else `id`. -/
def identity (fields : Fields) : Value :=
  ((fields.get? "_id").orElse fun _ => fields.get? "id").getD .null

/-- Refuses every field but the named ones. -/
def onlyFields (names : List String) (fields : Fields) : Checked Unit :=
  .map (fun _ => ()) <| Checked.all (fun _ e => keyStep e.1)
    (fun e : Value × Value =>
      match e.1 with
      | .text s => if names.contains s then .valid () else .problem .unknownField
      | _ => .problem .badKey)
    0 fields

/-- Reads an object with fields. -/
def object {α : Type} (read : Fields → Checked α) (v : Value) : Checked α :=
  match v.fields? with
  | some entries => read entries
  | none => .problem .notObject

end Schema

end TextAdventure
