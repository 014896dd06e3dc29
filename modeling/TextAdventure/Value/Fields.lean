import TextAdventure.Value.Equality

/-!
# Entries of tables

Looking up the entries of a table and putting new ones in. A new entry takes the place of the one
with the same key, or else it comes at the end.
-/

namespace TextAdventure

namespace Fields

/-- The value that stands under a key. -/
def lookup? (fields : Fields) (key : Value) : Option Value :=
  (fields.find? fun e => key.agrees e.1).map (·.2)

/-- The value that stands under a name. -/
def get? (fields : Fields) (name : String) : Option Value := lookup? fields (.text name)

/-- Whether a name has an entry. -/
def has (fields : Fields) (name : String) : Bool := (get? fields name).isSome

/-- Puts a value under a key: in the place of the entry with that key, or else at the end. -/
def insert : Fields → Value → Value → Fields
  | [], key, value => [(key, value)]
  | (k, v) :: rest, key, value =>
    if key.agrees k then (k, value) :: rest else (k, v) :: insert rest key value

/-- Puts a value under a name. -/
def put (fields : Fields) (name : String) (value : Value) : Fields :=
  insert fields (.text name) value

/-- Puts a value under a name that has no entry yet. -/
def putNew (fields : Fields) (name : String) (value : Value) : Fields :=
  if has fields name then fields else put fields name value

/-- Puts all entries of the second table into the first. -/
def update (fields changes : Fields) : Fields :=
  changes.foldl (fun fs e => insert fs e.1 e.2) fields

/-- A table built entry by entry, so that of two entries with one key the later value stays in
the place of the earlier. -/
def ofEntries (entries : List (Value × Value)) : Fields := update [] entries

@[simp] theorem get?_nil (name : String) : get? [] name = none := rfl

theorem get?_cons (k v : Value) (rest : Fields) (name : String) :
    get? ((k, v) :: rest) name = if k = .text name then some v else get? rest name := by
  by_cases h : k = .text name
  · simp [get?, lookup?, h, Value.agrees, Value.equals]
  · have := Value.agrees_text_of_ne h
    simp [get?, lookup?, h, this]

/-- What was put under a name is found there. -/
@[simp] theorem get?_put_self (fields : Fields) (name : String) (value : Value) :
    get? (put fields name value) name = some value := by
  induction fields with
  | nil => simp [put, insert, get?_cons]
  | cons e rest ih =>
    obtain ⟨k, v⟩ := e
    by_cases h : k = .text name
    · simp [put, insert, h, get?_cons, Value.agrees, Value.equals]
    · have := Value.agrees_text_of_ne h
      simp only [put, insert, this, Bool.false_eq_true, if_false, get?_cons, h]
      exact ih

/-- Putting a value under one name leaves the others alone. -/
theorem get?_put_of_ne {name other : String} (h : other ≠ name) (fields : Fields)
    (value : Value) : get? (put fields name value) other = get? fields other := by
  induction fields with
  | nil => simp [put, insert, get?_cons, Ne.symm h]
  | cons e rest ih =>
    obtain ⟨k, v⟩ := e
    by_cases hk : k = .text name
    · subst hk
      simp [put, insert, get?_cons, Value.agrees, Value.equals, Ne.symm h]
    · have := Value.agrees_text_of_ne hk
      simp only [put, insert, this, Bool.false_eq_true, if_false, get?_cons]
      rw [← put, ih]

end Fields

end TextAdventure
