import TextAdventure.Store.Query

/-!
# The store in memory

Collections of records, each record a table. A new record gets an identity from a counter that all
collections share, unless it comes with one; the counter moves on in either case. Records are found
by the fields they have, and of several that fit, the first one is meant.
-/

namespace TextAdventure

/-- Whether a record has all fields of a selector, with equal values. -/
def Fields.matches (record selector : Fields) : Bool :=
  selector.all fun e =>
    match record.lookup? e.1 with
    | some v => v.equals e.2
    | none => false

/-- The first record that fits a selector is changed; the flag tells whether there is one. -/
def updateFirst (selector changes : Fields) : List Fields → List Fields × Bool
  | [] => ([], false)
  | r :: rest =>
    if r.matches selector then (r.update changes :: rest, true)
    else
      let (rest, found) := updateFirst selector changes rest
      (r :: rest, found)

/-- A store of records in memory. -/
structure Store where
  /-- The identity that the next new record gets. -/
  nextId : Int
  /-- The collections by name, in the order in which they came up. -/
  collections : List (String × List Fields)
  deriving DecidableEq, Repr

namespace Store

/-- The store that holds no records. -/
def empty : Store :=
  { nextId := 1, collections := [(playerCollection, []), (roomCollection, [])] }

/-- The records of a collection. -/
def records (s : Store) (collection : String) : List Fields :=
  (s.collections.lookup collection).getD []

/-- Puts records in the place of those of a collection, or starts a new collection. -/
def putRecords (collection : String) (records : List Fields) :
    List (String × List Fields) → List (String × List Fields)
  | [] => [(collection, records)]
  | (name, old) :: rest =>
    if name = collection then (name, records) :: rest
    else (name, old) :: putRecords collection records rest

/-- The store with other records in one collection. -/
def withRecords (s : Store) (collection : String) (records : List Fields) : Store :=
  { s with collections := putRecords collection records s.collections }

/-- A record with an identity: its own if it has one, and the given one after its fields
otherwise. -/
def identified (record : Fields) (id : Int) : Fields := record.putNew "_id" (.int id)

/-- Inserts a record at the end of a collection and returns it as it is stored. -/
def insert (s : Store) (collection : String) (record : Fields) : Fields × Store :=
  let stored := identified record s.nextId
  let s := { s with nextId := s.nextId + 1 }
  (stored, s.withRecords collection (s.records collection ++ [stored]))

/-- The first record of a collection that fits a selector. -/
def find? (s : Store) (collection : String) (selector : Fields) : Option Fields :=
  (s.records collection).find? (·.matches selector)

/-- Changes the first record of a collection that fits a selector; the flag tells whether there is
one. -/
def update (s : Store) (collection : String) (selector changes : Fields) : Bool × Store :=
  let (records, found) := updateFirst selector changes (s.records collection)
  (found, if found then s.withRecords collection records else s)

/-- Inserts many records into a collection. -/
def insertAll (s : Store) (collection : String) (records : List Fields) : Store :=
  records.foldl (fun s r => (s.insert collection r).2) s

/-- The store that holds the given collections. -/
def ofCollections (collections : List (String × List Fields)) : Store :=
  collections.foldl (fun s c => s.insertAll c.1 c.2) empty

/-- Answers a query. -/
def answer : (q : Query) → Store → q.Answer × Store
  | .findPlayer username map, s =>
    (.ok (s.find? playerCollection (Query.playerSelector username map)), s)
  | .insertPlayer record, s =>
    let (stored, s) := s.insert playerCollection record
    (.ok stored, s)
  | .findRoom x y map, s => (.ok (s.find? roomCollection (Query.roomSelector x y map)), s)
  | .updatePlayer id change, s =>
    let (found, s) := s.update playerCollection (Query.identitySelector id) change.fields
    (.ok found, s)

/-- The store in memory as something that answers queries. -/
def backend : Backend Store := ⟨answer⟩

/-! ### Collections -/

@[simp] theorem lookup_putRecords (collection : String) (records : List Fields)
    (cs : List (String × List Fields)) :
    (putRecords collection records cs).lookup collection = some records := by
  induction cs with
  | nil => simp [putRecords]
  | cons c cs ih =>
    obtain ⟨name, old⟩ := c
    by_cases h : name = collection
    · simp [putRecords, h]
    · have h' : (collection == name) = false := by simpa using Ne.symm h
      simp [putRecords, h, List.lookup_cons, h', ih]

theorem lookup_putRecords_of_ne {collection other : String} (h : other ≠ collection)
    (records : List Fields) (cs : List (String × List Fields)) :
    (putRecords collection records cs).lookup other = cs.lookup other := by
  induction cs with
  | nil => simp [putRecords, h]
  | cons c cs ih =>
    obtain ⟨name, old⟩ := c
    by_cases hn : name = collection
    · subst hn
      have h' : (other == name) = false := by simpa using h
      simp [putRecords, List.lookup_cons, h']
    · simp only [putRecords, hn, if_false, List.lookup_cons]
      split <;> simp_all

/-- A collection holds the records that were put into it. -/
@[simp] theorem records_withRecords (s : Store) (collection : String) (records : List Fields) :
    (s.withRecords collection records).records collection = records := by
  simp [Store.records, withRecords]

/-- Other collections are left alone. -/
theorem records_withRecords_of_ne {collection other : String} (h : other ≠ collection)
    (s : Store) (records : List Fields) :
    (s.withRecords collection records).records other = s.records other := by
  simp [Store.records, withRecords, lookup_putRecords_of_ne h]

end Store

end TextAdventure
