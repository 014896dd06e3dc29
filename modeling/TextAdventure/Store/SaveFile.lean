import TextAdventure.Disk.Basic
import TextAdventure.Host
import TextAdventure.Store.Memory
import TextAdventure.Value.Copy
import TextAdventure.Yaml.Writer

/-!
# Stores with a save file

A store whose players outlast it in a save file, if it is given one. The players are read from the
file when the store is opened, and all of them are written after every insertion or change of a
player. Rooms are authored and never written.

A change is made in memory first: if the file cannot be written, the call fails, and the change
stays. A file is emptied when it is opened for writing, so that writing that breaks off leaves less
than was there before (`Writing`). The records in the file are copies of one another's parts no more
than those in memory are.
-/

namespace TextAdventure

/-- A store in memory with the disk that its save file is on. -/
structure SavedStore where
  store : Store
  disk : Disk
  /-- Where the save file is; without one nothing is saved. -/
  saveFile : Option Path
  deriving DecidableEq, Repr

/-- Why a save file cannot be opened or written. -/
inductive SaveFault where
  | storage (e : StorageError)
  /-- There cannot be a file of this name. -/
  | file (e : FileError)
  /-- What stands in the file has a defect. -/
  | defect (d : Defect)
  deriving DecidableEq, Repr

/-- The failure of the store that a fault comes down to. -/
def SaveFault.toStorageError (path : Path) : SaveFault → StorageError
  | .storage e => e
  | .file _ | .defect _ => .unwritableSave path.toText

/-- How the writing of a file goes, where there can be one. -/
inductive Writing where
  | whole
  /-- The file cannot be opened. -/
  | refused
  /-- The device gives out when the file has been emptied and some of it may have been written. -/
  | cutOff (left : Content)
  /-- What is to be written comes to something that cannot be. -/
  | stuck (left : Content) (d : Defect)
  deriving DecidableEq, Repr

/-- What is in the file that was to get a content. -/
def Writing.leaves (w : Writing) (content : Content) : Content :=
  match w with
  | .whole | .refused => content
  | .cutOff left | .stuck left _ => left

/-- Writes a file: whether all of it was written, and the disk afterwards. -/
def Writing.run (w : Writing) (d : Disk) (path : Path) (content : Content) :
    Except SaveFault Unit × Disk :=
  let unwritable : Except SaveFault Unit := .error (.storage (.unwritableSave path.toText))
  match d.write path (w.leaves content) with
  | .error .badName => (.error (.file .badName), d)
  | .error _ => (unwritable, d)
  | .ok after =>
    match w with
    | .whole => (.ok (), after)
    | .refused => (unwritable, d)
    | .cutOff _ => (unwritable, after)
    | .stuck _ defect => (.error (.defect defect), after)

namespace SavedStore

/-- The records of players in the document of a save file. -/
def playersOf (path : Path) (document : Value) : Except StorageError (List Fields) :=
  let found : Option (List Fields) := do
    let fields ← document.orEmptyTable.fields?
    let players ← ((fields.get? playerCollection).getD (.list [])).items?
    players.mapM (·.record?)
  match found with
  | some players => .ok players
  | none => .error (.noPlayerList path.toText)

/-- The players that a save file holds; one that is not there holds none. -/
def loadPlayers (disk : Disk) (path : Path) : Except SaveFault (List Fields) :=
  match disk.has path with
  | .error e => .error (.file e)
  | .ok false => .ok []
  | .ok true =>
    match disk.load path with
    | .ok document => (playersOf path document).mapError .storage
    | .error (.content (.defect d)) => .error (.defect d)
    | .error _ => .error (.storage (.unreadableSave path.toText))

/-- The whole numbers among the identities of records; truth values count as numbers. -/
def wholeIds (records : List Fields) : List Int :=
  records.filterMap fun r =>
    match r.get? "_id" with
    | some (.int n) => some n
    | some (.bool b) => some (if b then 1 else 0)
    | _ => none

/-- A store after saved players have come in: new identities follow the greatest one among the
players. -/
def withPlayers (store : Store) (players : List Fields) : Store :=
  let store := store.insertAll playerCollection players
  match (wholeIds (store.records playerCollection)).max? with
  | some n => { store with nextId := n + 1 }
  | none => store

/-- Opens a store over the given collections. The saved players are copied into it. -/
def open? (disk : Disk) (saveFile : Option Path) (collections : List (String × List Fields))
    (host : Host := .boundless) : Except SaveFault SavedStore :=
  let store := Store.ofCollections collections
  match saveFile with
  | none => .ok { store, disk, saveFile }
  | some path => do
    let players ← loadPlayers disk path
    if players.all host.copies then
      return { store := withPlayers store players, disk, saveFile }
    else .error (.defect .endless)

/-- The document of the save file. -/
def document (s : SavedStore) : Fields :=
  [(.text playerCollection,
    .list ((s.store.records playerCollection).mapIdx fun i r =>
      (Value.ofRecord r).withCopy (i + 1)))]

/-- Writes the save file. -/
def save (s : SavedStore) (w : Writing := .whole) : Except SaveFault Unit × SavedStore :=
  match s.saveFile with
  | none => (.ok (), s)
  | some path =>
    let written := w.run s.disk path (.text (Yaml.write s.document))
    (written.1, { s with disk := written.2 })

/-- Saves a store in which the players have changed, and gives an answer if that goes well. -/
def saveAfter {α : Type} (s : SavedStore) (answer : α) (w : Writing := .whole) :
    Except SaveFault α × SavedStore :=
  let saved := s.save w
  (saved.1.map fun _ => answer, saved.2)

/-- Inserts a record into a collection. -/
def insert (s : SavedStore) (collection : String) (record : Fields) (w : Writing := .whole) :
    Except SaveFault Fields × SavedStore :=
  let (stored, store) := s.store.insert collection record
  let s := { s with store }
  if collection = playerCollection then s.saveAfter stored w else (.ok stored, s)

/-- Changes the first record of a collection that fits a selector. -/
def update (s : SavedStore) (collection : String) (selector changes : Fields)
    (w : Writing := .whole) : Except SaveFault Bool × SavedStore :=
  let (found, store) := s.store.update collection selector changes
  let s := { s with store }
  if found && collection == playerCollection then s.saveAfter found w else (.ok found, s)

/-- Whether no file can have the name of the save file. -/
def hasBadName (s : SavedStore) : Bool := s.saveFile.any fun path => !path.isName

/-- The failure of the store that a call on it ends with. -/
def asStorageError {α : Type} (r : Except SaveFault α × SavedStore) :
    Except StorageError α × SavedStore :=
  (r.1.mapError (·.toStorageError (r.2.saveFile.getD (.ofText ""))), r.2)

/-- Answers a query. -/
def answer : (q : Query) → SavedStore → q.Answer × SavedStore
  | .findPlayer username map, s =>
    (.ok (s.store.find? playerCollection (Query.playerSelector username map)), s)
  | .insertPlayer record, s => asStorageError (s.insert playerCollection record)
  | .findRoom x y map, s =>
    (.ok (s.store.find? roomCollection (Query.roomSelector x y map)), s)
  | .updatePlayer id change, s =>
    asStorageError (s.update playerCollection (Query.identitySelector id) change.fields)

/-- The store with a save file as something that answers queries. -/
def backend : Backend SavedStore := ⟨answer⟩

end SavedStore

end TextAdventure
