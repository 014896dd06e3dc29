import Mathlib.Data.List.Forall2
import TextAdventure.Proofs.Store.Own
import TextAdventure.Store.SaveFile

/-!
# Records in a save file

A save file holds the records of players with their entries in the order of their names. A record of
a player stands in a store as it was inserted or as it comes back from a save file
(`Player.RecordedAs`): both forms have the same entries, change alike, and are written as the same
text (`SavedStore.write_documentOf`).
-/

namespace TextAdventure

/-- The entries of a record in the order in which they are written. -/
def Fields.inOrder (r : Fields) : Fields := Yaml.Outline.sortEntries (r.map fun e => (e.1, e))

theorem Fields.inOrder_identified (p : Player) (n : Int) :
    (Store.identified p.toRecord n).inOrder = (.text "_id", .int n) :: p.toRecord := by
  with_unfolding_all rfl

/-! ### Plain values -/

namespace Value

theorem mentionsList_texts (l : Label) (texts : List String) :
    mentionsList l (texts.map .text) = false := by
  induction texts with
  | nil => rfl
  | cons text texts ih => simp [mentionsList, mentions, ih]

theorem withCopyList_texts (n : Nat) (texts : List String) :
    withCopyList n (texts.map .text) = texts.map .text := by
  induction texts with
  | nil => rfl
  | cons text texts ih => simp [withCopyList, withCopy, ih]

end Value

/-! ### Forms of a record -/

namespace Player

theorem update_identified (p : Player) (n : Int) (c : Change) :
    (Store.identified p.toRecord n).update c.fields =
      Store.identified (c.applyTo p).toRecord n := by
  cases c <;> rfl

/-- The forms in which the record of a player with an identity may stand in a store. -/
inductive RecordedAs (p : Player) (n : Int) : Fields → Prop
  | inserted : RecordedAs p n (Store.identified p.toRecord n)
  | reread : RecordedAs p n (Store.identified p.toRecord n).inOrder

namespace RecordedAs

variable {p : Player} {n : Int} {r : Fields}

theorem lookup? (h : p.RecordedAs n r) (key : Value) :
    r.lookup? key = (Store.identified p.toRecord n).lookup? key := by
  cases h with
  | inserted => rfl
  | reread =>
    rw [Fields.inOrder_identified, Store.identified_toRecord, Fields.lookup?_put]
    by_cases hkey : key = .text "_id"
    · rw [if_pos hkey, hkey]
      rfl
    · have hagrees : key.agrees (.text "_id") = false := by
        cases key <;> simp_all [Value.agrees, Value.isOneWith, Value.equals]
      rw [if_neg hkey, Fields.lookup?, List.find?_cons, hagrees]
      rfl

theorem get?_id (h : p.RecordedAs n r) : r.get? "_id" = some (.int n) :=
  (h.lookup? _).trans (Store.get?_identified p n)

theorem matches_eq (h : p.RecordedAs n r) (selector : Fields) :
    r.matches selector = (Store.identified p.toRecord n).matches selector := by
  simp only [Fields.matches, h.lookup?]

theorem update (h : p.RecordedAs n r) (c : Change) :
    (c.applyTo p).RecordedAs n (r.update c.fields) := by
  have hreread : (Store.identified p.toRecord n).inOrder.update c.fields =
      (Store.identified (c.applyTo p).toRecord n).inOrder := by
    rw [Fields.inOrder_identified, Fields.inOrder_identified]
    cases c <;> rfl
  cases h with
  | inserted =>
    rw [update_identified]
    exact .inserted
  | reread =>
    rw [hreread]
    exact .reread

theorem perm (h : p.RecordedAs n r) : (Store.identified p.toRecord n).Perm r := by
  cases h with
  | inserted => exact .refl _
  | reread =>
    rw [Fields.inOrder_identified]
    exact List.perm_append_singleton _ p.toRecord

theorem read (h : p.RecordedAs n r) : Player.read (.table r) = .valid { p with id := .int n } := by
  have hid : Schema.identity r = .int n := by
    simp [Schema.identity, h.get?_id]
  rw [Player.read_sameButId fun key _ => h.lookup? key, read_identified, hid]
  rfl

/-- A record of a player is saved as it is. -/
theorem withCopy (h : p.RecordedAs n r) (i : Nat) :
    (Value.ofRecord r).withCopy i = .table r := by
  have hentries : Value.mentionsTable .record r = false ∧ Value.withCopyTable i r = r := by
    cases h with
    | inserted =>
      rw [Store.identified_toRecord]
      simp [toRecord, Fields.put, Fields.insert, Value.agrees, Value.isOneWith, Value.equals,
        Value.ofTexts, Value.mentionsTable, Value.mentionsEntry, Value.mentions,
        Value.withCopyTable, Value.withCopyEntry, Value.withCopy, Value.mentionsList_texts,
        Value.withCopyList_texts]
    | reread =>
      rw [Fields.inOrder_identified]
      simp [toRecord, Value.ofTexts, Value.mentionsTable, Value.mentionsEntry, Value.mentions,
        Value.withCopyTable, Value.withCopyEntry, Value.withCopy, Value.mentionsList_texts,
        Value.withCopyList_texts]
  rw [Value.ofRecord, hentries.1, if_neg Bool.false_ne_true, Value.withCopy, hentries.2]

/-- The forms of a record are written alike. -/
theorem sortEntries_ofEntries (h : p.RecordedAs n r) :
    Yaml.Outline.sortEntries (Yaml.Outline.ofEntries r) =
      Yaml.Outline.sortEntries (Yaml.Outline.ofEntries (Store.identified p.toRecord n)) := by
  cases h with
  | inserted => rfl
  | reread =>
    rw [Fields.inOrder_identified]
    with_unfolding_all rfl

end RecordedAs

/-- A player as it is inserted with an identity. -/
def inserted (e : Player × Int) : Fields := Store.identified e.1.toRecord e.2

/-- Records are those of players with identities, each in one of its forms. -/
def AllRecordedAs (entries : List (Player × Int)) (records : List Fields) : Prop :=
  List.Forall₂ (fun e r => e.1.RecordedAs e.2 r) entries records

namespace AllRecordedAs

variable {entries : List (Player × Int)} {records : List Fields}

theorem reread (entries : List (Player × Int)) :
    AllRecordedAs entries ((entries.map Player.inserted).map Fields.inOrder) :=
  List.forall₂_map_right_iff.2
    (List.forall₂_map_right_iff.2 (List.forall₂_same.2 fun _ _ => .reread))

theorem cons {e : Player × Int} {r : Fields} (he : e.1.RecordedAs e.2 r)
    (h : AllRecordedAs entries records) : AllRecordedAs (e :: entries) (r :: records) :=
  List.Forall₂.cons he h

theorem concat (h : AllRecordedAs entries records) (p : Player) (n : Int) :
    AllRecordedAs (entries ++ [(p, n)]) (records ++ [Player.inserted (p, n)]) :=
  List.rel_append h (.cons .inserted .nil)

theorem exists_of_mem (h : AllRecordedAs entries records) {r : Fields} (hr : r ∈ records) :
    ∃ e : Player × Int, e.1.RecordedAs e.2 r := by
  induction h with
  | nil => exact absurd hr List.not_mem_nil
  | cons he _ ih =>
    rcases List.mem_cons.1 hr with rfl | hr
    · exact ⟨_, he⟩
    · exact ih hr

theorem perm (h : AllRecordedAs entries records) :
    List.Forall₂ List.Perm (entries.map Player.inserted) records :=
  List.forall₂_map_left_iff.2 (h.imp fun _ _ he => he.perm)

theorem map_get?_id (h : AllRecordedAs entries records) :
    records.map (·.get? "_id") = entries.map fun e => some (.int e.2) := by
  induction h with
  | nil => rfl
  | cons he _ ih => rw [List.map_cons, List.map_cons, he.get?_id, ih]

theorem wholeIds (h : AllRecordedAs entries records) :
    SavedStore.wholeIds records = entries.map (·.2) := by
  induction h with
  | nil => rfl
  | cons he _ ih =>
    rw [List.map_cons, ← ih, SavedStore.wholeIds, List.filterMap_cons, he.get?_id]
    rfl

/-- A look-up finds the same player, whatever the forms of the records. -/
theorem find? (h : AllRecordedAs entries records) (selector : Fields) :
    Option.Rel (fun r r' => ∃ p n, r = Player.inserted (p, n) ∧ p.RecordedAs n r')
      ((entries.map Player.inserted).find? (·.matches selector))
      (records.find? (·.matches selector)) := by
  induction h with
  | nil => exact .none
  | @cons e r entries records he _ ih =>
    rw [List.map_cons, List.find?_cons, List.find?_cons, he.matches_eq, Player.inserted]
    split
    · exact .some ⟨e.1, e.2, rfl, he⟩
    · exact ih

/-- A change is made to the same player, whatever the forms of the records. -/
theorem updateFirst (h : AllRecordedAs entries records) (selector : Fields) (c : Change) :
    ∃ entries', entries'.map (·.2) = entries.map (·.2) ∧
      (TextAdventure.updateFirst selector c.fields (entries.map Player.inserted)).1 =
        entries'.map Player.inserted ∧
      AllRecordedAs entries' (TextAdventure.updateFirst selector c.fields records).1 ∧
      (TextAdventure.updateFirst selector c.fields records).2 =
        (TextAdventure.updateFirst selector c.fields (entries.map Player.inserted)).2 := by
  induction h with
  | nil => exact ⟨[], rfl, rfl, .nil, rfl⟩
  | @cons e r entries records he hrest ih =>
    obtain ⟨entries', hids, hinserted, hrecords, hfound⟩ := ih
    have hmatches : r.matches selector = (Player.inserted e).matches selector :=
      he.matches_eq selector
    simp only [List.map_cons, TextAdventure.updateFirst, hmatches]
    split
    · refine ⟨(c.applyTo e.1, e.2) :: entries, rfl, ?_, cons (he.update c) hrest, rfl⟩
      rw [List.map_cons, Player.inserted, Player.inserted, update_identified]
    · exact ⟨e :: entries', by simp [hids], by simp [hinserted], cons he hrecords, hfound⟩

end AllRecordedAs

end Player

/-! ### Documents of records -/

namespace SavedStore

open Player (AllRecordedAs)

/-- The document of a save file that holds records of players. -/
def documentOf (records : List Fields) : Fields :=
  [(.text playerCollection, .list (records.map .table))]

/-- What is written of some records is read as these records with their entries in order. -/
def ReadsBack (records : List Fields) : Prop :=
  Yaml.read (Yaml.write (documentOf records)) =
    .ok (.table (documentOf (records.map Fields.inOrder)))

instance (records : List Fields) : Decidable (ReadsBack records) :=
  inferInstanceAs (Decidable (_ = _))

variable {entries : List (Player × Int)} {records : List Fields}

/-- The records of players are saved as they are. -/
theorem document_eq {s : SavedStore}
    (h : AllRecordedAs entries (s.store.records playerCollection)) :
    s.document = documentOf (s.store.records playerCollection) := by
  have hitems : ∀ k : Nat,
      ((s.store.records playerCollection).mapIdx fun i r => (Value.ofRecord r).withCopy (i + k)) =
        (s.store.records playerCollection).map .table := by
    generalize s.store.records playerCollection = records at h
    induction h with
    | nil => intro k; rfl
    | cons he _ ih =>
      intro k
      rw [List.mapIdx_cons, List.map_cons, he.withCopy, ← ih (k + 1)]
      simp only [Nat.add_assoc, Nat.add_comm 1]
  rw [document, documentOf, hitems 1]

/-- The forms of records make no difference to what is written. -/
theorem write_documentOf (h : AllRecordedAs entries records) :
    Yaml.write (documentOf records) =
      Yaml.write (documentOf (entries.map Player.inserted)) := by
  have hitems : Yaml.Outline.ofItems (records.map .table) =
      Yaml.Outline.ofItems ((entries.map Player.inserted).map .table) := by
    induction h with
    | nil => rfl
    | cons he _ ih =>
      simp only [List.map_cons, Yaml.Outline.ofItems, Yaml.Outline.ofValue, ih,
        he.sortEntries_ofEntries, Player.inserted]
  have hfields : Yaml.Outline.ofFields (documentOf records) =
      Yaml.Outline.ofFields (documentOf (entries.map Player.inserted)) := by
    simp only [Yaml.Outline.ofFields, documentOf, Yaml.Outline.ofEntries, Yaml.Outline.ofEntry,
      Yaml.Outline.ofValue, hitems]
  simp only [Yaml.write, hfields]

/-- The players of a document are the records that it is of. -/
theorem playersOf_documentOf (path : Path) (records : List Fields) :
    playersOf path (.table (documentOf records)) = .ok records := by
  have hmap : (records.map Value.table).mapM (·.record?) = some records := by
    induction records with
    | nil => rfl
    | cons r records ih => simp [ih]
  have hget : (documentOf records).get? playerCollection = some (.list (records.map .table)) := rfl
  have hgiven : (Value.table (documentOf records)).orEmptyTable = .table (documentOf records) := rfl
  simp [playersOf, hgiven, hget, hmap]

end SavedStore

end TextAdventure
