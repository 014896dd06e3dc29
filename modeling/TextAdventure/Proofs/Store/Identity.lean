import TextAdventure.Proofs.Store.PlayerRecord

/-!
# Identities in the store

A store is sound (`Store.Identified`) if all players have whole numbers of their own for identities,
with those of new players to come after them. Then a change by identity meets the one record that has
it (`Store.update_own`), and sound stores stay sound, whatever is asked of them.
-/

namespace TextAdventure

theorem Value.equals_int_int (m n : Int) : equals (.int m) (.int n) = decide (m = n) := by
  by_cases h : m = n <;> simp [equals, whole?, h]

/-- A record fits the selector of an identity if it has it. -/
theorem Fields.matches_identity {r : Fields} {m : Int} (h : r.get? "_id" = some (.int m))
    (n : Int) : r.matches (Query.identitySelector (.int n)) = decide (m = n) := by
  simp [Fields.matches, Query.identitySelector, lookup?_text, h, Value.equals_int_int]

/-- A record fits the selector of a player if it has the two names. -/
theorem Fields.matches_player {r : Fields} {username map : String} :
    r.matches (Query.playerSelector username map) = true ↔
      r.get? "username" = some (.text username) ∧ r.get? "map" = some (.text map) := by
  have hequals : ∀ (v : Value) (t : String), v.equals (.text t) = true ↔ v = .text t := by
    intro v t
    cases v <;> simp [Value.equals]
  simp only [Fields.matches, Query.playerSelector, List.all_cons, List.all_nil, Bool.and_true,
    Bool.and_eq_true, lookup?_text]
  refine and_congr ?_ ?_
  · cases r.get? "username" <;> simp [hequals]
  · cases r.get? "map" <;> simp [hequals]

/-- The first record that fits is changed. -/
theorem updateFirst_append {selector changes : Fields} {pre post : List Fields} {r : Fields}
    (hpre : ∀ r ∈ pre, r.matches selector = false) (hr : r.matches selector = true) :
    updateFirst selector changes (pre ++ r :: post) = (pre ++ r.update changes :: post, true) := by
  induction pre with
  | nil => simp [updateFirst, hr]
  | cons q pre ih =>
    have hq := hpre q List.mem_cons_self
    have ih := ih fun r hr => hpre r (List.mem_cons_of_mem _ hr)
    simp [updateFirst, hq, ih]

/-- A record after a change is one from before, changed or not. -/
theorem mem_updateFirst {selector changes r : Fields} {records : List Fields}
    (h : r ∈ (updateFirst selector changes records).1) :
    r ∈ records ∨ ∃ q ∈ records, r = q.update changes := by
  induction records with
  | nil => simp [updateFirst] at h
  | cons q records ih =>
    unfold updateFirst at h
    split at h
    · rcases List.mem_cons.1 h with rfl | h
      · exact .inr ⟨q, List.mem_cons_self, rfl⟩
      · exact .inl (List.mem_cons_of_mem _ h)
    · rcases List.mem_cons.1 h with rfl | h
      · exact .inl List.mem_cons_self
      · rcases ih h with h | ⟨q', hq', e⟩
        · exact .inl (List.mem_cons_of_mem _ h)
        · exact .inr ⟨q', List.mem_cons_of_mem _ hq', e⟩

namespace Store

/-- All players have whole numbers of their own for identities, and those to come are greater. -/
structure Identified (s : Store) : Prop where
  identity : ∀ r ∈ s.records playerCollection, ∃ n < s.nextId, r.get? "_id" = some (.int n)
  distinct : (s.records playerCollection).Pairwise fun r r' => r.get? "_id" ≠ r'.get? "_id"

/-- All records of players and rooms are such. -/
structure Readable (s : Store) : Prop where
  players : ∀ r ∈ s.records playerCollection, ∃ p, Player.read (.table r) = .valid p
  rooms : ∀ r ∈ s.records roomCollection, ∃ room, Room.read (.table r) = .valid room

variable {s : Store}

/-- What is found depends on the records of the collection alone. -/
theorem find?_congr {s' : Store} {collection : String}
    (h : s'.records collection = s.records collection) (selector : Fields) :
    s'.find? collection selector = s.find? collection selector := by
  rw [find?, find?, h]

/-- A record that is inserted comes last. -/
theorem records_insert (s : Store) (collection : String) (record : Fields) :
    (s.insert collection record).2.records collection =
      s.records collection ++ [identified record s.nextId] :=
  records_withRecords _ _ _

theorem records_insert_of_ne {collection other : String} (h : other ≠ collection) (s : Store)
    (record : Fields) : (s.insert collection record).2.records other = s.records other :=
  records_withRecords_of_ne h _ _

/-- No query touches anything but the players. -/
theorem records_answer_of_ne {collection : String} (h : collection ≠ playerCollection) (q : Query)
    (s : Store) : (answer q s).2.records collection = s.records collection := by
  cases q with
  | findPlayer username map => rfl
  | findRoom x y map => rfl
  | insertPlayer record => exact records_insert_of_ne h s record
  | updatePlayer id c =>
    simp only [answer, update]
    split
    · exact records_withRecords_of_ne h s _
    · rfl

theorem insertAll_records_of_ne {collection other : String} (h : other ≠ collection) (s : Store)
    (records : List Fields) :
    (s.insertAll collection records).records other = s.records other := by
  induction records generalizing s with
  | nil => rfl
  | cons r records ih => exact (ih _).trans (records_insert_of_ne h _ _)

/-- A store of rooms holds no players. -/
theorem records_ofRooms (rooms : List Fields) :
    (ofCollections [(roomCollection, rooms)]).records playerCollection = [] := by
  have hne : playerCollection ≠ roomCollection := by decide
  exact insertAll_records_of_ne hne empty rooms

/-- The record of a new player comes last, with the next identity. -/
theorem insert_eq {record : Fields} (h : record.get? "_id" = none) :
    s.insert playerCollection record =
      (record.put "_id" (.int s.nextId),
        { s with nextId := s.nextId + 1 }.withRecords playerCollection
          (s.records playerCollection ++ [record.put "_id" (.int s.nextId)])) := by
  simp [insert, identified, Fields.putNew, Fields.has, h, records]

namespace Identified

variable (hs : s.Identified)
include hs

/-- A change by identity meets the record that has it. -/
theorem update_own {pre post : List Fields} {r : Fields}
    (hr : s.records playerCollection = pre ++ r :: post) {n : Int}
    (hn : r.get? "_id" = some (.int n)) (changes : Fields) :
    s.update playerCollection (Query.identitySelector (.int n)) changes =
      (true, s.withRecords playerCollection (pre ++ r.update changes :: post)) := by
  have hpre : ∀ q ∈ pre, q.matches (Query.identitySelector (.int n)) = false := by
    intro q hq
    obtain ⟨m, -, hm⟩ := hs.identity q (by simp [hr, hq])
    have hdistinct := hs.distinct
    rw [hr] at hdistinct
    have hne := (List.pairwise_append.1 hdistinct).2.2 q hq r List.mem_cons_self
    rw [Fields.matches_identity hm]
    simp_all
  have hmatch : r.matches (Query.identitySelector (.int n)) = true := by
    simp [Fields.matches_identity hn]
  rw [update, hr, updateFirst_append hpre hmatch]
  rfl

/-- A store stays sound if a record is replaced by one with the same identity. -/
theorem replace {s' : Store} {pre post : List Fields} {r r' : Fields}
    (hr : s.records playerCollection = pre ++ r :: post)
    (hr' : s'.records playerCollection = pre ++ r' :: post)
    (hid : r'.get? "_id" = r.get? "_id") (hnext : s'.nextId = s.nextId) : s'.Identified := by
  have hids : (s'.records playerCollection).map (·.get? "_id") =
      (s.records playerCollection).map (·.get? "_id") := by
    simp [hr, hr', hid]
  refine ⟨fun q hq => ?_, ?_⟩
  · have hmem : q.get? "_id" ∈ (s.records playerCollection).map (·.get? "_id") := by
      rw [← hids]
      exact List.mem_map_of_mem hq
    obtain ⟨q', hq', e⟩ := List.mem_map.1 hmem
    rw [hnext, ← e]
    exact hs.identity q' hq'
  · have hdistinct := List.pairwise_map.2 hs.distinct
    rw [← hids] at hdistinct
    exact List.pairwise_map.1 hdistinct

/-- A store stays sound when a player without an identity is inserted. -/
theorem insert {record : Fields} (h : record.get? "_id" = none) :
    (s.insert playerCollection record).2.Identified := by
  rw [insert_eq h]
  refine ⟨?_, ?_⟩
  · simp only [records_withRecords, List.mem_append, List.mem_singleton]
    rintro r (hr | rfl)
    · obtain ⟨n, hn, hid⟩ := hs.identity r hr
      exact ⟨n, Int.lt_trans hn (Int.lt_succ _), hid⟩
    · exact ⟨s.nextId, Int.lt_succ _, Fields.get?_put_self record "_id" _⟩
  · simp only [records_withRecords]
    refine List.pairwise_append.2 ⟨hs.distinct, List.pairwise_singleton _ _, ?_⟩
    intro r hr q hq
    obtain ⟨n, hn, hid⟩ := hs.identity r hr
    rw [List.mem_singleton.1 hq, hid, Fields.get?_put_self]
    intro e
    simp only [Option.some.injEq, Value.int.injEq] at e
    omega

end Identified

end Store

end TextAdventure
