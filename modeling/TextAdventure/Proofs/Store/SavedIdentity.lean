import TextAdventure.Proofs.Store.Collection
import TextAdventure.Proofs.Store.FailedSave
import TextAdventure.Proofs.Store.Reopening

/-!
# Identities of saved players

When a store is opened, players that the save file lists without identities get numbers while the
file is gone through, each by its position after the rooms; only then does the counter move past the
identities that the file brings along, and past whole numbers only. So a number that is handed out
may be taken by another player of the file. `SavedStore.open_ownIds_iff` says exactly when that never
happens: if the file takes none of the numbers handed out while it is read, and none from the counter
on.
-/

namespace TextAdventure

namespace Fields

/-- A number is the identity of one of the records, as selectors see it. -/
def Taken (records : List Fields) (n : Int) : Prop :=
  ∃ r ∈ records, r.tag.SharesId ⟨some (.int n), none, none⟩

theorem tag_id_numbered {records : List Fields} {first : Int} {i : Nat} (hi : i < records.length)
    (hi' : i < (Store.numbered first records).length) (hnone : records[i].get? "_id" = none) :
    (Store.numbered first records)[i].tag.id = some (.int (first + i)) := by
  rw [Store.getElem_numbered hi, tag_identified hnone]

theorem numbered_of_isSome {records : List Fields} {first : Int} {i : Nat}
    (hi : i < records.length) (hi' : i < (Store.numbered first records).length)
    (hsome : (records[i].get? "_id").isSome = true) :
    (Store.numbered first records)[i] = records[i] := by
  rw [Store.getElem_numbered hi, Store.identified_of_isSome hsome]

theorem mem_numbered_of_isSome {records : List Fields} {first : Int} {r : Fields}
    (hr : r ∈ records) (hsome : (r.get? "_id").isSome = true) :
    r ∈ Store.numbered first records := by
  obtain ⟨i, hi, rfl⟩ := List.getElem_of_mem hr
  have hi' : i < (Store.numbered first records).length := by rwa [Store.length_numbered]
  have hmem := List.getElem_mem hi'
  rwa [numbered_of_isSome hi hi' hsome] at hmem

/-- A record that was put in is one from before, or it was given a number. -/
theorem mem_numbered {records : List Fields} {first : Int} {r : Fields}
    (hr : r ∈ Store.numbered first records) :
    r ∈ records ∧ (r.get? "_id").isSome = true ∨ ∃ i : Nat, r.get? "_id" = some (.int (first + i)) := by
  obtain ⟨i, hi', rfl⟩ := List.getElem_of_mem hr
  have hi : i < records.length := by rwa [Store.length_numbered] at hi'
  by_cases hnone : records[i].get? "_id" = none
  · exact .inr ⟨i, tag_id_numbered hi hi' hnone⟩
  · have hsome := Option.isSome_iff_ne_none.2 hnone
    rw [numbered_of_isSome hi hi' hsome]
    exact .inl ⟨List.getElem_mem hi, hsome⟩

/-- Records whose identities differ are told apart, once all of them have one, exactly if none of the
numbers that are handed out is taken. -/
theorem pairwise_numbered_iff {records : List Fields}
    (hdistinct : records.Pairwise fun r q => ¬r.tag.SharesId q.tag) (first : Int) :
    ((Store.numbered first records).map tag).Pairwise (fun l m => ¬l.SharesId m) ↔
      ∀ (i : Nat) (r : Fields), records[i]? = some r → r.get? "_id" = none →
        ¬Taken records (first + i) := by
  rw [List.pairwise_map, List.pairwise_iff_getElem]
  rw [List.pairwise_iff_getElem] at hdistinct
  have hlength := Store.length_numbered first records
  constructor
  · rintro h i r hr hnone ⟨q, hq, hshares⟩
    obtain ⟨hi, rfl⟩ := List.getElem?_eq_some_iff.1 hr
    obtain ⟨j, hj, rfl⟩ := List.getElem_of_mem hq
    have hi' := hlength.symm ▸ hi
    have hj' := hlength.symm ▸ hj
    have hsome : (records[j].get? "_id").isSome = true := by
      obtain ⟨id, -, hid, -⟩ := hshares
      exact Option.isSome_iff_exists.2 ⟨id, hid⟩
    have hkept := numbered_of_isSome hj hj' hsome
    rw [← Tag.sharesId_int (tag_id_numbered hi hi' hnone), ← hkept] at hshares
    rcases Nat.lt_trichotomy i j with hlt | rfl | hlt
    · exact h i j hi' hj' hlt hshares.symm
    · simp [hnone] at hsome
    · exact h j i hj' hi' hlt hshares
  · intro h i j hi' hj' hlt hshares
    have hi : i < records.length := hlength ▸ hi'
    have hj : j < records.length := hlength ▸ hj'
    have hfree : ∀ (k l : Nat) (hk : k < records.length) (hl : l < records.length),
        records[k].get? "_id" = none →
        ¬records[l].tag.SharesId ⟨some (.int (first + k)), none, none⟩ := by
      intro k l hk hl hnone hshares
      exact h k _ (List.getElem?_eq_getElem hk) hnone ⟨_, List.getElem_mem hl, hshares⟩
    by_cases hnone : records[i].get? "_id" = none
    · by_cases hnone' : records[j].get? "_id" = none
      · -- two numbers that were handed out differ
        rw [Tag.sharesId_int (tag_id_numbered hj hj' hnone'),
          Tag.sharesId_int_iff (tag_id_numbered hi hi' hnone)] at hshares
        omega
      · rw [numbered_of_isSome hj hj' (Option.isSome_iff_ne_none.2 hnone')] at hshares
        have hshares := hshares.symm
        rw [Tag.sharesId_int (tag_id_numbered hi hi' hnone)] at hshares
        exact hfree i j hi hj hnone hshares
    · rw [numbered_of_isSome hi hi' (Option.isSome_iff_ne_none.2 hnone)] at hshares
      by_cases hnone' : records[j].get? "_id" = none
      · rw [Tag.sharesId_int (tag_id_numbered hj hj' hnone')] at hshares
        exact hfree j i hj hi hnone' hshares
      · rw [numbered_of_isSome hj hj' (Option.isSome_iff_ne_none.2 hnone')] at hshares
        exact hdistinct i j hi hj hlt hshares

end Fields

namespace SavedStore

open Fields (Taken)

/-- What is saved under the identity of a player reaches the record of that player, unless the identity
equals nothing, and leaves all other players as they are. -/
def UpdatesOwn (s : SavedStore) : Prop :=
  ∀ (pre post : List Fields) (r : Fields) (id : Value) (changes : Fields),
    s.store.records playerCollection = pre ++ r :: post → r.get? "_id" = some id →
      (s.call (.update playerCollection (Query.identitySelector id) changes)).2.store.records
          playerCollection =
        pre ++ (if id.equals id then r.update changes else r) :: post

/-- Records to be inserted, each into a collection, have no identities yet. -/
def AreNew (added : List (String × Fields)) : Prop := ∀ e ∈ added, e.2.get? "_id" = none

/-- The store after records have been inserted one after another. -/
def insertAll (s : SavedStore) (added : List (String × Fields)) : SavedStore :=
  s.after (added.map fun e => .insert e.1 e.2)

variable {s : SavedStore} {disk : Disk} {path : Path} {players rooms : List Fields}

theorem updatesOwn (h : s.store.OwnIds) : s.UpdatesOwn := by
  intro pre post r id changes hplayers hid
  have hupdate := Store.update_eq_of_distinct h.distinct hplayers hid changes
  rw [call_store]
  simp only [Store.call, hupdate]
  split
  · exact Store.records_withRecords _ _ _
  · exact hplayers

/-! ### What a store opens with -/

/-- The players of the file come after those of the store. -/
theorem records_withPlayers (base : Store) (players : List Fields) :
    (withPlayers base players).records playerCollection =
      base.records playerCollection ++ Store.numbered base.nextId players := by
  rw [← Store.records_insertAll, withPlayers]
  split <;> rfl

/-- The counter is past all whole numbers among the identities. -/
theorem lt_nextId_withPlayers {base : Store} {r : Fields} {n : Int}
    (hr : r ∈ (withPlayers base players).records playerCollection)
    (hid : r.get? "_id" = some (.int n)) : n < (withPlayers base players).nextId := by
  rw [records_withPlayers, ← Store.records_insertAll] at hr
  have hmem : n ∈ wholeIds ((base.insertAll playerCollection players).records playerCollection) :=
    List.mem_filterMap.2 ⟨r, hr, by rw [hid]⟩
  rw [withPlayers]
  split
  · next m hmax =>
    have hle := (List.max?_eq_some_iff.1 hmax).2 n hmem
    show n < m + 1
    omega
  · next hmax =>
    rw [List.max?_eq_none_iff] at hmax
    exact absurd hmem (hmax ▸ List.not_mem_nil)

/-- If the file takes none of the numbers handed out while it is read, and none from the counter on,
all players of the opened store have identities of their own, and so will new ones. -/
theorem lastingIds_withPlayers {base : Store} (hempty : base.records playerCollection = [])
    (hdistinct : players.Pairwise fun r q => ¬r.tag.SharesId q.tag)
    (hread : ∀ (i : Nat) (r : Fields), players[i]? = some r → r.get? "_id" = none →
      ¬Taken players (base.nextId + i))
    (hlater : ∀ n, (withPlayers base players).nextId ≤ n → ¬Taken players n) :
    (withPlayers base players).LastingIds := by
  have hplayers := records_withPlayers base players
  rw [hempty, List.nil_append] at hplayers
  refine ⟨⟨?_, ?_⟩, ?_⟩
  · intro l hl
    obtain ⟨r, hr, rfl⟩ := List.mem_map.1 hl
    rcases Fields.mem_numbered (hplayers ▸ hr) with ⟨-, hsome⟩ | ⟨i, hid⟩
    · exact Option.isSome_iff_ne_none.1 hsome
    · exact fun hnone => nomatch hid.symm.trans hnone
  · rw [Store.tags, hplayers]
    exact (Fields.pairwise_numbered_iff hdistinct _).2 hread
  · intro l hl n hn hshares
    obtain ⟨r, hr, rfl⟩ := List.mem_map.1 hl
    rcases Fields.mem_numbered (hplayers ▸ hr) with ⟨hr', -⟩ | ⟨i, hid⟩
    · exact hlater n hn ⟨r, hr', hshares⟩
    · -- a number that was handed out counted when the counter was set
      have hlt := lt_nextId_withPlayers hr hid
      have heq := (Fields.Tag.sharesId_int_iff hid).1 hshares
      omega

/-! ### Identities in opened stores -/

/-- New records leave all players with identities of their own if they get numbers that nobody has. -/
theorem ownIds_insertAll (h : s.store.LastingIds) {added : List (String × Fields)}
    (hnew : AreNew added) : (s.insertAll added).store.OwnIds := by
  have hkeep : ∀ (added : List (String × Fields)) (store : Store), store.LastingIds →
      AreNew added → (store.after (added.map fun e => .insert e.1 e.2)).LastingIds := by
    intro added
    induction added with
    | nil => exact fun _ h _ => h
    | cons e added ih =>
      intro store h hnew
      obtain ⟨he, hadded⟩ := List.forall_mem_cons.1 hnew
      exact ih _ (h.insert e.1 he) hadded
  rw [insertAll, after_store]
  exact (hkeep added s.store h hnew).toOwnIds

/-- If new players never share an identity with another one, nobody has one from the counter on. -/
theorem not_sharesId_of_ownIds
    (h : ∀ added, AreNew added → (s.insertAll added).store.OwnIds) {l : Fields.Tag}
    (hl : l ∈ s.store.tags) {n : Int} (hn : s.store.nextId ≤ n) :
    ¬l.SharesId ⟨some (.int n), none, none⟩ := by
  -- enough new players are inserted that the last of them gets the number
  obtain ⟨k, rfl⟩ := Int.le.dest hn
  let new : List Fields := List.replicate (k + 1) []
  have hown := h (new.map fun r => (playerCollection, r)) (by simp [AreNew, new])
  have hstore : (s.insertAll (new.map fun r => (playerCollection, r))).store =
      s.store.insertAll playerCollection new := by
    rw [insertAll, after_store, List.map_map, Store.after, List.foldl_map]
    rfl
  have hdistinct := hown.distinct
  rw [hstore, Store.tags, Store.records_insertAll, List.map_append, List.pairwise_append]
    at hdistinct
  have hk : k < new.length := by simp [new]
  have hk' : k < (Store.numbered s.store.nextId new).length := by rwa [Store.length_numbered]
  have hid : (Store.numbered s.store.nextId new)[k].tag.id = some (.int (s.store.nextId + k)) :=
    Fields.tag_id_numbered hk hk' (by simp [new])
  rw [← Fields.Tag.sharesId_int hid]
  exact hdistinct.2.2 l hl _ (List.mem_map_of_mem (List.getElem_mem hk'))

/-- A store that is opened over rooms with a file of players whose identities differ keeps all players
apart, whoever comes in later, exactly if the file takes none of the numbers that are handed out while
it is read and none from the counter on. -/
theorem open_ownIds_iff (hload : loadPlayers disk path = .ok players)
    (hdistinct : players.Pairwise fun r q => ¬r.tag.SharesId q.tag) :
    ∃ s, open? disk (some path) [(roomCollection, rooms)] = .ok s ∧
      ((∀ added, AreNew added →
          (s.insertAll added).store.OwnIds ∧ (s.insertAll added).UpdatesOwn) ↔
        (∀ (i : Nat) (r : Fields), players[i]? = some r → r.get? "_id" = none →
          ¬Taken players (1 + rooms.length + i)) ∧
        ∀ n, s.store.nextId ≤ n → ¬Taken players n) := by
  let base := Store.ofCollections [(roomCollection, rooms)]
  have hempty : base.records playerCollection = [] := Store.records_ofRooms rooms
  have hnext : base.nextId = 1 + rooms.length := nextId_ofRooms rooms
  have hplayers := records_withPlayers base players
  rw [hempty, List.nil_append] at hplayers
  refine ⟨_, open?_eq _ hload, ?_⟩
  rw [← hnext]
  constructor
  · intro h
    have hown : ∀ added, AreNew added → _ := fun added hnew => (h added hnew).1
    refine ⟨?_, fun n hn => ?_⟩
    · have hopened := (hown [] nofun).distinct
      rw [← Fields.pairwise_numbered_iff hdistinct, ← hplayers]
      exact hopened
    · rintro ⟨r, hr, hshares⟩
      have hsome : (r.get? "_id").isSome = true := by
        obtain ⟨id, -, hid, -⟩ := hshares
        exact Option.isSome_of_mem hid
      have hmem : r ∈ (withPlayers base players).records playerCollection :=
        hplayers ▸ Fields.mem_numbered_of_isSome hr hsome
      exact not_sharesId_of_ownIds hown (List.mem_map_of_mem hmem) hn hshares
  · rintro ⟨hread, hlater⟩ added hnew
    have hlasting := lastingIds_withPlayers hempty hdistinct hread hlater
    let opened : SavedStore := ⟨withPlayers base players, disk, some path⟩
    have hown : (opened.insertAll added).store.OwnIds := ownIds_insertAll hlasting hnew
    exact ⟨hown, updatesOwn hown⟩

/-- A disk with a save file. -/
def savedAs (text : String) : Disk := ⟨[], [(.ofText "save.yaml", .text text)]⟩

/-- Two saved players, one of them without an identity. -/
def annAndBen (id : Value) : List Fields :=
  [[(.text "username", .text "ann")], [(.text "_id", id), (.text "username", .text "ben")]]

theorem open_ownIds_iff_text :
    ∃ s, open? (savedAs "player:\n- username: ann\n- _id: b\n  username: ben\n")
        (some (.ofText "save.yaml")) [(roomCollection, [])] = .ok s ∧
      ∀ added, AreNew added →
        (s.insertAll added).store.OwnIds ∧ (s.insertAll added).UpdatesOwn := by
  have hload : loadPlayers (savedAs "player:\n- username: ann\n- _id: b\n  username: ben\n")
      (.ofText "save.yaml") = .ok (annAndBen (.text "b")) := by
    decide +kernel
  have hdistinct : (annAndBen (.text "b")).Pairwise fun r q => ¬r.tag.SharesId q.tag := by
    refine List.pairwise_pair.2 ?_
    rintro ⟨id, -, hid, -⟩
    exact nomatch hid
  have hfree : ∀ n, ¬Taken (annAndBen (.text "b")) n := by
    rintro n ⟨r, hr, id, id', hid, hid', hequals⟩
    obtain rfl := Option.some.inj hid'
    rcases List.mem_pair.1 hr with rfl | rfl
    · exact nomatch hid
    · obtain rfl := Option.some.inj hid
      simp [Value.equals, Value.whole?] at hequals
  obtain ⟨s, hopen, hiff⟩ := open_ownIds_iff hload hdistinct
  exact ⟨s, hopen, hiff.2 ⟨fun i r _ _ => hfree _, fun n _ => hfree n⟩⟩

/-- A number that is handed out while the file is read may be the identity of a player who comes later:
here what is saved for the second player is written to the record of the first. -/
theorem open_shares_id :
    loadPlayers (savedAs "player:\n- username: ann\n- _id: 1\n  username: ben\n")
        (.ofText "save.yaml") = .ok (annAndBen (.int 1)) ∧
    ∃ s, open? (savedAs "player:\n- username: ann\n- _id: 1\n  username: ben\n")
        (some (.ofText "save.yaml")) [(roomCollection, [])] = .ok s ∧
      s.store.records playerCollection =
        [[(.text "username", .text "ann"), (.text "_id", .int 1)],
          [(.text "_id", .int 1), (.text "username", .text "ben")]] ∧
      (s.update playerCollection (Query.identitySelector (.int 1))
          [(.text "x", .int 5)]).2.store.records playerCollection =
        [[(.text "username", .text "ann"), (.text "_id", .int 1), (.text "x", .int 5)],
          [(.text "_id", .int 1), (.text "username", .text "ben")]] := by
  have hload : loadPlayers (savedAs "player:\n- username: ann\n- _id: 1\n  username: ben\n")
      (.ofText "save.yaml") = .ok (annAndBen (.int 1)) := by
    decide +kernel
  exact ⟨hload, _, open?_eq _ hload, rfl, rfl⟩

end SavedStore

end TextAdventure
