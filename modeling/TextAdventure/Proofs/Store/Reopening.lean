import TextAdventure.Proofs.Disk.Writing
import TextAdventure.Proofs.Store.SavedRecords
import TextAdventure.Proofs.Turn.Queries

/-!
# Stores that are opened again

A store with a save file stays the same as one in memory that is never given up
(`SavedStore.Keeps`): the same players in the same order with the same identities, and the next
identity is the same too, since identities count on from those of the rooms. Every query keeps this
(`Keeps.answer`), and so does opening the store again (`Keeps.exists_reopen`).
-/

namespace TextAdventure

/-! ### Stores that records are put into -/

namespace Store

theorem insertAll_nextId (s : Store) (collection : String) (records : List Fields) :
    (s.insertAll collection records).nextId = s.nextId + records.length := by
  induction records generalizing s with
  | nil => simp [insertAll]
  | cons r records ih =>
    have hinsert : (s.insert collection r).2.nextId = s.nextId + 1 := rfl
    have hcons : s.insertAll collection (r :: records) =
        (s.insert collection r).2.insertAll collection records := rfl
    rw [hcons, ih, hinsert, List.length_cons]
    omega

/-- Records as they are put in: those without identities get numbers from a first one on, each by its
position among all of them. -/
def numbered (first : Int) (records : List Fields) : List Fields :=
  records.mapIdx fun i r => identified r (first + i)

@[simp] theorem length_numbered (first : Int) (records : List Fields) :
    (numbered first records).length = records.length :=
  List.length_mapIdx

theorem getElem_numbered {first : Int} {records : List Fields} {i : Nat} (hi : i < records.length)
    (hi' : i < (numbered first records).length) :
    (numbered first records)[i] = identified records[i] (first + i) := by
  simp only [numbered, List.getElem_mapIdx]

theorem identified_of_isSome {r : Fields} (h : (r.get? "_id").isSome = true) (n : Int) :
    identified r n = r := by
  rw [identified, Fields.putNew, Fields.has, if_pos h]

theorem records_insertAll (s : Store) (collection : String) (records : List Fields) :
    (s.insertAll collection records).records collection =
      s.records collection ++ numbered s.nextId records := by
  induction records generalizing s with
  | nil => simp [insertAll, numbered]
  | cons r records ih =>
    have hcons : s.insertAll collection (r :: records) =
        (s.insert collection r).2.insertAll collection records := rfl
    have hnext : ∀ i : Nat, (s.insert collection r).2.nextId + i = s.nextId + (i + 1 : Nat) := by
      intro i
      show s.nextId + 1 + i = _
      omega
    rw [hcons, ih, records_insert, List.append_assoc, numbered, numbered, List.mapIdx_cons]
    simp only [hnext, List.singleton_append, Int.natCast_zero, Int.add_zero]

/-- Records that have identities are put in as they are. -/
theorem insertAll_records (s : Store) {collection : String} {records : List Fields}
    (h : ∀ r ∈ records, (r.get? "_id").isSome = true) :
    (s.insertAll collection records).records collection = s.records collection ++ records := by
  have hkept : numbered s.nextId records = records := by
    refine List.ext_getElem (length_numbered _ _) fun i hi hi' => ?_
    rw [getElem_numbered hi', identified_of_isSome (h _ (List.getElem_mem hi'))]
  rw [records_insertAll, hkept]

end Store

/-- Players have the identities that follow one another from a first one on. -/
def Player.CountOn (first : Int) (entries : List (Player × Int)) : Prop :=
  entries.map (·.2) = (List.range entries.length).map fun i : Nat => first + i

namespace Player.CountOn

variable {first : Int} {entries : List (Player × Int)}

theorem concat (h : CountOn first entries) (p : Player) :
    CountOn first (entries ++ [(p, first + entries.length)]) := by
  rw [CountOn, List.map_append, show entries.map (·.2) = _ from h, List.length_append,
    List.length_singleton, List.range_succ, List.map_append]
  rfl

/-- The next identity follows the greatest one. -/
theorem max? (h : CountOn first entries) (hne : entries ≠ []) :
    (entries.map (·.2)).max? = some (first + entries.length - 1) := by
  rw [show entries.map (·.2) = _ from h, List.max?_eq_some_iff]
  have hpos : 0 < entries.length := List.length_pos_iff.2 hne
  constructor
  · exact List.mem_map.2 ⟨entries.length - 1, List.mem_range.2 (by omega), by omega⟩
  · intro n hn
    obtain ⟨i, hi, rfl⟩ := List.mem_map.1 hn
    rw [List.mem_range] at hi
    omega

end Player.CountOn

/-! ### The same players in memory and in a store with a save file -/

namespace SavedStore

open Player (AllRecordedAs CountOn inserted)

/-- A store with a save file holds the same players, rooms and next identity as one in memory. Both
began as the store `base` of the rooms, and the save file is the only file that has changed. -/
structure Holds (disk : Disk) (path place : Path) (base memory : Store) (s : SavedStore)
    (entries : List (Player × Int)) : Prop where
  saveFile : s.saveFile = some path
  memory_players : memory.records playerCollection = entries.map inserted
  players : AllRecordedAs entries (s.store.records playerCollection)
  memory_rooms : memory.records roomCollection = base.records roomCollection
  rooms : s.store.records roomCollection = base.records roomCollection
  memory_nextId : memory.nextId = base.nextId + entries.length
  nextId : s.store.nextId = base.nextId + entries.length
  countOn : CountOn base.nextId entries
  disk : disk.AgreesBut place s.disk

/-- The players are saved, unless there are none yet. -/
structure Keeps (disk : Disk) (path place : Path) (base memory : Store) (s : SavedStore)
    (entries : List (Player × Int)) : Prop extends Holds disk path place base memory s entries where
  written : s.disk.file? place = none ∧ entries = [] ∨
    s.disk.file? place = some (.text (Yaml.write (documentOf (entries.map inserted))))

section Steps

variable {disk : Disk} {path place : Path} {base memory : Store} {s : SavedStore}
  {entries : List (Player × Int)}

/-- Saving the players succeeds. -/
theorem Holds.saveAfter {α : Type} (h : Holds disk path place base memory s entries)
    (hroom : disk.HasRoomFor path place) (answer : α) :
    ∃ s', s.saveAfter answer = (.ok answer, s') ∧ Keeps disk path place base memory s' entries := by
  obtain ⟨after, hwrite, hdisk, hfile⟩ := h.disk.write hroom (.text (Yaml.write s.document))
  rw [document_eq h.players, write_documentOf h.players] at hfile
  refine ⟨{ s with disk := after }, ?_, { h with disk := hdisk, written := .inr hfile }⟩
  simp only [SavedStore.saveAfter, save, h.saveFile, Writing.run, Writing.leaves, hwrite]
  rfl

/-- A look-up brings the same player. -/
theorem Holds.find? (h : Holds disk path place base memory s entries) (username map : String) :
    Script.playerFound username (answer (.findPlayer username map) s).1 =
      Script.playerFound username (Store.answer (.findPlayer username map) memory).1 := by
  have hfind := h.players.find? (Query.playerSelector username map)
  simp only [answer, Store.answer, Store.find?, h.memory_players]
  generalize (entries.map inserted).find? _ = found at hfind ⊢
  generalize (s.store.records playerCollection).find? _ = found' at hfind ⊢
  cases hfind with
  | none => rfl
  | some hr =>
    obtain ⟨p, n, rfl, hr⟩ := hr
    have hread := (Player.RecordedAs.inserted (p := p) (n := n)).read
    simp only [Script.playerFound, hr.read, inserted, hread]

/-- An insertion of a player is answered alike and keeps the stores the same. -/
theorem Keeps.insert (h : Keeps disk path place base memory s entries)
    (hroom : disk.HasRoomFor path place) (p : Player) :
    (answer (.insertPlayer p.toRecord) s).1 =
        (Store.answer (.insertPlayer p.toRecord) memory).1 ∧
      Keeps disk path place base (Store.answer (.insertPlayer p.toRecord) memory).2
        (answer (.insertPlayer p.toRecord) s).2 (entries ++ [(p, memory.nextId)]) := by
  let stored := Store.identified p.toRecord memory.nextId
  have hnext : s.store.nextId = memory.nextId := h.nextId.trans h.memory_nextId.symm
  have hmemory : (memory.insert playerCollection p.toRecord).2.records playerCollection =
      (entries ++ [(p, memory.nextId)]).map inserted := by
    rw [List.map_append, ← h.memory_players]
    exact Store.records_insert _ _ _
  have hplayers : (s.store.insert playerCollection p.toRecord).2.records playerCollection =
      s.store.records playerCollection ++ [stored] := by
    rw [show stored = Store.identified p.toRecord s.store.nextId by rw [hnext]]
    exact Store.records_insert _ _ _
  have hholds : Holds disk path place base (memory.insert playerCollection p.toRecord).2
      { s with store := (s.store.insert playerCollection p.toRecord).2 }
      (entries ++ [(p, memory.nextId)]) :=
    { saveFile := h.saveFile
      memory_players := hmemory
      players := by
        rw [hplayers]
        exact h.players.concat p memory.nextId
      memory_rooms := (Store.records_insert_of_ne (by decide) _ _).trans h.memory_rooms
      rooms := (Store.records_insert_of_ne (by decide) _ _).trans h.rooms
      memory_nextId := by
        rw [List.length_append, List.length_singleton, Int.natCast_add, ← Int.add_assoc,
          ← h.memory_nextId]
        rfl
      nextId := by
        rw [List.length_append, List.length_singleton, Int.natCast_add, ← Int.add_assoc,
          ← h.nextId]
        rfl
      countOn := by
        rw [h.memory_nextId]
        exact h.countOn.concat p
      disk := h.disk }
  obtain ⟨s', hsave, hkeeps⟩ := hholds.saveAfter hroom stored
  have hanswer : answer (.insertPlayer p.toRecord) s = (.ok stored, s') := by
    have hstored : (s.store.insert playerCollection p.toRecord).1 = stored :=
      congrArg (Store.identified p.toRecord) hnext
    have hinsert : s.insert playerCollection p.toRecord = (.ok stored, s') := by
      simp only [SavedStore.insert, if_true, hstored, hsave]
    rw [answer, hinsert]
    rfl
  rw [hanswer]
  exact ⟨rfl, hkeeps⟩

/-- A change of a player is answered alike and keeps the stores the same. -/
theorem Keeps.update (h : Keeps disk path place base memory s entries)
    (hroom : disk.HasRoomFor path place) (id : Value) (c : Change) :
    ∃ entries', (answer (.updatePlayer id c) s).1 =
        (Store.answer (.updatePlayer id c) memory).1 ∧
      Keeps disk path place base (Store.answer (.updatePlayer id c) memory).2
        (answer (.updatePlayer id c) s).2 entries' := by
  obtain ⟨entries', hids, hmemory, hplayers, hfound⟩ :=
    h.players.updateFirst (Query.identitySelector id) c
  rw [← h.memory_players] at hmemory hfound
  have hlength : entries'.length = entries.length := by
    simpa using congrArg List.length hids
  cases hmiss : (updateFirst (Query.identitySelector id) c.fields
      (memory.records playerCollection)).2 with
  | false =>
    -- nobody has the identity, and nothing is written
    rw [hmiss] at hfound
    refine ⟨entries, ?_⟩
    simp only [answer, SavedStore.update, Store.answer, Store.update, hmiss, hfound, Bool.false_and,
      Bool.false_eq_true, if_false]
    exact ⟨rfl, h⟩
  | true =>
    rw [hmiss] at hfound
    have hholds : Holds disk path place base (memory.withRecords playerCollection _)
        { s with store := s.store.withRecords playerCollection _ } entries' :=
      { saveFile := h.saveFile
        memory_players := (Store.records_withRecords _ _ _).trans hmemory
        players := by
          rw [Store.records_withRecords]
          exact hplayers
        memory_rooms := (Store.records_withRecords_of_ne (by decide) _ _).trans h.memory_rooms
        rooms := (Store.records_withRecords_of_ne (by decide) _ _).trans h.rooms
        memory_nextId := hlength ▸ h.memory_nextId
        nextId := hlength ▸ h.nextId
        countOn := by
          rw [CountOn, hids, hlength]
          exact h.countOn
        disk := h.disk }
    obtain ⟨s', hsave, hkeeps⟩ := hholds.saveAfter hroom true
    have hupdate : s.update playerCollection (Query.identitySelector id) c.fields =
        (.ok true, s') := by
      simp only [SavedStore.update, Store.update, hfound, if_true, Bool.true_and, BEq.rfl, hsave]
    refine ⟨entries', ?_⟩
    simp only [answer, hupdate, Store.answer, Store.update, hmiss, if_true]
    exact ⟨rfl, hkeeps⟩

/-- What a turn asks after the look-up of its player is answered alike. -/
theorem Keeps.answer (h : Keeps disk path place base memory s entries)
    (hroom : disk.HasRoomFor path place) {q : Query} (hq : q.Follows) :
    ∃ entries', (SavedStore.answer q s).1 = (Store.answer q memory).1 ∧
      Keeps disk path place base (Store.answer q memory).2 (SavedStore.answer q s).2 entries' := by
  cases q with
  | findPlayer => exact hq.elim
  | insertPlayer record =>
    obtain ⟨p, rfl⟩ := hq
    exact ⟨_, h.insert hroom p⟩
  | findRoom x y map =>
    refine ⟨entries, ?_, h⟩
    simp only [SavedStore.answer, Store.answer, Store.find?, h.rooms, h.memory_rooms]
  | updatePlayer id c => exact h.update hroom id c

/-- A script that looks up no players comes to the same over both stores. -/
theorem Keeps.run {α : Type} {x : Script α} {n : Nat} (hx : x.Asks Query.Follows n)
    (h : Keeps disk path place base memory s entries) (hroom : disk.HasRoomFor path place) :
    ∃ entries', (x.run backend s).1 = (x.run Store.backend memory).1 ∧
      (x.run backend s).2.1 = (x.run Store.backend memory).2.1 ∧
      Keeps disk path place base (x.run Store.backend memory).2.2 (x.run backend s).2.2 entries' := by
  induction x generalizing n memory s entries with
  | done a => exact ⟨entries, rfl, rfl, h⟩
  | note ns next ih =>
    obtain ⟨entries', hresult, hnotes, h'⟩ := ih hx h
    exact ⟨entries', hresult, congrArg (ns ++ ·) hnotes, h'⟩
  | ask q next ih =>
    obtain _ | n := n
    · exact hx.elim
    · obtain ⟨entries', hanswer, h'⟩ := h.answer hroom hx.1
      have hsaved : (Script.ask q next).run backend s =
          (next (Store.answer q memory).1).run backend (SavedStore.answer q s).2 := by
        rw [← hanswer]
        rfl
      rw [hsaved]
      exact ih (Store.answer q memory).1 (hx.2 _) h'

/-- A turn comes to the same over both stores. -/
theorem Keeps.run_play (h : Keeps disk path place base memory s entries)
    (hroom : disk.HasRoomFor path place) (setting : Setting) (t : Turn) :
    ∃ entries', ((setting.play t).run backend s).1 = ((setting.play t).run Store.backend memory).1 ∧
      ((setting.play t).run backend s).2.1 = ((setting.play t).run Store.backend memory).2.1 ∧
      Keeps disk path place base ((setting.play t).run Store.backend memory).2.2
        ((setting.play t).run backend s).2.2 entries' := by
  obtain ⟨next, hplay, hnext⟩ := setting.exists_play_eq t
  rw [hplay]
  have hsaved : ∀ f : Except StorageError (Option Fields) → Run,
      (Script.ask (.findPlayer t.username t.map) f).run backend s =
        (f (SavedStore.answer (.findPlayer t.username t.map) s).1).run backend s := fun _ => rfl
  have hmemory : ∀ f : Except StorageError (Option Fields) → Run,
      (Script.ask (.findPlayer t.username t.map) f).run Store.backend memory =
        (f (Store.answer (.findPlayer t.username t.map) memory).1).run Store.backend memory :=
    fun _ => rfl
  rw [hsaved, hmemory, h.find?]
  exact h.run (hnext _) hroom

/-- The players have the same entries in both stores. -/
theorem Holds.perm (h : Holds disk path place base memory s entries) :
    List.Forall₂ List.Perm (memory.records playerCollection)
      (s.store.records playerCollection) := by
  rw [h.memory_players]
  exact h.players.perm

/-- The identities of players count on from the first one after those of the rooms. -/
theorem Holds.ids (h : Holds disk path place base memory s entries) :
    (s.store.records playerCollection).map (·.get? "_id") =
      (List.range (s.store.records playerCollection).length).map fun i : Nat =>
        some (.int (base.nextId + i)) := by
  rw [h.players.map_get?_id, ← h.players.length_eq]
  have hcount := congrArg (List.map fun n : Int => some (Value.int n)) h.countOn
  simpa [Function.comp_def] using hcount

end Steps

/-! ### Opening the store again -/

section Opening

variable {disk : Disk} {path place : Path} {rooms : List Fields} {memory : Store} {s : SavedStore}
  {entries : List (Player × Int)}

theorem loadPlayers_of_missing {after : Disk} (hplace : after.locate path = .ok place)
    (hfolder : after.isFolder place = false) (hfile : after.file? place = none) :
    loadPlayers after path = .ok [] := by
  have hread : after.read path = .error .missing := by
    simp only [Disk.read, hplace, bind, Except.bind, hfile, hfolder]
    rfl
  simp only [loadPlayers, Disk.has, hread]

theorem loadPlayers_of_written {after : Disk} (hplace : after.locate path = .ok place)
    {text : String} (hfile : after.file? place = some (.text text)) {records : List Fields}
    (hyaml : Yaml.read text = .ok (.table (documentOf records))) :
    loadPlayers after path = .ok records := by
  have hread : after.read path = .ok (.text text) := by
    simp only [Disk.read, hplace, bind, Except.bind, hfile]
    rfl
  simp only [loadPlayers, Disk.has, Disk.load, hread, Content.read, hyaml, Except.mapError,
    playersOf_documentOf]

/-- Players that come into a store of rooms keep their identities, and new ones count on from
them. -/
theorem withPlayers_eq {players : List Fields}
    (h : AllRecordedAs entries players) (base : Store)
    (hempty : base.records playerCollection = []) (hcount : CountOn base.nextId entries) :
    (withPlayers base players).records playerCollection = players ∧
      (withPlayers base players).records roomCollection = base.records roomCollection ∧
      (withPlayers base players).nextId = base.nextId + entries.length := by
  have hids : ∀ r ∈ players, (r.get? "_id").isSome = true := by
    intro r hr
    obtain ⟨e, he⟩ := h.exists_of_mem hr
    rw [he.get?_id]
    rfl
  let filled := base.insertAll playerCollection players
  have hplayers : filled.records playerCollection = players := by
    rw [Store.insertAll_records base hids, hempty, List.nil_append]
  have hrooms : filled.records roomCollection = base.records roomCollection :=
    Store.insertAll_records_of_ne (by decide) base players
  have hlength : players.length = entries.length := h.length_eq.symm
  have hnext : filled.nextId = base.nextId + entries.length := by
    rw [Store.insertAll_nextId, hlength]
  rw [withPlayers, show (base.insertAll playerCollection players).records playerCollection = players
    from hplayers, h.wholeIds]
  by_cases hne : entries = []
  · subst hne
    exact ⟨hplayers, hrooms, hnext⟩
  · -- the next identity is set to the one after the greatest, which is what it was
    rw [hcount.max? hne]
    refine ⟨hplayers, hrooms, ?_⟩
    show base.nextId + entries.length - 1 + 1 = _
    omega

theorem nextId_ofRooms (rooms : List Fields) :
    (Store.ofCollections [(roomCollection, rooms)]).nextId = 1 + rooms.length :=
  Store.insertAll_nextId Store.empty roomCollection rooms

theorem open?_eq {after : Disk} {players : List Fields} (collections : List (String × List Fields))
    (hload : loadPlayers after path = .ok players) :
    open? after (some path) collections =
      .ok ⟨withPlayers (Store.ofCollections collections) players, after, some path⟩ := by
  have hcopies : players.all Host.boundless.copies = true := List.all_eq_true.2 fun _ _ => rfl
  simp only [open?, hload, bind, Except.bind, hcopies, if_true]
  rfl

/-- A game begins with a store of rooms only. -/
theorem exists_open (rooms : List Fields) (hroom : disk.HasRoomFor path place) :
    let base := Store.ofCollections [(roomCollection, rooms)]
    ∃ s, open? disk (some path) [(roomCollection, rooms)] = .ok s ∧
      Keeps disk path place base base s [] := by
  intro base
  have hload := loadPlayers_of_missing hroom.locate hroom.isFolder hroom.file?
  have hnone : AllRecordedAs [] [] := .nil
  obtain ⟨hplayers, hrooms, hnext⟩ := withPlayers_eq hnone base (Store.records_ofRooms rooms) rfl
  refine ⟨_, open?_eq _ hload, ?_⟩
  exact
    { saveFile := rfl
      memory_players := Store.records_ofRooms rooms
      players := by
        rw [hplayers]
        exact .nil
      memory_rooms := rfl
      rooms := hrooms
      memory_nextId := (Int.add_zero _).symm
      nextId := hnext
      countOn := rfl
      disk := .refl _ _
      written := .inl ⟨hroom.file?, rfl⟩ }

/-- A store that is opened again is the one that was given up. -/
theorem Keeps.exists_reopen
    (h : Keeps disk path place (Store.ofCollections [(roomCollection, rooms)]) memory s entries)
    (hroom : disk.HasRoomFor path place) (hyaml : ReadsBack (memory.records playerCollection)) :
    ∃ s', open? s.disk (some path) [(roomCollection, rooms)] = .ok s' ∧
      Keeps disk path place (Store.ofCollections [(roomCollection, rooms)]) memory s' entries := by
  have hplace := h.disk.locate hroom.locate
  rw [h.memory_players] at hyaml
  obtain ⟨players, hload, hplayers⟩ : ∃ players, loadPlayers s.disk path = .ok players ∧
      AllRecordedAs entries players := by
    -- the save file is missing as long as there are no players
    rcases h.written with ⟨hfile, rfl⟩ | hfile
    · exact ⟨[], loadPlayers_of_missing hplace ((h.disk.isFolder _).trans hroom.isFolder) hfile, .nil⟩
    · exact ⟨_, loadPlayers_of_written hplace hfile hyaml, .reread entries⟩
  obtain ⟨hplayers', hrooms, hnext⟩ :=
    withPlayers_eq hplayers _ (Store.records_ofRooms rooms) h.countOn
  refine ⟨_, open?_eq _ hload, ?_⟩
  exact
    { h with
      saveFile := rfl
      players := by
        rw [hplayers']
        exact hplayers
      rooms := hrooms
      nextId := hnext }

end Opening

end SavedStore

end TextAdventure
