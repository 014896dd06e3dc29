import TextAdventure.Proofs.Game.Contract
import TextAdventure.Proofs.Session.Restart
import TextAdventure.Proofs.Turn.Messages
import TextAdventure.Proofs.Turn.Safety

/-!
# Games over worlds that passed the check

A game is opened only over a world in which the check finds no faults. What the check goes over are
the rooms as they were authored; what a turn plays in are rooms that were written to a store and read
again. Since nothing is lost on the way, the store answers as the contract of turns in a world without
faults says (`World.contract_answeredBy`), and keeps doing so. So whatever is played, by whom and in
whatever order, nothing goes wrong (`Opening.start_goesWell`).
-/

namespace TextAdventure

/-! ### Stores without a save file -/

/-- A store without a save file answers as one in memory. -/
theorem SavedStore.answer_eq {s : SavedStore} (h : s.saveFile = none) (q : Query) :
    answer q s = ((Store.answer q s.store).1, { s with store := (Store.answer q s.store).2 }) := by
  cases q with
  | findPlayer username map => rfl
  | findRoom x y map => rfl
  | insertPlayer record =>
    simp only [answer, SavedStore.insert, saveAfter, save, h, if_true, asStorageError]
    rfl
  | updatePlayer id c =>
    simp only [answer, SavedStore.update, saveAfter, save, h, asStorageError]
    split <;> rfl

namespace World

variable {w : World} {directions : Directions}

/-- A store without a save file holds the rooms of the world, and players without nameless items. -/
structure IsServedBy (w : World) (s : SavedStore) : Prop where
  saveFile : s.saveFile = none
  rooms : s.store.records roomCollection = Store.numbered 1 w.records
  players : ∀ r ∈ s.store.records playerCollection,
    ∃ p, Player.read (.table r) = .valid p ∧ "" ∉ p.items

/-- The rooms that a store brings are those of the world. -/
theorem IsServedBy.roomFound {s : SavedStore} (h : w.IsServedBy s) (hw : w.HasCases)
    (hsound : ∀ r ∈ w.rooms, r.IsSound directions)
    (horigin : ∃ r, w.roomAt? w.origin.1 w.origin.2 "" = some r) (x y : Int) (map : String) :
    (w.contract directions).Fits (.findRoom x y map)
      (SavedStore.answer (.findRoom x y map) s).1 := by
  obtain ⟨n, hn⟩ := hw.roomFound h.rooms x y map
  refine ⟨_, hn, fun r hr => ?_, fun ho hnone => ?_⟩
  · obtain ⟨q, hq, rfl⟩ := Option.map_eq_some_iff.1 hr
    have hat := List.find?_some hq
    exact ⟨hat, hsound q (List.mem_of_find?_eq_some hq)⟩
  · obtain ⟨hx, hy, hmap⟩ := ho
    obtain ⟨r, hr⟩ := horigin
    have hfind : w.rooms.find? (·.isAt w.origin.1 w.origin.2 w.map) = some r := hr
    rw [hx, hy, hmap, hfind] at hnone
    cases hnone

/-- The players that a store brings hold no item without a name. -/
theorem IsServedBy.playerFound {s : SavedStore} (h : w.IsServedBy s) (username map : String) :
    (w.contract directions).Fits (.findPlayer username map)
      (SavedStore.answer (.findPlayer username map) s).1 := by
  simp only [SavedStore.answer]
  cases hfind : s.store.find? playerCollection (Query.playerSelector username map) with
  | none => exact ⟨none, rfl, fun p hp => by cases hp⟩
  | some r =>
    obtain ⟨p, hread, hitems⟩ := h.players r (List.mem_of_find?_eq_some hfind)
    refine ⟨some p, by simp only [Script.playerFound, hread], fun q hq => ?_⟩
    obtain rfl := Option.some.inj hq
    rw [Store.find?] at hfind
    have hmatch := List.find?_some hfind
    obtain ⟨-, hname⟩ := Fields.matches_player.1 hmatch
    obtain ⟨_, _, -, hmap, -⟩ := Player.read_eq_valid.1 hread
    have hown : Schema.optional Schema.text defaultMap "map" r = .valid map :=
      Player.optional_of_get? hname rfl
    exact ⟨Checked.valid.inj (hmap.symm.trans hown), hitems⟩

/-- The store answers turns in the world as their contract says. -/
theorem contract_answeredBy (hw : w.HasCases) (hsound : ∀ r ∈ w.rooms, r.IsSound directions)
    (horigin : ∃ r, w.roomAt? w.origin.1 w.origin.2 "" = some r) :
    (w.contract directions).AnsweredBy SavedStore.backend w.IsServedBy := by
  intro q s h hasks
  cases q with
  | findRoom x y map => exact ⟨h.roomFound hw hsound horigin x y map, h⟩
  | findPlayer username map => exact ⟨h.playerFound username map, h⟩
  | insertPlayer record =>
    obtain ⟨p, rfl, hp⟩ := hasks
    simp only [SavedStore.backend, SavedStore.answer_eq h.saveFile]
    refine ⟨⟨_, .int s.store.nextId, rfl, rfl, nofun⟩, h.saveFile, ?_, ?_⟩
    · exact (Store.records_answer_of_ne (by decide) (.insertPlayer _) s.store).trans h.rooms
    · simp only [Store.answer, Store.records_insert, List.mem_append, List.mem_singleton]
      rintro r (hr | rfl)
      · exact h.players r hr
      · exact ⟨_, Player.read_identified p s.store.nextId, hp⟩
  | updatePlayer id c =>
    simp only [SavedStore.backend, SavedStore.answer_eq h.saveFile]
    refine ⟨trivial, h.saveFile, ?_, ?_⟩
    · exact (Store.records_answer_of_ne (by decide) (.updatePlayer id c) s.store).trans h.rooms
    · simp only [Store.answer, Store.update]
      split
      · rw [Store.records_withRecords]
        intro r hr
        rcases mem_updateFirst hr with hr | ⟨q, hq, rfl⟩
        · exact h.players r hr
        · obtain ⟨p, hread, hitems⟩ := h.players q hq
          refine ⟨c.applyTo p, Player.read_update hread c, ?_⟩
          cases c with
          | items inv => exact hasks inv rfl
          | position x y => exact hitems
          | status status => exact hitems
      · exact h.players

end World

/-! ### Games -/

/-- A player is put where players begin: newly created or reset. -/
def Note.isBeginning : Note → Bool
  | .log (.playerCreated ..) | .log (.playerReset ..) => true
  | _ => false

namespace World

variable {w : World}

theorem foldl_lost (isThere : Room → Bool) (ns : List Note) :
    ns.foldl (Journey.after isThere) .lost = .lost := by
  induction ns with
  | nil => rfl
  | cons n ns ih => exact ih

/-- On the way, the next thing that a player comes to is the room where players begin. -/
theorem entered_of_begun {isThere : Room → Bool} {ns : List Note}
    (h : ns.foldl (Journey.after isThere) .begun = .over) :
    ∃ between room rest, ns = between ++ .entered room :: rest ∧
      (∀ m ∈ between, m.isPassage = false) ∧ isThere room = true := by
  induction ns with
  | nil => cases h
  | cons n ns ih =>
    rw [List.foldl_cons] at h
    by_cases hn : n.isPassage = true
    · unfold Note.isPassage at hn
      split at hn
      · rw [show Journey.after isThere .begun _ = .lost from rfl, foldl_lost] at h
        cases h
      · rw [show Journey.after isThere .begun _ = .lost from rfl, foldl_lost] at h
        cases h
      · rw [show Journey.after isThere .begun _ = .lost from rfl, foldl_lost] at h
        cases h
      · next room =>
        refine ⟨[], room, ns, rfl, List.forall_mem_nil _, ?_⟩
        by_contra hroom
        rw [show Journey.after isThere .begun (.entered room) = .lost from if_neg hroom,
          foldl_lost] at h
        cases h
      · cases hn
    · rw [Bool.not_eq_true] at hn
      rw [Journey.after_of_not_isPassage hn] at h
      obtain ⟨between, room, rest, rfl, hbetween, hroom⟩ := ih h
      exact ⟨n :: between, room, rest, rfl, List.forall_mem_cons.2 ⟨hn, hbetween⟩, hroom⟩

/-- Whoever has been put where players begin and is no longer on the way has entered the room
there before anything else. -/
theorem entered_of_journey {pre post : List Note} {n : Note}
    (h : w.journey (pre ++ n :: post) = .over) (hn : n.isBeginning = true) :
    ∃ between room rest, post = between ++ .entered room :: rest ∧
      (∀ m ∈ between, m.isPassage = false) ∧ room.isAt w.origin.1 w.origin.2 w.map = true := by
  rw [journey, List.foldl_append, List.foldl_cons] at h
  have hbegun : ∀ j : Journey, j.after (Room.isAt w.origin.1 w.origin.2 w.map) n = .begun ∨
      j.after (Room.isAt w.origin.1 w.origin.2 w.map) n = .lost := by
    intro j
    unfold Note.isBeginning at hn
    split at hn
    · cases j <;> simp [Journey.after]
    · cases j <;> simp [Journey.after]
    · cases hn
  rcases hbegun (pre.foldl (Journey.after (Room.isAt w.origin.1 w.origin.2 w.map)) .over)
    with hnow | hnow <;> rw [hnow] at h
  · exact entered_of_begun h
  · rw [foldl_lost] at h
    cases h

end World

/-- Nothing has gone wrong among turns that are played in a world. -/
structure Arena.GoesWell (w : World) (turns : List Turn) (a : Arena SavedStore) : Prop where
  /-- No turn ends with an error or is broken off. -/
  ends : ∀ (i : Nat) (f : Flight) (u : Turn) (halt : Option Halt), a.flights[i]? = some f →
    f.stage = .finished u halt → u.error = none ∧ halt = none
  /-- Every room that the store brings is one. -/
  rooms : ∀ x y map, ∃ found,
    ((Script.findRoom x y map).run SavedStore.backend a.store).1 = .ok found
  /-- No effect moves in a direction that leads nowhere. -/
  directions : ∀ i word username, .log (.unknownDirection word username) ∉ a.notesOf i
  /-- No player holds the item without a name: while a turn goes on, at its end, and in the store. -/
  applied : ∀ i trigger condition before after,
    .applied trigger condition before after ∈ a.notesOf i → "" ∉ before.items ∧ "" ∉ after.items
  held : ∀ (i : Nat) (f : Flight) (u : Turn) (halt : Option Halt) (p : Player),
    a.flights[i]? = some f → f.stage = .finished u halt → u.player = some p → "" ∉ p.items
  stored : ∀ r ∈ a.store.store.records playerCollection,
    ∃ p, Player.read (.table r) = .valid p ∧ "" ∉ p.items
  /-- Nobody comes to where players begin and finds no room there. -/
  origin : ∀ i username, .log (.noRoom username w.origin.1 w.origin.2 w.map) ∉ a.notesOf i
  /-- A player on the world's own map who is created or reset enters the room where players begin,
  and no other before it. -/
  begins : ∀ (i : Nat) (f : Flight) (u : Turn) (halt : Option Halt) (t : Turn),
    a.flights[i]? = some f → f.stage = .finished u halt → turns[i]? = some t → t.map = w.map →
      ∀ pre n post, a.notesOf i = pre ++ n :: post → n.isBeginning = true →
        ∃ between room rest, post = between ++ .entered room :: rest ∧
          (∀ m ∈ between, m.isPassage = false) ∧ room.isAt w.origin.1 w.origin.2 w.map = true

namespace Opening

variable {data disk : Disk} {plan : Plan} {w : World}

theorem hasCases_of_bundled {language : String} (h : Bundled.world language = .ok w) :
    w.HasCases := by
  have henglish : Bundled.englishWorld.HasCases := by decide
  have hgerman : Bundled.germanWorld.HasCases := by decide
  unfold Bundled.world Bundled.worldFor at h
  split at h
  · next other hother =>
    obtain rfl : other = w := Except.ok.inj h
    simp only [Bundled.otherWorlds, List.lookup_cons] at hother
    split at hother
    · exact Option.some.inj hother ▸ hgerman
    · cases hother
  · cases hfile : Disk.empty.has (.ofText (Bundled.worldFileIn language)) with
    | error e =>
      rw [hfile] at h
      cases h
    | ok found =>
      rw [hfile] at h
      exact Except.ok.inj h ▸ henglish

/-- In a world that a game may be opened over, all attributes have cases. -/
theorem hasCases_of_loadWorld (h : loadWorld disk plan = .ok w) : w.HasCases := by
  unfold loadWorld at h
  split at h
  · cases hworld : Bundled.world (plan.language.getD Pack.referenceLanguage) with
    | error e =>
      rw [hworld] at h
      cases h
    | ok w' =>
      rw [hworld] at h
      exact Except.ok.inj h ▸ hasCases_of_bundled hworld
  · split at h
    · cases h
    · cases h
    · cases h
    · split at h
      · next hread => exact Except.ok.inj h ▸ World.hasCases_of_read hread
      · cases h
      · cases h

/-- What is known of a game that is opened without a save file. -/
theorem exists_of_start {g : Game SavedStore} (hsave : plan.save = none)
    (hworld : loadWorld disk plan = .ok w) (hopen : (start data disk plan).result = .ok g) :
    ∃ pack : Pack, g.setting = setting w pack ∧ w.IsServedBy g.store ∧
      w.faults pack.vocabulary = [] := by
  obtain ⟨lines, pack, hfaults, hstart⟩ := exists_start_eq hworld hopen
  rw [hstart disk hworld, openStore, hsave] at hopen
  obtain rfl := Except.ok.inj hopen
  refine ⟨pack, rfl, ⟨rfl, w.records_seeded, fun r hr => ?_⟩, ?_⟩
  · have hnobody := Store.records_ofRooms w.records
    exact absurd (hnobody ▸ hr) List.not_mem_nil
  · exact List.map_eq_nil_iff.1 (List.append_eq_nil_iff.1 hfaults).2

/-- Over a world that passed the check nothing goes wrong, whoever plays what, and in whatever order
the turns take their steps. -/
theorem start_goesWell {g : Game SavedStore} (hsave : plan.save = none)
    (hworld : loadWorld disk plan = .ok w) (hopen : (start data disk plan).result = .ok g)
    (hs : g.setting.Usable) (requests : List Request) (pace : Pace) (schedule : List Nat) :
    let turns := requests.map fun r => g.turn r.1 r.2.1 r.2.2
    ((g.submit turns).follow SavedStore.backend pace schedule).GoesWell w turns := by
  intro turns
  obtain ⟨pack, hsetting, hserved, hfaults⟩ := exists_of_start hsave hworld hopen
  have horigin := World.exists_origin_of_faults hfaults
  have hdirections : g.setting.directions = pack.vocabulary.directions := by rw [hsetting]; rfl
  have hsound : ∀ r ∈ w.rooms, r.IsSound g.setting.directions := by
    rw [hdirections]
    exact World.isSound_of_faults hfaults
  have hanswered := World.contract_answeredBy (hasCases_of_loadWorld hworld) hsound horigin
  have hplay : ∀ t ∈ turns, (g.setting.play t).Keeps (w.contract g.setting.directions)
      (w.EndsWell t.map) [] := by
    intro t ht
    obtain ⟨line, hline⟩ := g.requests_start requests t ht
    rw [hline]
    exact Setting.play_keeps hs (by rw [hsetting]; rfl) line t.username t.map
  have hkeeping := Contract.follow hanswered hserved hplay pace schedule
  have hfinished : ∀ (i : Nat) (f : Flight) (u : Turn) (halt : Option Halt),
      ((g.submit turns).follow SavedStore.backend pace schedule).flights[i]? = some f →
        f.stage = .finished u halt → ∃ t, turns[i]? = some t ∧ w.EndsWell t.map
          (((g.submit turns).follow SavedStore.backend pace schedule).notesOf i) (u, halt) := by
    intro i f u halt hf hstage
    obtain ⟨t, ht, hends⟩ := hkeeping.stage i f hf
    rw [hstage] at hends
    exact ⟨t, ht, hends⟩
  refine
    { ends := fun i f u halt hf hstage => ?_
      rooms := fun x y map => ?_
      directions := fun i word username hmem => hkeeping.tells i _ hmem
      applied := fun i _ _ _ _ hmem => hkeeping.tells i _ hmem
      held := fun i f u halt p hf hstage hp => ?_
      stored := hkeeping.sound.players
      origin := fun i username hmem => hkeeping.tells i _ hmem ⟨rfl, rfl, rfl⟩
      begins := fun i f u halt t hf hstage ht hmap pre n post hnotes hn => ?_ }
  · obtain ⟨_, -, hends⟩ := hfinished i f u halt hf hstage
    exact ⟨hends.error, hends.halt⟩
  · obtain ⟨found, hfound, -⟩ := (hanswered (.findRoom x y map) _ hkeeping.sound trivial).1
    exact ⟨found, hfound⟩
  · obtain ⟨_, -, hends⟩ := hfinished i f u halt hf hstage
    exact hends.held p hp
  · obtain ⟨t', ht', hends⟩ := hfinished i f u halt hf hstage
    obtain rfl := Option.some.inj (ht.symm.trans ht')
    have hover := hends.journey hmap
    rw [hnotes] at hover
    exact World.entered_of_journey hover hn

/-- In the sample world Ann starts anew while Bob looks around. -/
theorem start_goesWell_english :
    let plan : Plan := ⟨none, some "en", none⟩
    ∃ g, (start Bundled.data .empty plan).result = .ok g ∧ plan.save = none ∧
      loadWorld .empty plan = .ok Bundled.englishWorld ∧ g.setting.Usable ∧
      let turns := [g.turn "reset all" "ann" none, g.turn "look" "bob" none]
      ((g.submit turns).follow SavedStore.backend .yielding [0, 1, 1, 0, 0, 1, 0, 1, 0, 0, 0]).GoesWell
        Bundled.englishWorld turns := by
  intro plan
  have hworld : loadWorld .empty plan = .ok Bundled.englishWorld := by
    decide +kernel
  have hchecked : ((start Bundled.data .empty plan).result.toOption.map fun g =>
      decide (g.setting.messages = Bundled.englishMessages ∧ g.setting.origin = [0, 0])) =
        some true := by
    decide +kernel
  cases hopen : (start Bundled.data .empty plan).result with
  | error e =>
    rw [hopen] at hchecked
    cases hchecked
  | ok g =>
    rw [hopen] at hchecked
    obtain ⟨hmessages, horigin⟩ := of_decide_eq_true (Option.some.inj hchecked)
    have hs : g.setting.Usable := by
      have husable := Setting.usable_english g.setting.vocabulary 0 0
      rwa [← hmessages, ← horigin] at husable
    exact ⟨g, rfl, rfl, hworld, hs, start_goesWell rfl hworld hopen hs
      [("reset all", "ann", none), ("look", "bob", none)] .yielding _⟩

end Opening

end TextAdventure
