import TextAdventure.Proofs.Game.Alone
import TextAdventure.Proofs.Store.Identity
import TextAdventure.Proofs.Turn.Course
import TextAdventure.Proofs.Turn.Messages

/-!
# What a turn leaves in the store

Over a store in memory with sound identities and readable records, no query of a turn goes wrong
(`History.not_fails`), and what a turn saves reaches the record of its player and nothing else
(`History.replay_saves`). So after a turn the store gives back the player that the turn ended with
(`Game.play_saves_player`).
-/

namespace TextAdventure

namespace Store

variable {s : Store}

theorem Readable.update (hs : s.Readable) (selector : Fields) (c : Change) :
    (s.update playerCollection selector c.fields).2.Readable := by
  unfold Store.update
  dsimp only
  split
  · refine ⟨?_, ?_⟩
    · rw [records_withRecords]
      intro r hr
      rcases mem_updateFirst hr with hr | ⟨q, hq, rfl⟩
      · exact hs.players r hr
      · obtain ⟨p, hp⟩ := hs.players q hq
        exact ⟨c.applyTo p, Player.read_update hp c⟩
    · rw [records_withRecords_of_ne (by decide)]
      exact hs.rooms
  · exact hs

theorem Readable.insert (hs : s.Readable) (p : Player) :
    (s.insert playerCollection p.toRecord).2.Readable := by
  refine ⟨?_, ?_⟩
  · simp only [records_insert, List.mem_append, List.mem_singleton]
    rintro r (hr | rfl)
    · exact hs.players r hr
    · exact ⟨_, Player.read_identified p s.nextId⟩
  · rw [records_insert_of_ne (by decide)]
    exact hs.rooms

/-- Over readable records no query goes wrong, and the records stay readable. -/
theorem Readable.answer (hs : s.Readable) {q : Query} (hq : q.InsertsPlayer) :
    ¬q.Fails (Store.answer q s).1 ∧ (Store.answer q s).2.Readable := by
  cases q with
  | findPlayer username map =>
    refine ⟨?_, hs⟩
    simp only [Store.answer]
    cases hfind : s.find? playerCollection (Query.playerSelector username map) with
    | none => exact id
    | some r =>
      obtain ⟨p, hp⟩ := hs.players r (List.mem_of_find?_eq_some hfind)
      simp [Query.Fails, hp]
  | findRoom x y map =>
    refine ⟨?_, hs⟩
    simp only [Store.answer]
    cases hfind : s.find? roomCollection (Query.roomSelector x y map) with
    | none => exact id
    | some r =>
      obtain ⟨room, hroom⟩ := hs.rooms r (List.mem_of_find?_eq_some hfind)
      simp [Query.Fails, hroom]
  | insertPlayer record =>
    obtain ⟨p, rfl⟩ := hq record rfl
    refine ⟨?_, hs.insert p⟩
    have hid : (s.insert playerCollection p.toRecord).1.get? "_id" = some (.int s.nextId) := by
      rw [insert_eq rfl, Fields.get?_put_self]
    simp [Query.Fails, Store.answer, hid]
  | updatePlayer id c => exact ⟨fun h => h, hs.update _ c⟩

end Store

namespace History

theorem not_fails {h : History} {s : Store} (hanswered : h.AnsweredBy Store.backend s)
    (hs : s.Readable) (hasks : ∀ q answer, .asked q answer ∈ h → q.InsertsPlayer) : ¬h.Fails := by
  induction h generalizing s with
  | nil => exact not_fails_nil
  | cons e h ih =>
    have hasks' : ∀ q answer, .asked q answer ∈ h → q.InsertsPlayer :=
      fun q answer hm => hasks q answer (List.mem_cons_of_mem _ hm)
    cases e with
    | noted n => simpa using ih hanswered hs hasks'
    | asked q answer =>
      obtain ⟨rfl, hanswered⟩ := hanswered
      obtain ⟨hq, hs'⟩ := hs.answer (hasks q _ List.mem_cons_self)
      simpa [show ¬q.Fails (Store.backend.answer q s).1 from hq] using ih hanswered hs' hasks'

/-- Changes of one player that are saved one after another reach the record of that player and
nothing else. -/
theorem replay_saves {h : History} {n : Int} (hsaves : h.Saves (.int n)) {s : Store}
    (hs : s.Identified) {pre post : List Fields} {r : Fields}
    (hr : s.records playerCollection = pre ++ r :: post) (hn : r.get? "_id" = some (.int n)) :
    (h.replay Store.backend s).records playerCollection =
        pre ++ Change.makeAll h.changes r :: post ∧
      (∀ c ≠ playerCollection, (h.replay Store.backend s).records c = s.records c) ∧
      (h.replay Store.backend s).nextId = s.nextId := by
  induction h generalizing s r with
  | nil => exact ⟨hr, fun _ _ => rfl, rfl⟩
  | cons e h ih =>
    have hsaves' : Saves (.int n) h :=
      fun q answer hm => hsaves q answer (List.mem_cons_of_mem _ hm)
    cases e with
    | noted note => exact ih hsaves' hs hr hn
    | asked q answer =>
      obtain ⟨x, y, map, rfl⟩ | ⟨c, rfl⟩ := hsaves q answer List.mem_cons_self
      · exact ih hsaves' hs hr hn
      · -- the record keeps its place and its identity while its changes are saved
        have hupdate : (Store.backend.answer (.updatePlayer (.int n) c) s).2 =
            s.withRecords playerCollection (pre ++ r.update c.fields :: post) := by
          simp only [Store.backend, Store.answer, hs.update_own hr hn]
        have hid : (r.update c.fields).get? "_id" = r.get? "_id" :=
          Change.get?_update_of_not_saved (by decide) c r
        have hs' := hs.replace hr (Store.records_withRecords s playerCollection _) hid rfl
        obtain ⟨hplayers, hothers, hnext⟩ :=
          ih hsaves' hs' (Store.records_withRecords s playerCollection _) (hid.trans hn)
        rw [replay, hupdate]
        refine ⟨hplayers, fun c hc => (hothers c hc).trans ?_, hnext⟩
        exact Store.records_withRecords_of_ne hc s _

end History

/-! ### The record of the player -/

namespace Store

/-- Whether a record is the first one of a player, among others. -/
structure IsOwn (username map : String) (pre : List Fields) (r : Fields) : Prop where
  before : ∀ q ∈ pre, q.matches (Query.playerSelector username map) = false
  own : r.matches (Query.playerSelector username map) = true

/-- What a turn of a player may do to the records of players: the record of the player is changed in
fields that are saved, or a record is added for a player who had none. -/
inductive OwnChanged (username map : String) (s s' : Store) : Prop
  | updated {pre post : List Fields} {r r' : Fields} (hown : IsOwn username map pre r)
    (hr : s.records playerCollection = pre ++ r :: post)
    (hr' : s'.records playerCollection = pre ++ r' :: post)
    (hkeep : ∀ key, (∀ name ∈ Change.savedNames, key ≠ .text name) →
      r'.lookup? key = r.lookup? key)
  | added {r' : Fields}
    (hnone : s.find? playerCollection (Query.playerSelector username map) = none)
    (hr' : s'.records playerCollection = s.records playerCollection ++ [r'])
    (hid : r'.get? "_id" = some (.int s.nextId))

theorem IsOwn.find? {username map : String} {pre post : List Fields} {r : Fields} {s : Store}
    (h : IsOwn username map pre r) (hr : s.records playerCollection = pre ++ r :: post) :
    s.find? playerCollection (Query.playerSelector username map) = some r := by
  have hpre : pre.find? (·.matches (Query.playerSelector username map)) = none :=
    List.find?_eq_none.2 fun q hq => by simp [h.before q hq]
  rw [Store.find?, hr, List.find?_append, hpre, Option.none_or, List.find?_cons, h.own]

/-- A player is looked up by reading the record that is found. -/
theorem run_findPlayer {username map : String} {r : Fields} {p : Player} {s : Store}
    (hr : s.find? playerCollection (Query.playerSelector username map) = some r)
    (hp : Player.read (.table r) = .valid p) :
    (Script.findPlayer username map).run Store.backend s = (.ok (some p), [], s) := by
  simp [Script.findPlayer, Script.run, Store.backend, Store.answer, hr, Script.playerFound, hp]

/-- Changes that are saved leave the names of a player alone. -/
theorem IsOwn.makeAll {username map : String} {pre : List Fields} {r : Fields}
    (h : IsOwn username map pre r) (cs : List Change) :
    IsOwn username map pre (Change.makeAll cs r) := by
  refine ⟨h.before, ?_⟩
  have husername : "username" ∉ Change.savedNames := by decide
  have hmap : "map" ∉ Change.savedNames := by decide
  rw [Fields.matches_player, Change.get?_makeAll husername, Change.get?_makeAll hmap]
  exact Fields.matches_player.1 h.own

end Store

namespace Setting.Opens

variable {s : Setting} {username map : String} {opening : History} {start : Player} {st : Store}

/-- A turn that has got its player works with the player's own record, which was there or is new. -/
theorem exists_own (h : s.Opens username map opening start)
    (hanswered : opening.AnsweredBy Store.backend st) (hst : st.Identified) :
    ∃ (pre post : List Fields) (r : Fields) (n : Int),
      (opening.replay Store.backend st).records playerCollection = pre ++ r :: post ∧
        (opening.replay Store.backend st).Identified ∧
        (∀ c ≠ playerCollection, (opening.replay Store.backend st).records c = st.records c) ∧
        Store.IsOwn username map pre r ∧ r.get? "_id" = some (.int n) ∧ start.id = .int n ∧
        Player.read (.table r) = .valid start ∧
        (st.records playerCollection = pre ++ r :: post ∨
          st.find? playerCollection (Query.playerSelector username map) = none ∧
            st.records playerCollection = pre ∧ post = [] ∧ n = st.nextId) := by
  cases h with
  | found record p hread =>
    have hfind : st.find? playerCollection (Query.playerSelector username map) = some record :=
      (Except.ok.inj hanswered.1).symm
    obtain ⟨hmatch, pre, post, hr, hpre⟩ := List.find?_eq_some_iff_append.1 hfind
    obtain ⟨n, -, hn⟩ := hst.identity record (by simp [hr])
    have hstart : start.id = .int n := by
      obtain ⟨_, _, _, _, _, _, _, _, _, hid, _⟩ := Player.read_eq_valid.1 hread
      simp [hid, Schema.identity, hn]
    exact ⟨pre, post, record, n, hr, hst, fun _ _ => rfl,
      ⟨fun q hq => by simpa using hpre q hq, hmatch⟩, hn, hstart, hread, .inl hr⟩
  | created place hplace stored id hid hnull =>
    obtain ⟨hfind, hinsert, -⟩ := hanswered
    have hnone : st.find? playerCollection (Query.playerSelector username map) = none :=
      (Except.ok.inj hfind).symm
    generalize hp : Player.atPosition username map place.1 place.2 = p at *
    have hnames : p.username = username ∧ p.map = map := by simp [← hp, Player.atPosition]
    have hinserted : st.insert playerCollection p.toRecord = _ := Store.insert_eq rfl
    obtain rfl : stored = p.toRecord.put "_id" (.int st.nextId) :=
      (Except.ok.inj hinsert).trans (congrArg Prod.fst hinserted)
    obtain rfl : id = .int st.nextId := by simpa using hid.symm
    have hreplay : History.replay Store.backend
        [.asked (.findPlayer username map) (.ok none),
          .asked (.insertPlayer p.toRecord) (.ok (p.toRecord.put "_id" (.int st.nextId))),
          .noted (.log (.playerCreated username map))] st =
        (st.insert playerCollection p.toRecord).2 := rfl
    rw [hreplay]
    -- the new record comes after those that do not fit
    refine ⟨st.records playerCollection, [], p.toRecord.put "_id" (.int st.nextId), st.nextId, ?_,
      hst.insert rfl, ?_, ⟨?_, ?_⟩, Fields.get?_put_self _ _ _, rfl, ?_,
      .inr ⟨hnone, rfl, rfl, rfl⟩⟩
    · rw [hinserted, Store.records_withRecords]
    · intro c hc
      rw [hinserted, Store.records_withRecords_of_ne hc]
      rfl
    · exact fun q hq => by simpa using List.find?_eq_none.1 hnone q hq
    · rw [Fields.matches_player, Fields.get?_put_of_ne (by decide), Fields.get?_put_of_ne (by decide)]
      exact ⟨congrArg (some ∘ Value.text) hnames.1, congrArg (some ∘ Value.text) hnames.2⟩
    · have hread := Player.read_identified p st.nextId
      rwa [Store.identified, Fields.putNew, show p.toRecord.has "_id" = false from rfl] at hread

end Setting.Opens

namespace Game

/-- After a turn over readable records, the store gives back the player that the turn ended with:
nothing of what has changed is lost. The turn may have changed the own record of the player, or
added it; it has left all else alone. -/
theorem play_saves_player (pace : Pace) {g : Game Store} (hg : g.IsIdle)
    (hids : g.store.Identified) (hread : g.store.Readable) (line username : String)
    (map : Option String) :
    let t := g.turn line username map
    let s' := (g.play Store.backend pace t).2.store
    ∃ (u : Turn) (halt : Option Halt), (g.play Store.backend pace t).1.turns = [(u, halt)] ∧
      (g.setting.Usable → halt = none) ∧
      (halt = none → ∃ p, u.player = some p ∧ u.error = none ∧
        (Script.findPlayer username t.map).run Store.backend s' = (.ok (some p), [], s') ∧
        Store.OwnChanged username t.map g.store s' ∧
        ∀ c ≠ playerCollection, s'.records c = g.store.records c) := by
  intro t s'
  let h := (g.setting.play t).history Store.backend g.store
  have hends : g.setting.Ends t.username t.map h ((g.setting.play t).run Store.backend g.store).1 :=
    (Setting.play_course line username _).of_run Store.backend g.store
  have hanswered : h.AnsweredBy Store.backend g.store := Script.answeredBy_history _ _ _
  have hsound : ¬h.Fails :=
    History.not_fails hanswered hread fun _ _ => (g.setting.play_asks t).history _ _
  have hs' : s' = h.replay Store.backend g.store := by
    rw [Script.replay_history]
    exact congrArg (·.2.store) (play_eq Store.backend pace hg t)
  match hrun : ((g.setting.play t).run Store.backend g.store).1, hends with
  | (u, halt), hends =>
    refine ⟨u, halt, by rw [play_eq Store.backend pace hg, hrun], ?_, ?_⟩
    · intro hs
      cases halt with
      | none => rfl
      | some _ => exact absurd hs hends
    rintro rfl
    obtain hu | hu := hends
    · obtain ⟨start, p, opening, rest, hp, hh, hopens, hsaves, hchanges⟩ := hu.saved
      rw [hh, History.answeredBy_append] at hanswered
      obtain ⟨pre, post, r, n, hr, hids', hothers, hown, hn, hstart, hreadr, hbefore⟩ :=
        hopens.exists_own hanswered.1 hids
      rw [hstart] at hsaves
      obtain ⟨hr', hothers', -⟩ := History.replay_saves hsaves hids' hr hn
      rw [← History.replay_append, ← hh, ← hs'] at hr' hothers'
      have hfind := (hown.makeAll rest.changes).find? hr'
      have hfound : Player.read (.table (Change.makeAll rest.changes r)) = .valid p := by
        rw [Player.read_makeAll hreadr, hchanges]
      refine ⟨p, hp, hu.error, Store.run_findPlayer hfind hfound, ?_,
        fun c hc => (hothers' c hc).trans (hothers c hc)⟩
      rcases hbefore with hbefore | ⟨hnone, rfl, rfl, rfl⟩
      · exact .updated hown hbefore hr' fun key hkey => Change.lookup?_makeAll hkey _ r
      · refine .added hnone hr' ?_
        rw [← hn]
        exact Change.get?_makeAll (by decide) _ r
    · exact absurd hu.fails hsound

/-- A player with a title of her own takes a crown that leads her into the garden. She and the crown
are found there afterwards, in a record that has kept the title. -/
theorem play_saves_queen :
    let queen : Fields := [(.text "username", .text "ann"), (.text "title", .text "queen")]
    let hall : Room := ⟨.null, 0, 0, "default", "hall", "A hall.",
      [⟨.command, "get", some "crown", [],
        [⟨[], "The crown leads you out.", some ⟨some (.delta 1 0), ["+crown"], none⟩⟩]⟩]⟩
    let garden : Room := ⟨.null, 1, 0, "default", "garden", "A garden.", []⟩
    let s := Store.ofCollections
      [(playerCollection, [queen.put "map" (.text "default")]),
        (roomCollection, [hall.toRecord, garden.toRecord])]
    let g := Game.new ⟨Bundled.english, Bundled.englishMessages, [0, 0]⟩ "default" s
    let s' := (g.play Store.backend .yielding (g.turn "get crown" "ann" none)).2.store
    g.IsIdle ∧ g.store.Identified ∧ g.store.Readable ∧
      ∃ p, (Script.findPlayer "ann" "default").run Store.backend s' = (.ok (some p), [], s') ∧
        Store.OwnChanged "ann" "default" s s' ∧ p.x = 1 ∧ p.items.names = ["crown"] ∧
        (s'.records playerCollection).map (·.get? "title") = [some (.text "queen")] := by
  intro queen hall garden s g s'
  have hids : s.Identified := by
    refine ⟨fun r hr => ?_, List.pairwise_singleton _ _⟩
    obtain rfl := List.mem_singleton.1 hr
    exact ⟨1, by decide, rfl⟩
  have hread : s.Readable := by
    refine ⟨fun r hr => ?_, fun r hr => ?_⟩
    · obtain rfl := List.mem_singleton.1 hr
      exact ⟨_, rfl⟩
    · obtain rfl | hr := List.mem_cons.1 hr
      · exact ⟨_, rfl⟩
      · obtain rfl := List.mem_singleton.1 hr
        exact ⟨_, rfl⟩
  have htaken : (g.play Store.backend .yielding (g.turn "get crown" "ann" none)).1.turns.map
      (fun x => x.1.player.map fun p => (p.x, p.items.names)) = [some (1, ["crown"])] := by
    decide +kernel
  have htitle : (s'.records playerCollection).map (·.get? "title") = [some (.text "queen")] := by
    decide +kernel
  obtain ⟨u, halt, hturns, hhalt, hsaved⟩ :=
    play_saves_player .yielding (g := g) rfl hids hread "get crown" "ann" none
  obtain ⟨p, hu, -, hp, hown, -⟩ := hsaved (hhalt (Setting.usable_english _ 0 0))
  rw [hturns, List.map_singleton, hu] at htaken
  obtain ⟨hx, hitems⟩ : p.x = 1 ∧ p.items.names = ["crown"] := by simpa using htaken
  exact ⟨rfl, hids, hread, p, hp, hown, hx, hitems, htitle⟩

end Game

end TextAdventure
