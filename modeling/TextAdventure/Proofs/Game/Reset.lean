import TextAdventure.Language.Bundled
import TextAdventure.Proofs.Game.Alone
import TextAdventure.Proofs.Store.Collection
import TextAdventure.Proofs.Turn.Messages
import TextAdventure.Proofs.Turn.Roaming

/-!
# A reset forgets the past

Over a store in memory the player that is stored after a turn is the one that the turn ended with
(`Setting.Delivered.player?_eq`), and after a reset that is where the rooms lead from where players
begin (`Setting.play_reset`). Nothing of what was before is left but the items, and these only if they
are not reset. New players whose first line is not understood end in the same place, unless the rooms
keep on moving them (`Game.reset_forgets`).

As for players who play no more, this rests on the identities: a new player must not be given the
identity of another one. Otherwise what was saved for the new player is looked for in vain
(`Game.created_with_strange_identity`).
-/

namespace TextAdventure

namespace Store

/-- The player that is stored under a name on a map. -/
def player? (s : Store) (key : TurnKey) : Option Player :=
  (s.own? key).bind fun r => (Player.read (.table r)).toOption

/-- The rooms of a store, as they are found. -/
def atlas (s : Store) : Atlas := fun x y map =>
  (s.find? roomCollection (Query.roomSelector x y map)).bind fun r =>
    (Room.read (.table r)).toOption

theorem atlas_eq {s s' : Store} (h : s'.records roomCollection = s.records roomCollection) :
    s'.atlas = s.atlas := by
  funext x y map
  rw [atlas, atlas, find?_congr h]

/-- A player is stored, under an identity by which the record is found, and no other one. -/
structure Knows (s : Store) (key : TurnKey) (p : Player) : Prop extends OwnIds s where
  stored : s.player? key = some p
  /-- What is not equal to itself, as a number may be that is none, finds nothing. -/
  found : p.id.equals p.id = true

/-- No such player is stored, and the identity that comes next is nobody's. -/
structure Awaits (s : Store) (key : TurnKey) : Prop extends OwnIds s where
  missing : s.own? key = none
  unused : ∀ l ∈ s.tags, ¬l.SharesId ⟨some (.int s.nextId), none, none⟩

variable {s : Store} {key : TurnKey} {p : Player}

theorem player?_eq_some :
    s.player? key = some p ↔ ∃ r, s.own? key = some r ∧ Player.read (.table r) = .valid p := by
  rw [player?, Option.bind_eq_some_iff]
  refine exists_congr fun r => and_congr_right fun _ => ?_
  cases Player.read (.table r) <;> simp [Checked.toOption]

/-- A stored player is read with the identity and the map of the own record. -/
theorem Knows.exists_own (h : s.Knows key p) :
    ∃ r, s.own? key = some r ∧ Player.read (.table r) = .valid p ∧ r.get? "_id" = some p.id ∧
      p.map = key.map := by
  obtain ⟨r, hr, hread⟩ := player?_eq_some.1 h.stored
  obtain ⟨_, _, _, hmap, _⟩ := Player.read_eq_valid.1 hread
  have hkey : Schema.optional Schema.text defaultMap "map" r = .valid key.map :=
    Player.optional_of_get? (Fields.matches_player.1 (own?_eq_some hr).1).2 rfl
  exact ⟨r, hr, hread, h.get?_id hr hread, Checked.valid.inj (hmap.symm.trans hkey)⟩

end Store

namespace History

/-- Changes that are saved under the identity of the own record of a player are all made to it. -/
theorem replay_own {h : History} {id : Value} (hsaves : h.Saves id)
    (hfound : id.equals id = true) {key : TurnKey} {st : Store} (hst : st.OwnIds) {r : Fields}
    (hr : st.own? key = some r) (hid : r.get? "_id" = some id) :
    (h.replay Store.backend st).own? key = some (Change.makeAll h.changes r) := by
  induction h generalizing st r with
  | nil => exact hr
  | cons e h ih =>
    have hsaves' : Saves id h := fun q answer hm => hsaves q answer (List.mem_cons_of_mem _ hm)
    cases e with
    | noted n => exact ih hsaves' hst hr hid
    | asked q answer =>
      obtain ⟨x, y, map, rfl⟩ | ⟨c, rfl⟩ := hsaves q answer List.mem_cons_self
      · exact ih hsaves' hst hr hid
      · obtain ⟨-, hown, -⟩ := hst.update_own hr hid c
        rw [if_pos hfound] at hown
        exact ih hsaves' (hst.update _ c) hown
          ((Change.get?_update_of_not_saved (by decide) c r).trans hid)

end History

namespace Setting

variable {s : Setting} {st : Store} {key : TurnKey}

/-- A turn that has got its player works with the own record of the player, under an identity by which
no one else is found. -/
theorem Opens.knows {opening : History} {start : Player}
    (h : s.Opens key.username key.map opening start)
    (hanswered : opening.AnsweredBy Store.backend st)
    (hst : (∃ p, st.Knows key p) ∨ st.Awaits key) :
    (opening.replay Store.backend st).Knows key start := by
  cases h with
  | found record p hread =>
    have hown : st.own? key = some record := (Except.ok.inj hanswered.1).symm
    have hstored : st.player? key = some start := Store.player?_eq_some.2 ⟨record, hown, hread⟩
    obtain ⟨p, hp⟩ | hawaits := hst
    · obtain rfl : start = p := Option.some.inj (hstored.symm.trans hp.stored)
      exact hp
    · exact absurd (hawaits.missing.symm.trans hown) (by simp)
  | created place hplace stored id hid hnull =>
    obtain ⟨hfind, hinsert, -⟩ := hanswered
    have hnone : st.own? key = none := (Except.ok.inj hfind).symm
    obtain ⟨p, hp⟩ | hawaits := hst
    · obtain ⟨r, hr, -⟩ := Store.player?_eq_some.1 hp.stored
      exact absurd (hnone.symm.trans hr) (by simp)
    · let new := Player.atPosition key.username key.map place.1 place.2
      obtain rfl : stored = Store.identified new.toRecord st.nextId := Except.ok.inj hinsert
      obtain rfl : Value.int st.nextId = id :=
        Option.some.inj ((Store.get?_identified new st.nextId).symm.trans hid)
      obtain ⟨hids, hown⟩ := hawaits.insert_own hnone hawaits.unused (p := new) rfl rfl
      exact
        { hids with
          stored := Store.player?_eq_some.2 ⟨_, hown, Player.read_identified new st.nextId⟩
          found := by simp [Value.equals_int_int] }

/-- After a turn that went well, the player is stored as the turn has left the player. -/
theorem Delivered.player?_eq {h : History} {u : Turn} (hu : s.Delivered key.username key.map h u)
    (hanswered : h.AnsweredBy Store.backend st)
    (hst : (∃ p, st.Knows key p) ∨ st.Awaits key) :
    (h.replay Store.backend st).player? key = u.player := by
  obtain ⟨start, p, opening, rest, hp, rfl, hopens, hsaves, hchanges⟩ := hu.saved
  rw [History.answeredBy_append] at hanswered
  have hknows := hopens.knows hanswered.1 hst
  obtain ⟨r, hr, hread, hid, -⟩ := hknows.exists_own
  rw [History.replay_append, hp, Store.player?_eq_some]
  refine ⟨_, History.replay_own hsaves hknows.found hknows.toOwnIds hr hid, ?_⟩
  rw [Player.read_makeAll hread, hchanges]

/-- A store in memory all of whose rooms can be read answers with the rooms of its atlas. -/
theorem contractOf_answeredBy
    (hrooms : ∀ r ∈ st.records roomCollection, ∃ room, Room.read (.table r) = .valid room) :
    (contractOf st.atlas).AnsweredBy Store.backend
      fun st' => st'.records roomCollection = st.records roomCollection := by
  intro q st' hst' hasks
  cases q with
  | findPlayer username map => exact ⟨trivial, hst'⟩
  | insertPlayer record =>
    obtain ⟨p, rfl⟩ := hasks
    exact ⟨⟨_, _, rfl, Store.get?_identified p _, Value.noConfusion⟩,
      (Store.records_insert_of_ne (by decide) _ _).trans hst'⟩
  | updatePlayer id c =>
    exact ⟨trivial, (Store.records_answer_of_ne (by decide) (.updatePlayer id c) st').trans hst'⟩
  | findRoom x y map =>
    refine ⟨?_, hst'⟩
    show Script.roomFound x y map (.ok (st'.find? roomCollection _)) = _
    rw [Store.find?_congr hst', Store.atlas]
    cases hfind : st.find? roomCollection (Query.roomSelector x y map) with
    | none => rfl
    | some r =>
      obtain ⟨room, hroom⟩ := hrooms r (List.mem_of_find?_eq_some hfind)
      simp [Script.roomFound, hroom, Checked.toOption]

/-- The store after a turn of a player. -/
def storeAfter (s : Setting) (st : Store) (key : TurnKey) (line : String) : Store :=
  ((s.play (.start line key.username key.map)).run Store.backend st).2.2

variable (hs : s.Usable)
  (hrooms : ∀ r ∈ st.records roomCollection, ∃ room, Room.read (.table r) = .valid room)
include hs hrooms

/-- A turn in which nothing goes wrong stores its player as the player has come to fare. -/
theorem exists_player?_of_resume {line : String} (found : Option Player) {q : Player}
    (hst : (∃ p, st.Knows key p) ∨ st.Awaits key)
    (hfound : Script.playerFound key.username (.ok (st.own? key)) = .ok found)
    (hends : (s.resume (.start line key.username key.map) (.ok found)).Keeps (contractOf st.atlas)
      (fun _ => EndsLike q) []) :
    ∃ p, (s.storeAfter st key line).player? key = some p ∧ q.FaresLike p := by
  have hrun : (s.play (.start line key.username key.map)).run Store.backend st =
      (s.resume (.start line key.username key.map) (.ok found)).run Store.backend st := by
    rw [play_eq_ask, ← hfound]
    rfl
  obtain ⟨⟨-, herror, p, hp, hlike⟩, -⟩ := hends.of_run (contractOf_answeredBy hrooms) rfl
  obtain ⟨u, hu, hdelivered | hgivenUp⟩ :=
    hs.run_play Store.backend st line key.username key.map <;>
      rw [← hrun, hu] at herror hp
  · refine ⟨p, ?_, hlike⟩
    rw [storeAfter, ← Script.replay_history,
      hdelivered.player?_eq (Script.answeredBy_history _ _ _) hst, hp]
  · exact absurd herror hgivenUp.error

/-- After a reset the player that is stored has roamed from where players begin. -/
theorem play_reset {place : Int × Int} (hplace : s.origin.place = .ok place) {p : Player}
    (hp : st.Knows key p) {everything : Bool} {line : String}
    (hline : s.AsksReset everything line) :
    ∃ q, (s.storeAfter st key line).player? key = some q ∧
      (s.roam st.atlas maxRoomChain (p.resetTo place everything, true)).1.FaresLike q := by
  obtain ⟨r, hr, hread, -⟩ := hp.exists_own
  refine exists_player?_of_resume hs hrooms (some p) (.inl ⟨p, hp⟩) ?_
    (resume_reset hs hplace hline p)
  simp [Script.playerFound, hr, hread]

/-- A new player whose first line is not understood has roamed from where players begin. -/
theorem play_created {place : Int × Int} (hplace : s.origin.start = .ok place)
    (hawaits : st.Awaits key) {line : String} (hline : s.vocabulary.parse? line = none) :
    ∃ q, (s.storeAfter st key line).player? key = some q ∧
      (s.roam st.atlas (1 + maxRoomChain)
        (.atPosition key.username key.map place.1 place.2, true)).1.FaresLike q := by
  refine exists_player?_of_resume hs hrooms none (.inr hawaits) ?_
    (resume_created hs hplace hline)
  simp [Script.playerFound, hawaits.missing]

end Setting

namespace Game

/-- After a reset a player fares alike, whatever was before: the place, the status and the items that
are stored do not depend on those before the reset, save that a player keeps the items if not
everything is reset. If nothing moves players on for ever from where they begin, a new player whose
first line is not understood fares alike, too. -/
theorem reset_forgets {s : Setting} (hs : s.Usable) (map : String) (pace : Pace) {st : Store}
    (hrooms : ∀ r ∈ st.records roomCollection, ∃ room, Room.read (.table r) = .valid room)
    {key : TurnKey} {p : Player} (hp : st.Knows key p) {everything : Bool} {line : String}
    (hline : s.AsksReset everything line) :
    let stored (st : Store) (key : TurnKey) (line : String) : Option Player :=
      ((new s map st).play Store.backend pace
        (.start line key.username key.map)).2.store.player? key
    ∃ q, stored st key line = some q ∧
      (∀ (st' : Store) (p' : Player) (line' : String),
        st'.records roomCollection = st.records roomCollection → st'.Knows key p' →
          s.AsksReset everything line' → (everything = true ∨ p'.items = p.items) →
            ∃ q', stored st' key line' = some q' ∧ q.FaresLike q') ∧
      (∀ (st' : Store) (username line' : String) (place : Int × Int), everything = true →
        st'.records roomCollection = st.records roomCollection →
          st'.Awaits ⟨username, key.map⟩ → s.vocabulary.parse? line' = none →
            s.origin.start = .ok place →
              (s.roam st.atlas maxRoomChain
                (.atPosition username key.map place.1 place.2, true)).2 = false →
                ∃ q', stored st' ⟨username, key.map⟩ line' = some q' ∧ q.FaresLike q') := by
  intro stored
  have hstored : ∀ st key line, stored st key line = (s.storeAfter st key line).player? key := by
    intro st key line
    simp only [stored, play_new]
    rfl
  obtain ⟨x, y, horigin⟩ := hs.origin
  have hplace : s.origin.place = .ok (x, y) := by rw [horigin, Origin.place_pair]
  have hstart : s.origin.start = .ok (x, y) := by rw [horigin, Origin.start_pair]
  obtain ⟨-, -, -, -, hmap⟩ := hp.exists_own
  obtain ⟨q, hq, hlike⟩ := Setting.play_reset hs hrooms hplace hp hline
  refine ⟨q, (hstored _ _ _).trans hq, fun st' p' line' hsame hp' hline' hitems => ?_,
    fun st' username line' place heverything hsame hawaits hline' hbegin hsettled => ?_⟩
  · obtain ⟨-, -, -, -, hmap'⟩ := hp'.exists_own
    obtain ⟨q', hq', hlike'⟩ :=
      Setting.play_reset hs (by rwa [hsame]) hplace hp' hline'
    rw [Store.atlas_eq hsame] at hlike'
    have hreset : (p.resetTo (x, y) everything).FaresLike (p'.resetTo (x, y) everything) :=
      .resetTo (hmap'.trans hmap.symm) (x, y) hitems
    have hroam := (s.roam_faresLike st.atlas maxRoomChain hreset true).1
    exact ⟨q', (hstored _ _ _).trans hq', hlike.symm.trans (hroam.trans hlike')⟩
  · subst heverything
    obtain rfl : (x, y) = place := Except.ok.inj (hstart.symm.trans hbegin)
    obtain ⟨q', hq', hlike'⟩ :=
      Setting.play_created hs (by rwa [hsame]) hstart hawaits hline'
    -- the room that is entered before the line is acted upon makes no difference
    rw [Store.atlas_eq hsame, Nat.add_comm, s.roam_add_of_settled st.atlas 1 hsettled] at hlike'
    have hreset : (p.resetTo (x, y) true).FaresLike (.atPosition username key.map x y) := by
      simp [Player.FaresLike, Player.resetTo, Player.atPosition, hmap]
    have hroam := (s.roam_faresLike st.atlas maxRoomChain hreset true).1
    exact ⟨q', (hstored _ _ _).trans hq', hlike.symm.trans (hroam.trans hlike')⟩

/-- Ann has died far away with a lamp in her hand, or stands in the hall without one: after she has
reset everything, she is in the hall, as is Ben, who is new and understood nothing. -/
theorem reset_forgets_ann :
    let porch : Room := ⟨.null, 0, 0, "default", "porch", "A porch.",
      [⟨.command, "enter", none, [], [⟨[], "You go in.", some ⟨some (.delta 1 0), [], none⟩⟩]⟩]⟩
    let hall : Room := ⟨.null, 1, 0, "default", "hall", "A hall.", []⟩
    let ann (x : Int) (status : String) (items : List String) : Fields :=
      [(.text "_id", .int 7), (.text "username", .text "ann"), (.text "map", .text "default"),
        (.text "x", .int x), (.text "y", .int 0), (.text "status", .text status),
        (.text "items", .ofTexts items)]
    let store (ann : Fields) : Store := Store.ofCollections
      [(roomCollection, [porch.toRecord, hall.toRecord]), (playerCollection, [ann])]
    let s : Setting := ⟨Bundled.english, Bundled.englishMessages, [0, 0]⟩
    let stored (st : Store) (username line : String) : Option Player :=
      ((new s "default" st).play Store.backend .yielding
        (.start line username "default")).2.store.player? ⟨username, "default"⟩
    s.Usable ∧ s.AsksReset true "reset all" ∧ s.vocabulary.parse? "and" = none ∧
      ∃ q q' q'', stored (store (ann 5 "dead" ["lamp"])) "ann" "reset all" = some q ∧
        stored (store (ann 1 "alive" [])) "ann" "reset all" = some q' ∧
        stored (store (ann 1 "alive" [])) "ben" "and" = some q'' ∧
        q.FaresLike q' ∧ q.FaresLike q'' := by
  intro porch hall ann store s stored
  have hs : s.Usable := Setting.usable_english _ 0 0
  have hline : s.AsksReset true "reset all" := by decide +kernel
  have hread : s.vocabulary.parse? "and" = none := by decide +kernel
  have htags : ∀ x status items,
      (store (ann x status items)).tags = [(ann x status items).tag] := fun _ _ _ => rfl
  have hids : ∀ x status items, (store (ann x status items)).OwnIds := by
    intro x status items
    refine ⟨?_, ?_⟩ <;> rw [htags]
    · exact List.forall_mem_singleton.2 (Option.some_ne_none _)
    · exact List.pairwise_singleton _ _
  have hdead : (store (ann 5 "dead" ["lamp"])).Knows ⟨"ann", "default"⟩
      ⟨.int 7, "ann", "default", 5, 0, .dead, .ofList ["lamp"]⟩ :=
    { hids _ _ _ with stored := rfl, found := rfl }
  have halive : (store (ann 1 "alive" [])).Knows ⟨"ann", "default"⟩
      ⟨.int 7, "ann", "default", 1, 0, .alive, .empty⟩ :=
    { hids _ _ _ with stored := rfl, found := rfl }
  have hben : (store (ann 1 "alive" [])).Awaits ⟨"ben", "default"⟩ := by
    refine { hids _ _ _ with missing := rfl, unused := ?_ }
    rw [htags]
    refine List.forall_mem_singleton.2 ?_
    rw [Fields.Tag.sharesId_int_iff rfl]
    decide
  have hrooms : ∀ r ∈ (store (ann 5 "dead" ["lamp"])).records roomCollection,
      ∃ room, Room.read (.table r) = .valid room := by
    have hrecords : (store (ann 5 "dead" ["lamp"])).records roomCollection =
        [Store.identified porch.toRecord 1, Store.identified hall.toRecord 2] := rfl
    rw [hrecords]
    refine List.forall_mem_cons.2 ⟨⟨_, rfl⟩, List.forall_mem_singleton.2 ⟨_, rfl⟩⟩
  obtain ⟨q, hq, hforget, hnew⟩ := reset_forgets hs "default" .yielding hrooms hdead hline
  obtain ⟨q', hq', hlike'⟩ :=
    hforget (store (ann 1 "alive" [])) _ "reset all" rfl halive hline (.inl rfl)
  obtain ⟨q'', hq'', hlike''⟩ :=
    hnew (store (ann 1 "alive" [])) "ben" "and" (0, 0) rfl rfl hben hread rfl (by decide +kernel)
  exact ⟨hs, hline, hread, q, q', q'', hq, hq', hq'', hlike', hlike''⟩

/-- The pit kills whoever falls into it, and Cat is dead after a reset. Ben, who is new, is given the
identity that Cat's record came with: his death is saved in her record, and his own one tells that he
lives. -/
theorem created_with_strange_identity :
    let pit : Room := ⟨.null, 0, 0, "default", "pit", "A pit.",
      [⟨.command, "enter", none, [], [⟨[], "You fall.", some ⟨none, [], some .dead⟩⟩]⟩]⟩
    let cat : Fields := [(.text "_id", .int 3), (.text "username", .text "cat"),
      (.text "map", .text "default"), (.text "x", .int 5), (.text "y", .int 5),
      (.text "status", .text "alive"), (.text "items", .list [])]
    let st := Store.ofCollections [(roomCollection, [pit.toRecord]), (playerCollection, [cat])]
    let s : Setting := ⟨Bundled.english, Bundled.englishMessages, [0, 0]⟩
    let stored (username line : String) : Option Player :=
      ((new s "default" st).play Store.backend .yielding
        (.start line username "default")).2.store.player? ⟨username, "default"⟩
    st.OwnIds ∧ st.own? ⟨"ben", "default"⟩ = none ∧ s.AsksReset true "reset all" ∧
      s.vocabulary.parse? "and" = none ∧
      (s.roam st.atlas maxRoomChain (.atPosition "ben" "default" 0 0, true)).2 = false ∧
      (stored "cat" "reset all").map (·.status) = some .dead ∧
      (stored "ben" "and").map (·.status) = some .alive := by
  intro pit cat st s stored
  have htags : st.tags = [cat.tag] := rfl
  refine ⟨⟨?_, ?_⟩, by decide +kernel, by decide +kernel, by decide +kernel, by decide +kernel,
    by decide +kernel, by decide +kernel⟩ <;> rw [htags]
  · simp [cat, Fields.tag, Fields.get?, Fields.lookup?]
  · exact List.pairwise_singleton _ _

end Game

end TextAdventure
