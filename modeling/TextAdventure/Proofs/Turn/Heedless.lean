import TextAdventure.Proofs.Store.Fickle
import TextAdventure.Proofs.Turn.Lifetime

/-!
# Turns do not heed what becomes of a save

Whatever is answered to an update, a turn goes on as it would have otherwise, after a note for the log
if nothing was saved (`Script.Heedless`). So two runs over stores that differ in nothing but what comes
of their updates have the same result and take the same notes, apart from those complaints
(`Script.Heedless.run_eq`), and each leaves the record of the player with what was saved in it
(`Setting.saves_go_unheeded`).
-/

namespace TextAdventure

/-- A note for the log that something was not saved. -/
def Note.isComplaint : Note → Bool
  | .log (.updateFailed ..) | .log (.updateMissed ..) => true
  | _ => false

/-- Notes without the complaints. -/
def Note.withoutComplaints (ns : List Note) : List Note := ns.filter (!·.isComplaint)

@[simp] theorem Note.withoutComplaints_append (ms ns : List Note) :
    withoutComplaints (ms ++ ns) = withoutComplaints ms ++ withoutComplaints ns :=
  List.filter_append ms ns

/-- What is noted about an update are complaints. -/
@[simp] theorem Note.withoutComplaints_saveNotes (p : Player) (c : Change)
    (answer : Except StorageError Bool) : withoutComplaints (Script.saveNotes p c answer) = [] := by
  match answer with
  | .error e => rfl
  | .ok false => rfl
  | .ok true => rfl

namespace Script

variable {α β : Type}

/-- A script that has got its player, and goes on in the same way whatever is answered to an update. -/
inductive Heedless : Script α → Prop
  | done (a : α) : Heedless (.done a)
  | note (ns : List Note) {x : Script α} (h : Heedless x) : Heedless (.note ns x)
  | findRoom {x y : Int} {map : String} {k : Except StorageError (Option Fields) → Script α}
    (h : ∀ answer, Heedless (k answer)) : Heedless (.ask (.findRoom x y map) k)
  | insert {record : Fields} {k : Except StorageError Fields → Script α}
    (h : ∀ answer, Heedless (k answer)) : Heedless (.ask (.insertPlayer record) k)
  | save (p : Player) (c : Change) {x : Script α} (h : Heedless x) :
    Heedless (.ask (.updatePlayer p.id c) fun answer => .note (saveNotes p c answer) x)

namespace Heedless

theorem bind {x : Script α} {f : α → Script β} (h : x.Heedless) (hf : ∀ a, (f a).Heedless) :
    (x.bind f).Heedless := by
  induction h with
  | done a => exact hf a
  | note ns _ ih => exact .note ns ih
  | findRoom _ ih => exact .findRoom ih
  | insert _ ih => exact .insert ih
  | save p c _ ih => exact .save p c ih

theorem andThen {r : Run} {next : Turn → Run} (hr : r.Heedless) (hnext : ∀ t, (next t).Heedless) :
    (r.andThen next).Heedless := by
  refine hr.bind ?_
  rintro ⟨t, _ | halt⟩
  · exact hnext t
  · exact .done _

/-- Two runs over stores that answer alike but for what was saved come to the same, and take the same
notes but for the complaints. -/
theorem run_eq {x : Script α} (h : x.Heedless) {f f' : Fickle} (hff : f.AnswersLike f') :
    (x.run Fickle.backend f').1 = (x.run Fickle.backend f).1 ∧
      Note.withoutComplaints (x.run Fickle.backend f').2.1 =
        Note.withoutComplaints (x.run Fickle.backend f).2.1 := by
  induction h generalizing f f' with
  | done a => exact ⟨rfl, rfl⟩
  | note ns _ ih =>
    obtain ⟨hresult, hnotes⟩ := ih hff
    refine ⟨hresult, ?_⟩
    simp only [run, Note.withoutComplaints_append, hnotes]
  | @findRoom x y map _ _ ih =>
    obtain ⟨hanswer, hff'⟩ := hff.findRoom x y map
    simp only [run, hanswer]
    exact ih _ hff'
  | @insert record _ _ ih =>
    obtain ⟨hanswer, hff'⟩ := hff.insertPlayer record
    simp only [run, hanswer]
    exact ih _ hff'
  | save p c _ ih =>
    -- whatever was answered, the stores still answer alike, and the same script goes on
    have hff' : (f.update p.id c).2.AnswersLike (f'.update p.id c).2 :=
      (Fickle.AnswersLike.update f p.id c).symm.trans
        (hff.trans (Fickle.AnswersLike.update f' p.id c))
    obtain ⟨hresult, hnotes⟩ := ih hff'
    refine ⟨hresult, ?_⟩
    simp only [run, Note.withoutComplaints_append, Note.withoutComplaints_saveNotes,
      List.nil_append]
    exact hnotes

end Heedless

end Script

namespace History

/-- The store after a history is settled by the queries. -/
theorem replay_eq_foldl {σ : Type} (b : Backend σ) (h : History) (st : σ) :
    h.replay b st = h.queries.foldl (fun st q => (b.answer q st).2) st := by
  induction h generalizing st with
  | nil => rfl
  | cons e h ih => cases e <;> exact ih _

theorem saved_eq_nil {h : History} (hnone : ∀ q ∈ h.queries, ∀ id c, q ≠ .updatePlayer id c) :
    h.saved = [] := by
  refine List.filterMap_eq_nil_iff.2 fun e he => ?_
  cases e with
  | noted n => rfl
  | asked q answer =>
    cases q with
    | updatePlayer id c => exact absurd rfl (hnone _ (List.mem_filterMap.2 ⟨_, he, rfl⟩) id c)
    | _ => rfl

end History

/-- The record that a turn works with: that of the player, or the one that a new player gets. -/
def Store.recordFor (s : Store) (key : TurnKey) (place : Int × Int) : Fields :=
  (s.own? key).getD
    (identified (Player.atPosition key.username key.map place.1 place.2).toRecord s.nextId)

namespace Setting

variable (s : Setting)

/-! ### The parts of a turn -/

theorem pass_heedless (step : Turn × Option Crash) : (Run.pass step).Heedless := .note _ (.done _)

theorem meet_heedless (t : Turn) (found : Except StorageError (Option Player)) :
    (s.meet t found).Heedless := by
  unfold meet
  split
  · exact .done _
  · exact .done _
  · split
    · exact .done _
    · refine .bind (.insert fun answer => ?_) fun created => ?_
      · split
        · exact .done _
        · exact .note _ (.done _)
      · split <;> exact .done _

theorem enter_heedless (t : Turn) : (s.enter t).Heedless := by
  unfold enter
  split
  · exact .done _
  · refine .bind (.findRoom fun answer => .done _) fun found => ?_
    split
    · exact .done _
    · exact pass_heedless _

theorem persist_heedless (t : Turn) : (persist t).Heedless := by
  unfold persist
  split
  · exact .done _
  · next p _ =>
    refine .bind ?_ fun u => ?_
    · unfold persistItems
      split
      · exact .save p _ (.done _)
      · exact .done _
    · unfold persistPosition
      split
      · exact .save p _ (.done _)
      · exact .done _

theorem announce_heedless (n : Nat) (t : Turn) : (s.announce n t).Heedless := by
  induction n generalizing t with
  | zero =>
    unfold announce
    split
    · exact pass_heedless _
    · exact .done _
  | succ n ih =>
    unfold announce
    split
    · exact (s.enter_heedless t).andThen fun t => (persist_heedless t).bind ih
    · exact .done _

theorem goOn_heedless (t : Turn) : (s.goOn t).Heedless :=
  (s.enter_heedless t).andThen fun t =>
    (pass_heedless (s.dispatch t)).andThen fun t =>
      (persist_heedless t).bind (s.announce_heedless maxRoomChain)

theorem finish_heedless (t : Turn) : (s.finish t).Heedless := by
  unfold finish
  split
  · exact pass_heedless _
  · refine .andThen ?_ fun t => pass_heedless _
    unfold announceStatus
    split
    · exact .done _
    · split
      · exact (pass_heedless _).andThen fun t => .done _
      · exact (pass_heedless _).andThen fun t => .note _ (.save _ _ (.done _))

/-- A turn that has looked up its player does not heed what becomes of a save. -/
theorem resume_heedless (t : Turn) (found : Except StorageError (Option Player)) :
    (s.resume t found).Heedless := by
  rw [resume_eq]
  refine ((s.meet_heedless t found).andThen s.goOn_heedless).bind ?_
  rintro ⟨t, _ | e | c⟩
  · exact s.finish_heedless t
  · show (s.finish { t with error := some e }).Heedless
    exact s.finish_heedless _
  · exact .done _

/-! ### The whole turn -/

/-- Two runs of a turn over the same store, whatever comes of their updates. -/
theorem play_run_eq (line username map : String) (u : Unreliable) (saves saves' : List SaveOutcome) :
    let run saves := (s.play (.start line username map)).run Fickle.backend ⟨u, saves⟩
    (run saves').1 = (run saves).1 ∧
      Note.withoutComplaints (run saves').2.1 = Note.withoutComplaints (run saves).2.1 := by
  intro run
  let found := (Unreliable.answer (.findPlayer username map) u).1
  let rest := (Unreliable.answer (.findPlayer username map) u).2
  have hrun : ∀ saves, run saves =
      (s.resume (.start line username map) (Script.playerFound username found)).run Fickle.backend
        ⟨rest, saves⟩ := by
    intro saves
    simp only [run]
    rw [play_eq_ask]
    rfl
  rw [hrun, hrun]
  exact (s.resume_heedless _ _).run_eq ⟨rfl, rfl, rfl⟩

section Record

variable {s} {key : TurnKey} {f : Fickle} {place : Int × Int}

theorem Opens.saved_eq {username map : String} {opening : History} {start : Player}
    (h : s.Opens username map opening start) : opening.saved = [] := by
  cases h <;> rfl

/-- A turn that has got its player works with the record for it. -/
theorem Opens.own_fickle {opening : History} {start : Player} (hplace : s.origin.start = .ok place)
    (h : s.Opens key.username key.map opening start)
    (hanswered : opening.AnsweredBy Fickle.backend f) (hids : f.memory.OwnIds)
    (hunused : f.memory.own? key = none →
      ∀ l ∈ f.memory.tags, ¬l.SharesId ⟨some (.int f.memory.nextId), none, none⟩) :
    (opening.replay Fickle.backend f).memory.OwnIds ∧
      (opening.replay Fickle.backend f).memory.own? key = some (f.memory.recordFor key place) ∧
      (f.memory.recordFor key place).get? "_id" = some start.id := by
  cases h with
  | found record p hread =>
    have hown : f.memory.own? key = some record := (f.eq_of_findPlayer hanswered.1).symm
    have hmemory := f.memory_findPlayer key.username key.map
    show (Fickle.backend.answer (.findPlayer key.username key.map) f).2.memory.OwnIds ∧ _
    rw [Store.recordFor, hown, Option.getD_some]
    exact ⟨by rwa [hmemory], (congrArg (·.own? key) hmemory).trans hown, hids.get?_id hown hread⟩
  | created place' hplace' stored id hid hnull =>
    obtain rfl : place = place' := Except.ok.inj (hplace.symm.trans hplace')
    obtain ⟨hfind, hinsert, -⟩ := hanswered
    have hnone : f.memory.own? key = none := (f.eq_of_findPlayer hfind).symm
    have hmemory := f.memory_findPlayer key.username key.map
    let new := Player.atPosition key.username key.map place.1 place.2
    obtain ⟨hinserted, rfl⟩ := Fickle.eq_of_insertPlayer (r := new.toRecord) rfl
      (by simp [hid]) hinsert
    rw [hmemory] at hinserted hid
    obtain ⟨hids', hown⟩ := hids.insert_own hnone (hunused hnone) (p := new) rfl rfl
    rw [← hinserted] at hids' hown
    rw [Store.recordFor, hnone, Option.getD_none]
    exact ⟨hids', hown, hid⟩

/-- A turn leaves the record for its player changed by what was saved, or it has saved nothing and
stored nobody. -/
theorem Proceeds.own_fickle {h : History} (hplace : s.origin.start = .ok place)
    (hproceeds : s.Proceeds key.username key.map h) (hanswered : h.AnsweredBy Fickle.backend f)
    (hids : f.memory.OwnIds)
    (hunused : f.memory.own? key = none →
      ∀ l ∈ f.memory.tags, ¬l.SharesId ⟨some (.int f.memory.nextId), none, none⟩) :
    (h.replay Fickle.backend f).memory.own? key = f.memory.own? key ∧ h.saved = [] ∨
      ∃ r, (h.replay Fickle.backend f).memory.own? key = some r ∧
        (f.memory.recordFor key place).ChangedBy h.saved r := by
  generalize hafter : (h.replay Fickle.backend f).memory = after
  have hroute : ∀ {opening rest : History} {start : Player} (route : Route), h = opening ++ rest →
      s.Opens key.username key.map opening start → rest.queries <+: route.queries start →
        ∃ r, after.own? key = some r ∧ (f.memory.recordFor key place).ChangedBy h.saved r := by
    rintro opening rest start route rfl hopens hqueries
    rw [History.answeredBy_append] at hanswered
    have hsaves : rest.Saves start.id := fun q answer hm =>
      route.mem_queries (hqueries.subset (List.mem_filterMap.2 ⟨_, hm, rfl⟩))
    obtain ⟨hids', hown, hid⟩ := hopens.own_fickle hplace hanswered.1 hids hunused
    have hown' := History.replay_fickle hsaves hanswered.2 hids' hown hid
    rw [← History.replay_append, hafter] at hown'
    refine ⟨_, hown', ?_⟩
    rw [History.saved_append, hopens.saved_eq, List.nil_append]
    exact Change.makeAll_changedBy _ _
  cases hproceeds with
  | whole heq hopens route hqueries _ =>
    exact .inr (hroute route heq hopens (hqueries ▸ List.prefix_rfl))
  | aborted heq hopens route hqueries _ => exact .inr (hroute route heq hopens hqueries)
  | unknown hqueries _ =>
    rw [History.replay_eq_foldl, hqueries] at hafter
    have hsame : after = f.memory := hafter.symm.trans (f.memory_findPlayer key.username key.map)
    exact .inl ⟨by rw [hsame], History.saved_eq_nil (by simp [hqueries])⟩
  | unstored hplace' heq hqueries _ =>
    obtain rfl := Except.ok.inj (hplace.symm.trans hplace')
    have hall : h.queries = [.findPlayer key.username key.map,
        .insertPlayer (Player.atPosition key.username key.map place.1 place.2).toRecord] := by
      rw [heq, History.queries_asked_cons, hqueries]
    have hsaved : h.saved = [] := History.saved_eq_nil (by simp [hall])
    have hnone : f.memory.own? key = none := by
      rw [heq] at hanswered
      exact (f.eq_of_findPlayer hanswered.1).symm
    -- the insertion may have been done although it is reported otherwise
    let looked := (Fickle.backend.answer (.findPlayer key.username key.map) f).2
    let new := Player.atPosition key.username key.map place.1 place.2
    rw [History.replay_eq_foldl, hall] at hafter
    have hinserted : after =
        (Fickle.backend.answer (.insertPlayer new.toRecord) looked).2.memory := hafter.symm
    have hlooked : looked.memory = f.memory := f.memory_findPlayer key.username key.map
    obtain hsame | hdone := looked.memory_insertPlayer new.toRecord
    · exact .inl ⟨by rw [hinserted, hsame, hlooked], hsaved⟩
    · obtain ⟨-, hown⟩ := hids.insert_own hnone (hunused hnone) (p := new) rfl rfl
      refine .inr ⟨_, by rw [hinserted, hdone, hlooked, hown], ?_⟩
      rw [hsaved, Store.recordFor, hnone, Option.getD_none]
      exact Change.makeAll_changedBy [] _

end Record

/-- Two runs of a turn over the same store, in which the updates may come to anything and all other
calls to the same: the turns end in the same state, with the same replies, and hand out and enter the
same. Afterwards the record of the player is what it was before, or what the new player got, changed by
what was saved and by nothing else, if the players have identities of their own and a new player is
not given one of them. -/
theorem saves_go_unheeded (vocabulary : Vocabulary) (messages : Value) (x y : Int)
    (beyond : List Int) (line : String) (key : TurnKey) (u : Unreliable)
    (saves saves' : List SaveOutcome) :
    let play := play ⟨vocabulary, messages, x :: y :: beyond⟩ (.start line key.username key.map)
    let run (saves : List SaveOutcome) := play.run Fickle.backend ⟨u, saves⟩
    let saved := (play.history Fickle.backend ⟨u, saves⟩).saved
    let after := (run saves).2.2.memory
    (run saves').1 = (run saves).1 ∧
      Note.withoutComplaints (run saves').2.1 = Note.withoutComplaints (run saves).2.1 ∧
      (u.memory.OwnIds →
        (u.memory.own? key = none →
          ∀ l ∈ u.memory.tags, ¬l.SharesId ⟨some (.int u.memory.nextId), none, none⟩) →
          (after.own? key = u.memory.own? key ∧ saved = [] ∨
            ∃ r, after.own? key = some r ∧ (u.memory.recordFor key (x, y)).ChangedBy saved r)) := by
  intro play run saved after
  obtain ⟨hresult, hnotes⟩ := play_run_eq ⟨vocabulary, messages, x :: y :: beyond⟩ line key.username
    key.map u saves saves'
  refine ⟨hresult, hnotes, fun hids hunused => ?_⟩
  have hplace : Origin.start (x :: y :: beyond) = .ok (x, y) := rfl
  have hproceeds := (proceeds_of_place (s := ⟨vocabulary, messages, x :: y :: beyond⟩) hplace line
    key.username key.map).of_run Fickle.backend ⟨u, saves⟩
  rw [List.nil_append] at hproceeds
  have hrecord := hproceeds.own_fickle hplace
    (Script.answeredBy_history Fickle.backend play ⟨u, saves⟩) hids hunused
  rwa [Script.replay_history] at hrecord

/-- Ann takes the lamp and leaps to her death. Of the three updates only the second one is saved: she
is told what she would have been told anyway, and her record tells of the leap alone. -/
theorem saves_go_unheeded_ann :
    let cliff : Room := ⟨.null, 0, 0, "default", "cliff", "A cliff.",
      [⟨.command, "leap", none, [], [⟨[], "You leap.",
        some ⟨some (.delta 1 0), ["lamp"], some .dead⟩⟩]⟩]⟩
    let ann : Fields := [(.text "_id", .int 7), (.text "username", .text "ann"),
      (.text "map", .text "default")]
    let store := Store.ofCollections [(roomCollection, [cliff.toRecord]), (playerCollection, [ann])]
    let key : TurnKey := ⟨"ann", "default"⟩
    let play := play ⟨Bundled.english, Bundled.englishMessages, [0, 0]⟩
      (.start "leap" key.username key.map)
    let run (saves : List SaveOutcome) := play.run Fickle.backend ⟨⟨store, []⟩, saves⟩
    (run [.works, .works, .works]).1 = (run [.fails "disk full", .works, .misses]).1 ∧
      ∃ r, (run [.fails "disk full", .works, .misses]).2.2.memory.own? key = some r ∧
        ann.ChangedBy [.position 1 0] r := by
  intro cliff ann store key play run
  have htags : store.tags = [ann.tag] := rfl
  have hids : store.OwnIds := by
    refine ⟨?_, ?_⟩ <;> rw [htags]
    · exact List.forall_mem_singleton.2 (Option.some_ne_none _)
    · exact List.pairwise_singleton _ _
  have hown : store.own? key = some ann := rfl
  obtain ⟨hresult, -, hrecord⟩ := saves_go_unheeded Bundled.english Bundled.englishMessages 0 0 []
    "leap" key ⟨store, []⟩ [.fails "disk full", .works, .misses] [.works, .works, .works]
  replace hrecord := hrecord hids (by simp [hown])
  have hsaved : (play.history Fickle.backend
      ⟨⟨store, []⟩, [.fails "disk full", .works, .misses]⟩).saved = [.position 1 0] := by
    decide +kernel
  rw [hsaved] at hrecord
  -- what follows holds of any store, and it is not computed any more
  clear_value store
  obtain ⟨-, hnothing⟩ | ⟨r, hr, hchanged⟩ := hrecord
  · exact absurd hnothing (List.cons_ne_nil _ _)
  · rw [Store.recordFor, hown, Option.getD_some] at hchanged
    exact ⟨hresult, r, hr, hchanged⟩

/-- Ben is new and is given the identity that Ann's record came with. The lamp that he is handed is
saved, but not in his record. -/
theorem saved_with_strange_identity :
    let shed : Room := ⟨.null, 0, 0, "default", "shed", "A shed.",
      [⟨.command, "enter", none, [], [⟨[], "You find a lamp.", some ⟨none, ["lamp"], none⟩⟩]⟩]⟩
    let ann : Fields := [(.text "_id", .int 3), (.text "username", .text "ann"),
      (.text "map", .text "default"), (.text "x", .int 5), (.text "y", .int 5),
      (.text "status", .text "alive"), (.text "items", .list [])]
    let store := Store.ofCollections [(roomCollection, [shed.toRecord]), (playerCollection, [ann])]
    let play := play ⟨Bundled.english, Bundled.englishMessages, [0, 0]⟩
      (.start "look" "ben" "default")
    store.OwnIds ∧
      (play.history Fickle.backend ⟨⟨store, []⟩, []⟩).saved = [.items (.ofList ["lamp"])] ∧
      ((play.run Fickle.backend ⟨⟨store, []⟩, []⟩).2.2.memory.own? ⟨"ben", "default"⟩).bind
        (·.get? "items") = some (.ofTexts []) := by
  intro shed ann store play
  have htags : store.tags = [ann.tag] := rfl
  refine ⟨⟨?_, ?_⟩, by decide +kernel, by decide +kernel⟩ <;> rw [htags]
  · exact List.forall_mem_singleton.2 (Option.some_ne_none _)
  · exact List.pairwise_singleton _ _

end Setting

end TextAdventure
