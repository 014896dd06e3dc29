import TextAdventure.Language.Bundled
import TextAdventure.Proofs.Game.Collection

/-!
# Players who play no more stay as they are

The record of a player who is dead or has won is left alone by every step of every turn, over a
store whose calls may go wrong in any way, until the player is reset; a turn of that player that is
no reset only looks up the room and reminds the player (`Game.finished_until_reset`).

This rests on the identities. A store counts its records and gives a new one the next number,
whatever identities came with the others. If a new player is given the identity of another one, the
changes of the one reach the record of the other (`Game.finished_changed_by_stranger`), which is why
`Store.Keyed` asks for identities that are not to come again.
-/

namespace TextAdventure

namespace Setting

variable {s : Setting} {key : TurnKey} {line : String} {status : Status} {u : Unreliable}

/-- A turn of a player only reminds: once this store has looked up the player, nothing is asked but
rooms. If no look-up goes wrong and no message is missing, the reminder is all that the player is
told, after a refusal if the line asks to reset something else. -/
def OnlyReminds (s : Setting) (key : TurnKey) (line : String) (status : Status) (u : Unreliable) :
    Prop :=
  (s.play (.start line key.username key.map)).Always
    (fun h x => ∃ answer, ∃ rest : History,
      h = .asked (.findPlayer key.username key.map) answer :: rest ∧
        (answer = (Unreliable.backend.answer (.findPlayer key.username key.map) u).1 →
          rest.OnlyLooks ∧
            (¬h.Fails → (∀ k ∈ s.finishedKeys line status, ∃ m, s.messages.entry k = .ok m) →
              s.Tells (s.finishedKeys line status) x)))
    []

/-- What becomes of the turn of a player who plays no more, whatever the look-up brings. -/
theorem resume_found {r : Fields} (hstatus : r.status? = .valid status) (hover : status ≠ .alive)
    (hline : ¬s.Resets line) {answer : Except StorageError (Option Fields)}
    (hanswer : answer = .ok (some r) ∨ ∃ e, answer = .error e) :
    (s.resume (.start line key.username key.map)
        (Script.playerFound key.username answer)).Always
      (fun h x => h.OnlyLooks ∧
        (¬Query.Fails (.findPlayer key.username key.map) answer → ¬h.Fails →
          (∀ k ∈ s.finishedKeys line status, ∃ m, s.messages.entry k = .ok m) →
            s.Tells (s.finishedKeys line status) x)) [] := by
  rcases hanswer with rfl | ⟨e, rfl⟩
  · cases hread : Player.read (.table r) with
    | invalid problems =>
      have hfails : Query.Fails (.findPlayer key.username key.map) (.ok (some r)) := by
        simp [Query.Fails, hread]
      simp only [Script.playerFound, hread]
      exact (resume_error _ _).imp fun h x hlooks => ⟨hlooks, fun hsound => absurd hfails hsound⟩
    | valid p =>
      have hp : p.status = status := by
        rw [Fields.status?_of_read hread] at hstatus
        exact Checked.valid.inj hstatus
      subst hp
      have hfinished : p.isFinished = true := by simpa [Player.isFinished] using hover
      simp only [Script.playerFound, hread]
      exact (resume_finished hfinished hline key.username key.map).imp fun h x hx =>
        ⟨hx.1, fun _ => hx.2⟩
  · have hfails : Query.Fails (.findPlayer key.username key.map) (.error e) := trivial
    exact (resume_error _ _).imp fun h x hlooks => ⟨hlooks, fun hsound => absurd hfails hsound⟩

/-- A turn of a player whose record tells that the player plays no more only reminds. -/
theorem onlyReminds {r : Fields} (hr : u.memory.own? key = some r)
    (hstatus : r.status? = .valid status) (hover : status ≠ .alive) (hline : ¬s.Resets line) :
    s.OnlyReminds key line status u := by
  unfold OnlyReminds
  rw [play_eq_ask]
  intro answer
  refine Script.Always.after ?_
  -- other answers than that of the store are of no concern
  by_cases hanswer : answer = (Unreliable.backend.answer (.findPlayer key.username key.map) u).1
  · have hfound : answer = .ok (some r) ∨ ∃ e, answer = .error e := by
      rw [hanswer, ← hr]
      exact u.answer_findPlayer key.username key.map
    refine (resume_found hstatus hover hline hfound).imp fun h x hx =>
      ⟨answer, h, rfl, fun _ => ⟨hx.1, fun hsound => ?_⟩⟩
    simp only [History.fails_asked_cons, List.nil_append, List.singleton_append, not_or] at hsound
    exact hx.2 hsound.1 hsound.2
  · exact Script.Always.of_forall
      (fun h x => ⟨answer, h, rfl, fun h => absurd h hanswer⟩) _ _

end Setting

namespace Game

/-- Turns are submitted to a game over a store whose players are told apart, and any calls to the
store go wrong in any way. Whenever the record of a player tells that the player is dead or has won,
no step changes the record but one of a reset of that player, and every other turn of the player
only reminds. -/
theorem finished_until_reset (vocabulary : Vocabulary) (messages : Value) (x y : Int)
    (beyond : List Int) (map : String) {store : Store} (hstore : store.Keyed)
    (outcomes : List Outcome) (requests : List (String × String × Option String)) (pace : Pace)
    (schedule : List Nat) :
    let g := Game.new ⟨vocabulary, messages, x :: y :: beyond⟩ map
      (⟨store, outcomes⟩ : Unreliable)
    let turns := requests.map fun r => g.turn r.1 r.2.1 r.2.2
    let a := (g.submit turns).follow Unreliable.backend pace schedule
    ∀ (key : TurnKey) (r : Fields) (status : Status), a.store.memory.own? key = some r →
      r.status? = .valid status → status ≠ .alive →
        (∀ i, (a.step Unreliable.backend pace i).store.memory.own? key = some r ∨
          ∃ t, turns[i]? = some t ∧ t.key = key ∧ g.setting.Resets t.line) ∧
        ∀ line, ¬g.setting.Resets line → g.setting.OnlyReminds key line status a.store := by
  intro g turns a key r status hr hstatus hover
  have hg : g.IsIdle := rfl
  have hturns := g.requests_start requests
  refine ⟨fun i => ?_, fun line hline => Setting.onlyReminds hr hstatus hover hline⟩
  have hplace : g.setting.origin.start = .ok (x, y) := rfl
  let c := g.setting.tending hplace
  obtain hsame | ⟨t, ht, htends⟩ := (c.follow hg hstore hturns pace schedule).2 i
  · exact .inl (by rw [hsame, hr])
  · -- a step of another player's turn leaves the record alone, and so does one that is no reset
    by_cases hkey : t.key = key
    · subst hkey
      by_cases hline : g.setting.Resets t.line
      · exact .inr ⟨t, ht, rfl, hline⟩
      · exact .inl (htends.kept hline r status hr hstatus hover)
    · exact .inl ((htends.others key (Ne.symm hkey)).trans hr)

/-- Ann is dead, looks around and is no other than before, whoever does what next. -/
theorem finished_until_reset_ann :
    let ann : Fields := [(.text "username", .text "ann"), (.text "map", .text "default"),
      (.text "status", .text "dead"), (.text "_id", .int 1)]
    let store := Store.ofCollections [(playerCollection, [ann])]
    let g := Game.new ⟨Bundled.english, Bundled.englishMessages, [0, 0]⟩ "default"
      (⟨store, []⟩ : Unreliable)
    let a := (g.submit [g.turn "look" "ann" none]).follow Unreliable.backend .yielding []
    store.Keyed ∧ a.store.memory.own? ⟨"ann", "default"⟩ = some ann ∧
      ann.status? = .valid .dead ∧ ¬g.setting.Resets "look" ∧
      (∀ i, (a.step Unreliable.backend .yielding i).store.memory.own? ⟨"ann", "default"⟩ =
        some ann) ∧
      g.setting.OnlyReminds ⟨"ann", "default"⟩ "look" .dead a.store := by
  intro ann store g a
  have htags : store.tags = [ann.tag] := rfl
  have hstore : store.Keyed := by
    refine ⟨?_, ?_, ?_, ?_⟩ <;> rw [htags]
    · simp [ann, Fields.tag, Fields.get?, Fields.lookup?]
    · exact List.pairwise_singleton _ _
    · exact List.pairwise_singleton _ _
    · rintro l hl n hn ⟨id, id', hid, hid', hequals⟩
      obtain rfl := List.mem_singleton.1 hl
      obtain rfl : Value.int 1 = id := Option.some.inj hid
      obtain rfl := Option.some.inj hid'
      have hnext : store.nextId = 2 := rfl
      simp only [Value.equals_int_int, decide_eq_true_eq] at hequals
      omega
  have hline : ¬g.setting.Resets "look" := by decide
  obtain ⟨hsteps, hreminds⟩ := finished_until_reset Bundled.english Bundled.englishMessages 0 0 []
    "default" hstore [] [("look", "ann", none)] .yielding [] ⟨"ann", "default"⟩ ann .dead rfl rfl
    (by decide)
  refine ⟨hstore, rfl, rfl, hline, fun i => (hsteps i).resolve_right ?_, hreminds "look" hline⟩
  rintro ⟨t, ht, -, hreset⟩
  obtain rfl := List.mem_singleton.1 (List.mem_of_getElem? ht)
  exact hline hreset

/-- Ann has won, under the identity that the store gives to its third record. That record is Ben's,
and when he falls into the pit, it is Ann who is dead. -/
theorem finished_changed_by_stranger :
    let pit : Room := ⟨.null, 0, 0, "default", "pit", "A pit.",
      [⟨.command, "enter", none, [], [⟨[], "You fall.", some ⟨none, [], some .dead⟩⟩]⟩]⟩
    let ann : Fields := [(.text "_id", .int 3), (.text "username", .text "ann"),
      (.text "map", .text "default"), (.text "x", .int 5), (.text "y", .int 5),
      (.text "status", .text "win"), (.text "items", .list [])]
    let store := Store.ofCollections
      [(roomCollection, [pit.toRecord]), (playerCollection, [ann])]
    let g := Game.new ⟨Bundled.english, Bundled.englishMessages, [0, 0]⟩ "default" store
    let store' := (g.play Store.backend .yielding (g.turn "look" "ben" none)).2.store
    (∀ l ∈ store.tags, l.id ≠ none) ∧ (store.tags.Pairwise fun l m => ¬l.SharesId m) ∧
      (store.tags.Pairwise fun l m => ∀ key, ¬(l.IsOf key ∧ m.IsOf key)) ∧
      ¬g.setting.Resets "look" ∧
      (store.own? ⟨"ann", "default"⟩).bind (·.get? "status") = some (.text "win") ∧
      (store'.own? ⟨"ann", "default"⟩).bind (·.get? "status") = some (.text "dead") := by
  intro pit ann store g store'
  have htags : store.tags = [ann.tag] := rfl
  refine ⟨?_, ?_, ?_, by decide, by decide, by decide +kernel⟩ <;> rw [htags]
  · simp [ann, Fields.tag, Fields.get?, Fields.lookup?]
  · exact List.pairwise_singleton _ _
  · exact List.pairwise_singleton _ _

end Game

end TextAdventure
