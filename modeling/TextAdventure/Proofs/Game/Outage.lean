import TextAdventure.Proofs.Game.Alone
import TextAdventure.Proofs.Store.Collection
import TextAdventure.Proofs.Store.Unreliable
import TextAdventure.Proofs.Turn.Lifetime
import TextAdventure.Proofs.Turn.Place

/-!
# Turns after an outage

That a player has come to a room and is still to enter it is known to the turn alone, while the place
of the player is in the store. So if the look-up of the room fails, the entry is not made up for: the
next turn that goes well finds the player, looks up the room and acts upon its line there, and the
room is not entered before (`Game.outage_skips_entry`). A room is entered only after a move in the
same turn. This holds however often the store fails, and in whatever way.

Ann, whose first turn fails at a pit that would have killed her, walks about in it afterwards
(`Game.pit_survived`).
-/

namespace TextAdventure

/-! ### Players stay in a store -/

namespace Store

variable {s : Store} {key : TurnKey}

/-- Whatever is asked, a player who has a record keeps one. -/
theorem own?_answer (h : s.own? key ≠ none) (q : Query) : (answer q s).2.own? key ≠ none := by
  have hof : ∃ l ∈ s.tags, l.IsOf key := by
    by_contra hnone
    exact h (own?_eq_none.2 fun l hl hkey => hnone ⟨l, hl, hkey⟩)
  obtain ⟨l, hl, hkey⟩ := hof
  have hmem : l ∈ (answer q s).2.tags := by
    cases q with
    | findPlayer username map => exact hl
    | findRoom x y map => exact hl
    | updatePlayer id c =>
      simp only [answer, tags_update]
      exact hl
    | insertPlayer record =>
      simp only [answer]
      rw [tags, records_insert, List.map_append]
      exact List.mem_append_left _ hl
  exact fun hnone => own?_eq_none.1 hnone l hmem hkey

end Store

namespace Unreliable

variable {u : Unreliable} {key : TurnKey}

theorem own?_answer (h : u.memory.own? key ≠ none) (q : Query) :
    (backend.answer q u).2.memory.own? key ≠ none := by
  obtain hsame | hdone := memory_answer q u
  · rw [hsame]
    exact h
  · rw [hdone]
    exact Store.own?_answer h q

theorem own?_replay (h : u.memory.own? key ≠ none) (past : History) :
    (past.replay backend u).memory.own? key ≠ none := by
  induction past generalizing u with
  | nil => exact h
  | cons e past ih =>
    cases e with
    | noted n => exact ih h
    | asked q answer => exact ih (own?_answer h q)

/-- A turn that has got its player leaves a record of the player. -/
theorem own?_of_opens {s : Setting} {username map : String} {opening rest : History} {p : Player}
    (hopens : s.Opens username map opening p) (hanswered : (opening ++ rest).AnsweredBy backend u) :
    ((opening ++ rest).replay backend u).memory.own? ⟨username, map⟩ ≠ none := by
  cases hopens with
  | found record p hread =>
    refine own?_replay ?_ _
    have hfound := hanswered.1
    obtain hthere | ⟨e, herror⟩ := answer_findPlayer username map u
    · rw [hthere, Except.ok.injEq] at hfound
      rw [show u.memory.own? ⟨username, map⟩ = some record from hfound.symm]
      exact Option.some_ne_none record
    · exact nomatch hfound.trans herror
  | created place hplace stored id hid hnull =>
    obtain ⟨-, hstored, -⟩ := hanswered
    let new := Player.atPosition username map place.1 place.2
    let found := (backend.answer (.findPlayer username map) u).2
    have hinsert : (backend.answer (.insertPlayer new.toRecord) found).2.memory =
        (found.memory.insert playerCollection new.toRecord).2 :=
      (answer_insertPlayer rfl (by simp [hid]) hstored.symm).1
    have hown : (backend.answer (.insertPlayer new.toRecord) found).2.memory.own?
        ⟨username, map⟩ ≠ none := by
      let tag : Fields.Tag :=
        ⟨some (.int found.memory.nextId), some (.text username), some (.text map)⟩
      have hmem : tag ∈ (found.memory.insert playerCollection new.toRecord).2.tags := by
        rw [Store.tags_insert]
        exact List.mem_append_right _ (List.mem_singleton.2 rfl)
      rw [hinsert]
      exact fun hnone => Store.own?_eq_none.1 hnone tag hmem ⟨rfl, rfl⟩
    exact own?_replay hown (.noted (.log (.playerCreated username map)) :: rest)

end Unreliable

/-! ### Turns of players who are found -/

namespace Setting

variable (s : Setting)

/-- The room where the player is is looked up, and the line is acted upon in it; until then no room
is entered. -/
def ActsUnentered (line : String) (p : Player) (h : History) : Prop :=
  ∃ (answer : (Query.findRoom p.x p.y p.map).Answer) (room : Option Room) (ns : List Note)
    (rest : History),
    Script.roomFound p.x p.y p.map answer = .ok room ∧ (∀ n ∈ ns, n.isEntry = false) ∧
    h = .asked (.findRoom p.x p.y p.map) answer :: ns.map .noted ++
      .noted (.acted line (room.getD (.empty p.x p.y p.map))) :: rest

/-- A room is entered only by a player who has been moved since. -/
def EntersMoved (h : History) : Prop :=
  ∀ pre room post, h.notes = pre ++ .entered room :: post → SinceEntry s.moves pre

variable {s}

/-- A player who has not just arrived is put into the room without entering it. -/
theorem arrive_unentered {t : Turn} (ht : t.pending.arrival = false) (hnotes : t.notes = [])
    (p : Player) (room : Option Room) :
    ∃ u, s.arrive t p room = (u, none) ∧ u.player = t.player ∧ u.line = t.line ∧
      ∀ n ∈ u.notes, n.isEntry = false := by
  cases room with
  | none =>
    refine ⟨{ t with room := some (.empty p.x p.y p.map) }.log
      (.noRoom p.username p.x p.y p.map), ?_, rfl, rfl, ?_⟩
    · simp [arrive, Turn.log, Turn.note, ht]
    · simp [Turn.log, Turn.note, hnotes, Note.isEntry]
  | some room => exact ⟨{ t with room := some room }, by simp [arrive, ht], rfl, rfl, by simp [hnotes]⟩

/-- Acting upon a line is noted first. -/
theorem dispatch_notes {t : Turn} {p : Player} (hp : t.player = some p) (hnotes : t.notes = []) :
    ∃ more, (s.dispatch t).1.notes = .acted t.line (roomOf t p) :: more := by
  unfold dispatch
  split
  · next hnone => exact absurd (hnone.symm.trans hp) (by simp)
  · next q hq =>
    obtain rfl : q = p := Option.some.inj (hq.symm.trans hp)
    obtain ⟨more, hmore, -⟩ := (s.perform_onward _ q (roomOf t q) _).notes
    exact ⟨_, by rw [hmore, hnotes]; rfl⟩

/-- A turn that was halted by the store fails. -/
theorem wrapUp_error (past : History) (t : Turn) (e : StorageError) :
    (s.wrapUp (t, some (.storage e))).Always (fun _ x => x.1.error ≠ none) past := by
  refine (wrapUp_halted past t (.storage e)).imp ?_
  rintro h x ⟨-, -, hx⟩
  rw [hx e rfl]
  exact Option.some_ne_none e

/-- A turn that has found its player acts upon its line without entering a room before, unless it
fails. -/
theorem resume_found_unentered (line username map : String) (p : Player) (past : History) :
    (s.resume (.start line username map) (.ok (some p))).Always
      (fun h x => x.1.error = none → ∃ rest, h = past ++ rest ∧ ActsUnentered line p rest)
      past := by
  rw [resume_eq]
  intro answer
  cases hroom : Script.roomFound p.x p.y p.map answer with
  | error e =>
    simp only [hroom]
    exact (wrapUp_error _ _ e).imp fun _ _ hx herror => absurd herror hx
  | ok room =>
    simp only [hroom]
    let met : Turn := { Turn.start line username map with
      player := some p, statusAtEntry := some p.status }
    -- the player was found and has not been moved yet, so no arrival is pending
    obtain ⟨u, harrive, hplayer, hline, hns⟩ :=
      arrive_unentered (s := s) (t := met) rfl rfl p room
    have hthere : u.room = some (room.getD (.empty p.x p.y p.map)) := by
      rw [← arrive_room (s := s) met p room, harrive]
    obtain ⟨more, hmore⟩ := dispatch_notes (s := s) (t := { u with notes := [] }) (p := p) hplayer rfl
    show Script.Always _ _ (Script.bind (Script.bind (Run.pass (s.arrive met p room)) _) _)
    rw [harrive]
    show Script.Always _ (past ++ [.asked (.findRoom p.x p.y p.map) answer] ++ u.notes.map .noted ++
      (s.dispatch { u with notes := [] }).1.notes.map .noted) _
    rw [hmore]
    refine (Script.Always.extends_past _ _).imp ?_
    rintro h x ⟨rest, hrest⟩ -
    let later : History := more.map .noted ++ rest
    refine ⟨_, ?_, answer, room, u.notes, later, hroom, hns, rfl⟩
    rw [hrest, roomOf, show ({ u with notes := [] } : Turn).line = line from hline]
    simp [hthere, later]

/-- A turn that does not fail has learned whether its player is there. If so, it acts upon its line
without entering a room before, and enters rooms only after moves. -/
theorem play_unentered (s : Setting) (line username map : String) :
    (s.play (.start line username map)).Always
      (fun h x => x.1.error = none → ∃ (found : Option Fields) (rest : History),
        h = .asked (.findPlayer username map) (.ok found) :: rest ∧
        ∀ record, found = some record → ∃ p, Player.read (.table record) = .valid p ∧
          ActsUnentered line p rest ∧ s.EntersMoved h) [] := by
  let t := Turn.start line username map
  rw [play_eq_ask]
  intro answer
  match answer with
  | .error e => exact (wrapUp_error (s := s) _ t e).imp fun _ _ hx herror => absurd herror hx
  | .ok none =>
    refine (Script.Always.extends_past _ _).imp ?_
    rintro h x ⟨rest, hrest⟩ -
    exact ⟨none, rest, hrest, fun record h => absurd h.symm (Option.some_ne_none record)⟩
  | .ok (some record) =>
    cases hread : Player.read (.table record) with
    | invalid problems =>
      simp only [Script.playerFound, hread]
      exact (wrapUp_error (s := s) _ t _).imp fun _ _ hx herror => absurd herror hx
    | valid p =>
      simp only [Script.playerFound, hread]
      let past : History := [.asked (.findPlayer username map) (.ok (some record))]
      have hacts := resume_found_unentered (s := s) line username map p past
      have hlawful : (s.resume t (.ok (some p))).Always (s.Reaches False p fun _ _ _ => True) past :=
        resume_found_lawful rfl line username map p
      refine (hacts.and hlawful).imp ?_
      rintro h x ⟨hacts, q, hat, hnotes, -⟩ herror
      obtain ⟨rest, hrest, hunentered⟩ := hacts herror
      refine ⟨some record, rest, hrest, fun record' heq => ?_⟩
      obtain rfl := Option.some.inj heq
      refine ⟨p, hread, hunentered, fun pre room post hpre => ?_⟩
      have hallows := hat.lawful pre (.entered room) post (by rw [hnotes, List.append_nil, hpre])
      exact (hallows.entry rfl).resolve_left And.left

end Setting

/-! ### Turns one after another over an unreliable store -/

namespace Game

variable {g : Game Unreliable} {key : TurnKey}

/-- Players stay while turns are played one after another. -/
theorem own?_playInTurn (pace : Pace) (hg : g.IsIdle) (h : g.store.memory.own? key ≠ none)
    (turns : List Turn) :
    (g.playInTurn Unreliable.backend pace turns).2.store.memory.own? key ≠ none := by
  induction turns generalizing g with
  | nil => exact h
  | cons t turns ih =>
    have hkept : (g.play Unreliable.backend pace t).2.store.memory.own? key ≠ none := by
      rw [play_eq Unreliable.backend pace hg t, ← Script.replay_history]
      exact Unreliable.own?_replay h _
    exact ih (play_isIdle Unreliable.backend pace hg t) hkept

/-- A turn that has stored something leaves a record of its player. -/
theorem own?_of_stores (setting : Setting) (line username map : String) (u : Unreliable)
    (h : ((setting.play (.start line username map)).history Unreliable.backend u).Stores) :
    ((setting.play (.start line username map)).run Unreliable.backend u).2.2.memory.own?
      ⟨username, map⟩ ≠ none := by
  have hlives := (setting.play_lives line username map).of_run Unreliable.backend u
  have hanswered := Script.answeredBy_history Unreliable.backend
    (setting.play (.start line username map)) u
  rw [List.nil_append] at hlives
  rw [← Script.replay_history]
  obtain ⟨-, hnone⟩ | ⟨start, opening, rest, hopens, hhistory, -⟩ := hlives
  · exact absurd h hnone
  · rw [hhistory] at hanswered ⊢
    exact Unreliable.own?_of_opens hopens hanswered

/-- Over a store whose calls may go wrong in any way, let a turn of a player store the player as new,
or a place the player has come to; it may have failed after that. Whatever other turns are played
after it, the next turn of the player that does not fail finds the player, and acts upon its line in
the room where the player is without entering it before. In that turn rooms are entered only after
moves that the turn itself has made. -/
theorem outage_skips_entry (pace : Pace) (hg : g.IsIdle) (first line username : String)
    (map : Option String) (between : List Turn)
    (hstores : ((g.setting.play (g.turn first username map)).history Unreliable.backend
      g.store).Stores) :
    let g' := (g.playInTurn Unreliable.backend pace (g.turn first username map :: between)).2
    let t := g.turn line username map
    let h := (g.setting.play t).history Unreliable.backend g'.store
    ∃ x, g'.play Unreliable.backend pace t =
        (⟨[x], h.notes.map (0, ·)⟩, { g' with store := h.replay Unreliable.backend g'.store }) ∧
      (x.1.error = none → ∃ record p rest, g'.store.memory.own? ⟨username, t.map⟩ = some record ∧
        Player.read (.table record) = .valid p ∧
        h = .asked (.findPlayer username t.map) (.ok (some record)) :: rest ∧
        Setting.ActsUnentered line p rest ∧ g.setting.EntersMoved h) := by
  intro g' t h
  have hthere : g'.store.memory.own? ⟨username, t.map⟩ ≠ none := by
    refine own?_playInTurn pace (play_isIdle Unreliable.backend pace hg _) ?_ between
    rw [play_eq Unreliable.backend pace hg]
    exact own?_of_stores g.setting first username t.map g.store hstores
  obtain ⟨record, hrecord⟩ := Option.ne_none_iff_exists'.1 hthere
  obtain ⟨hidle, hsetting⟩ : g'.IsIdle ∧ g'.setting = g.setting :=
    playInTurn_isIdle Unreliable.backend pace hg _
  have hplay := play_eq Unreliable.backend pace hidle t
  rw [show g'.setting.play t = g.setting.play t by rw [hsetting], ← Script.notes_history,
    ← Script.replay_history] at hplay
  refine ⟨_, hplay, fun herror => ?_⟩
  obtain ⟨found, rest, hfound, hacts⟩ : ∃ (found : Option Fields) (rest : History),
      h = .asked (.findPlayer username t.map) (.ok found) :: rest ∧ ∀ record, found = some record →
        ∃ p, Player.read (.table record) = .valid p ∧ Setting.ActsUnentered line p rest ∧
          g.setting.EntersMoved h :=
    (g.setting.play_unentered line username t.map).of_run Unreliable.backend g'.store herror
  -- the look-up has not failed, so it tells what is there
  have hanswered : h.AnsweredBy Unreliable.backend g'.store := Script.answeredBy_history ..
  rw [hfound] at hanswered
  have hsome : found = some record := by
    obtain hanswer | ⟨e, hanswer⟩ := Unreliable.answer_findPlayer username t.map g'.store
    · exact (Except.ok.inj (hanswered.1.trans hanswer)).trans hrecord
    · exact nomatch hanswered.1.trans hanswer
  obtain ⟨p, hread, hunentered⟩ := hacts record hsome
  exact ⟨record, p, rest, hrecord, hread, hsome ▸ hfound, hunentered⟩

/-- A game with a pit at the origin, which kills those who enter it; the store fails when it is called
for the third time. -/
def atPit : Game Unreliable :=
  let pit : Room := ⟨.null, 0, 0, "default", "pit", "A pit.",
    [⟨.command, "enter", none, [], [⟨[], "You fall.", some ⟨none, [], some .dead⟩⟩]⟩]⟩
  .new ⟨Bundled.english, Bundled.englishMessages, [0, 0]⟩ "default"
    ⟨Store.ofCollections [(roomCollection, [pit.toRecord])],
      [.works, .works, .fails "database unavailable" false]⟩

/-- Ann's first turn ends when the room is looked up, and her second acts in the pit and enters
nothing before. -/
theorem outage_skips_entry_pit :
    ((atPit.setting.play (atPit.turn "look" "ann" none)).history Unreliable.backend
        atPit.store).Stores ∧
      ∃ t g' h record p rest, atPit.turn "look" "ann" none = t ∧
        (atPit.playInTurn Unreliable.backend .yielding [t]).2 = g' ∧
        (atPit.setting.play t).history Unreliable.backend g'.store = h ∧
        g'.store.memory.own? ⟨"ann", t.map⟩ = some record ∧
        Player.read (.table record) = .valid p ∧
        h = .asked (.findPlayer "ann" t.map) (.ok (some record)) :: rest ∧
        Setting.ActsUnentered "look" p rest ∧ atPit.setting.EntersMoved h := by
  have hstores : ((atPit.setting.play (atPit.turn "look" "ann" none)).history Unreliable.backend
      atPit.store).Stores := by
    decide +kernel
  obtain ⟨x, hplay, hacts⟩ :=
    outage_skips_entry .yielding (g := atPit) rfl "look" "look" "ann" none [] hstores
  have herror : x.1.error = none := by
    have hsound : ∀ y ∈ ((atPit.playInTurn Unreliable.backend .yielding
        [atPit.turn "look" "ann" none]).2.play Unreliable.backend .yielding
          (atPit.turn "look" "ann" none)).1.turns, y.1.error = none := by
      decide +kernel
    refine hsound x ?_
    rw [hplay]
    exact List.mem_singleton.2 rfl
  obtain ⟨record, p, rest, hrecord, hacts⟩ := hacts herror
  exact ⟨hstores, _, _, _, record, p, rest, rfl, rfl, rfl, hrecord, hacts⟩

/-- Ann lives on in the pit that her first turn did not come to enter, and looks around in it. -/
theorem pit_survived :
    let t := atPit.turn "look" "ann" none
    let ((aborted, _), _, store) := (atPit.setting.play t).run Unreliable.backend atPit.store
    let ((u, halt), notes, _) := (atPit.setting.play t).run Unreliable.backend store
    aborted.error = some (.refused "database unavailable") ∧
      ((atPit.setting.play t).history Unreliable.backend atPit.store).Stores ∧
      u.error = none ∧ halt = none ∧ u.replies = [.text "A pit."] ∧
      u.player.map (fun p => (p.x, p.y, p.status)) = some (0, 0, .alive) ∧
      notes.any Note.isEntry = false := by
  decide +kernel

end Game

end TextAdventure
