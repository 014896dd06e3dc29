import TextAdventure.Language.Bundled
import TextAdventure.Proofs.Turn.Deeds
import TextAdventure.Proofs.Turn.Finished
import TextAdventure.Store.Memory

/-!
# The lifetime of a player within a turn

Whatever the store answers, the notes of a turn are lawful from its beginning to its end
(`Setting.play_lives`): every part of the turn leads from lawful notes to lawful ones. So a player who
is dead or has won stays so until a reset, unless an effect moves the player on (`finished_stays`).
The exception is real: whether a player plays on is asked when a line is acted upon, and not when a
room is entered (`Setting.dead_revived`).
-/

namespace TextAdventure

namespace Query

/-- The store has taken in a new player, or the place a player has come to. -/
def Stores : (q : Query) → q.Answer → Prop
  | .insertPlayer _, answer =>
    match (answer : Except StorageError Fields) with
    | .ok stored => ∃ id, stored.get? "_id" = some id ∧ id ≠ .null
    | .error _ => False
  | .updatePlayer _ (.position ..), answer => (answer : Except StorageError Bool) = .ok true
  | _, _ => False

@[simp] theorem not_stores_findPlayer {username map : String}
    (answer : (Query.findPlayer username map).Answer) :
    ¬(Query.findPlayer username map).Stores answer := id

instance : (q : Query) → (answer : q.Answer) → Decidable (q.Stores answer)
  | .insertPlayer _, .ok stored =>
    decidable_of_iff (∃ id ∈ stored.get? "_id", id ≠ .null) Iff.rfl
  | .insertPlayer _, .error _ => .isFalse id
  | .updatePlayer _ (.position ..), answer =>
    inferInstanceAs (Decidable ((answer : Except StorageError Bool) = .ok true))
  | .updatePlayer _ (.items _), _ => .isFalse id
  | .updatePlayer _ (.status _), _ => .isFalse id
  | .findPlayer .., _ => .isFalse id
  | .findRoom .., _ => .isFalse id

end Query

namespace History

/-- A new player or a new place has been stored. -/
def Stores (h : History) : Prop := ∃ q answer, .asked q answer ∈ h ∧ q.Stores answer

theorem stores_append {g h : History} : Stores (g ++ h) ↔ Stores g ∨ Stores h := by
  simp only [Stores, List.mem_append]
  constructor
  · rintro ⟨q, answer, hm | hm, hq⟩
    · exact .inl ⟨q, answer, hm, hq⟩
    · exact .inr ⟨q, answer, hm, hq⟩
  · rintro (⟨q, answer, hm, hq⟩ | ⟨q, answer, hm, hq⟩)
    · exact ⟨q, answer, .inl hm, hq⟩
    · exact ⟨q, answer, .inr hm, hq⟩

theorem not_stores_notes (ns : List Note) : ¬Stores (ns.map .noted) := by
  rintro ⟨q, answer, hm, -⟩
  obtain ⟨n, -, e⟩ := List.mem_map.1 hm
  cases e

@[simp] theorem stores_asked_cons {q : Query} {answer : q.Answer} {h : History} :
    Stores (.asked q answer :: h) ↔ q.Stores answer ∨ Stores h := by
  rw [← List.singleton_append, stores_append]
  refine or_congr_left ⟨?_, fun hq => ⟨q, answer, List.mem_singleton.2 rfl, hq⟩⟩
  rintro ⟨q', answer', hm, hq⟩
  cases List.mem_singleton.1 hm
  exact hq

@[simp] theorem not_stores_nil : ¬Stores [] := not_stores_notes []

theorem stores_noted_cons {n : Note} {h : History} : Stores (.noted n :: h) ↔ Stores h := by
  rw [← List.singleton_append, stores_append]
  exact or_iff_right (not_stores_notes [n])

instance : (h : History) → Decidable (Stores h)
  | [] => .isFalse not_stores_nil
  | .noted _ :: h =>
    have := instDecidableStores h
    decidable_of_iff (Stores h) stores_noted_cons.symm
  | .asked q answer :: h =>
    have := instDecidableStores h
    decidable_of_iff (q.Stores answer ∨ Stores h) stores_asked_cons.symm

end History

namespace Setting

variable (s : Setting)

/-! ### The parts of a turn -/

/-- The course of a turn that has got its player, up to the announcement of the last room. -/
def goOn (t : Turn) : Run :=
  (s.enter t).andThen fun t =>
    (Run.pass (s.dispatch t)).andThen fun t =>
      (persist t).bind fun t => s.announce maxRoomChain t

/-- How a turn is brought to its end. -/
def wrapUp : Turn × Option Halt → Run
  | (t, none) => s.finish t
  | (t, some (.storage e)) => s.finish { t with error := some e }
  | (t, some (.crash c)) => .done (t, some (.crash c))

theorem resume_eq (t : Turn) (found : Except StorageError (Option Player)) :
    s.resume t found = ((s.meet t found).andThen s.goOn).bind s.wrapUp := rfl

/-- The end of a part of a turn: the player is the one that the notes tell of, the notes are lawful,
and unless the turn was halted, it has come to a state with some property. -/
def Reaches (new : Prop) (start : Player) (R : List Note → Turn → Player → Prop) (h : History)
    (x : Turn × Option Halt) : Prop :=
  ∃ p, s.IsAt new start h.notes x.1 p ∧ x.1.notes = [] ∧ (x.2 = none → R h.notes x.1 p)

section Parts

variable {s} {new : Prop} {start p : Player} {past : History} {t : Turn}
  {R R' : List Note → Turn → Player → Prop}

theorem Reaches.andThen {r : Run} {next : Turn → Run}
    (hr : r.Always (s.Reaches new start R) past)
    (hnext : ∀ g t p, t.notes = [] → R (History.notes g) t p →
      (next t).Always (s.Reaches new start R') g) :
    (r.andThen next).Always (s.Reaches new start R') past := by
  refine hr.andThen (fun g t ht => ?_) fun g t halt ht => ?_
  · obtain ⟨p, -, hnotes, hR⟩ := ht
    exact hnext g t p hnotes (hR rfl)
  · obtain ⟨p, hat, hnotes, -⟩ := ht
    exact ⟨p, hat, hnotes, fun h => absurd h (Option.some_ne_none halt)⟩

/-- An act is passed on. -/
theorem IsAt.pass {step : Turn × Option Crash} (h : s.IsAt new start past.notes step.1 p)
    (hR : R (past.notes ++ step.1.notes) { step.1 with notes := [] } p) :
    (Run.pass step).Always (s.Reaches new start R) past := by
  have hnotes : History.notes (past ++ step.1.notes.map .noted) = past.notes ++ step.1.notes := by
    rw [History.notes_append, History.notes_map_noted]
  refine ⟨p, ?_, rfl, fun _ => ?_⟩
  · rw [hnotes]
    exact h.passOn
  · rw [hnotes]
    exact hR

/-- The room of the player is looked up and entered. -/
theorem MayEnter.enter (h : s.MayEnter new start past.notes t p) (ht : t.notes = []) :
    (s.enter t).Always (s.Reaches new start (s.HasEntered new start)) past := by
  unfold Setting.enter
  split
  · next hnone => exact absurd (hnone.symm.trans h.player) (by simp)
  · next q hq =>
    obtain rfl : q = p := Option.some.inj (hq.symm.trans h.player)
    let noticed : Turn := { t with statusAtEntry := t.statusAtEntry.or (some q.status) }
    have hnoticed : s.MayEnter new start past.notes noticed q :=
      ⟨⟨h.player, h.course, h.lawful⟩, h.expects, h.swept⟩
    intro answer
    have hlook : History.notes (past ++ [.asked (.findRoom q.x q.y q.map) answer]) = past.notes := by
      rw [History.notes_append]
      exact List.append_nil _
    cases hroom : Script.roomFound q.x q.y q.map answer with
    | error e =>
      simp only [Script.bind, hroom]
      refine ⟨q, ?_, ht, fun h => absurd h (Option.some_ne_none _)⟩
      rw [hlook]
      exact hnoticed.toIsAt
    | ok room =>
      simp only [Script.bind, hroom]
      rw [← hlook] at hnoticed
      obtain ⟨q', hentered⟩ := hnoticed.arrive room
      exact hentered.toIsAt.pass hentered.passOn

/-- Nothing was done to the player of a turn, and what was noted are reports. -/
def OnlyReports (past : History) (t : Turn) (h : History) (u : Turn) : Prop :=
  u.player = t.player ∧ u.pending.arrival = t.pending.arrival ∧ u.notes = t.notes ∧
    ∃ ms, h.notes = past.notes ++ ms ∧ ∀ m ∈ ms, m.isDeed = false

namespace OnlyReports

theorem refl (past : History) (t : Turn) : OnlyReports past t past t :=
  ⟨rfl, rfl, rfl, [], (List.append_nil _).symm, List.forall_mem_nil _⟩

theorem trans {g h : History} {u v : Turn} (htu : OnlyReports past t g u)
    (huv : OnlyReports g u h v) : OnlyReports past t h v := by
  obtain ⟨hplayer, harrival, hnotes, ms, hg, hms⟩ := htu
  obtain ⟨hplayer', harrival', hnotes', ms', hh, hms'⟩ := huv
  exact ⟨hplayer'.trans hplayer, harrival'.trans harrival, hnotes'.trans hnotes, ms ++ ms',
    by rw [hh, hg, List.append_assoc], List.forall_mem_append.2 ⟨hms, hms'⟩⟩

/-- A change of the player is saved. -/
theorem savePlayer {u : Turn} (hplayer : u.player = t.player)
    (harrival : u.pending.arrival = t.pending.arrival) (hnotes : u.notes = t.notes) (p : Player)
    (c : Change) :
    ((Script.savePlayer p c).bind fun _ => .done u).Always (OnlyReports past t) past :=
  fun answer => ⟨hplayer, harrival, hnotes, _, by simp, isDeed_of_mem_saveNotes p c answer⟩

/-- Whatever has changed is saved. -/
theorem persist (past : History) (t : Turn) :
    (persist t).Always (OnlyReports past t) past := by
  unfold Setting.persist
  split
  · exact .refl past t
  · next p hp =>
    have hitems : (persistItems p t).Always (OnlyReports past t) past := by
      unfold persistItems
      split
      · exact savePlayer rfl rfl rfl p _
      · exact .refl past t
    refine (hitems.imp fun g u hu => ?_).bind
    unfold persistPosition
    split
    · exact (savePlayer rfl rfl rfl p _).imp fun _ _ hv => hu.trans hv
    · exact hu

end OnlyReports

theorem IsAt.report {g : History} {u : Turn} (h : s.IsAt new start past.notes t p)
    (hu : OnlyReports past t g u) (ht : t.notes = []) : s.IsAt new start g.notes u p := by
  obtain ⟨hplayer, -, hnotes, ms, hg, hms⟩ := hu
  obtain ⟨hp, hcourse, hlawful⟩ := h
  rw [ht, List.append_nil] at hcourse hlawful
  refine ⟨hplayer.trans hp, ?_, ?_⟩
  · rw [hnotes, ht, List.append_nil, hg, course_append _ _ hms, hcourse]
  · rw [hnotes, ht, List.append_nil, hg]
    exact hlawful.append hms

theorem MayEnter.report {g : History} {u : Turn} (h : s.MayEnter new start past.notes t p)
    (hu : OnlyReports past t g u) (ht : t.notes = []) : s.MayEnter new start g.notes u p := by
  have hat := h.toIsAt.report hu ht
  obtain ⟨-, harrival, hnotes, ms, hg, hms⟩ := hu
  have hentry : ∀ m ∈ ms, m.isEntry = false := fun m hm => Note.isEntry_of_not_isDeed (hms m hm)
  obtain ⟨-, hexpects, hswept⟩ := h
  rw [ht, List.append_nil] at hexpects hswept
  refine ⟨hat, ?_, ?_⟩
  · rw [hnotes, ht, List.append_nil, hg, harrival]
    exact fun h => (hexpects h).append hentry
  · rw [hnotes, ht, List.append_nil, hg, harrival]
    exact fun h hfinished => (hswept h hfinished).append hentry

/-- The rooms that the player has come to are announced. -/
theorem MayEnter.announce (n : Nat) (h : s.MayEnter new start past.notes t p) (ht : t.notes = []) :
    (s.announce n t).Always (s.Reaches new start fun _ _ _ => True) past := by
  -- every room may send the player on, so the induction is on how many more may be entered
  induction n generalizing past t p with
  | zero =>
    unfold Setting.announce
    split
    · let cut := { t with pending := { t.pending with arrival := false } }.log
        (.chainCutOff t.username maxRoomChain)
      have hcut : s.IsAt new start past.notes cut p :=
        h.toIsAt.append rfl rfl (List.forall_mem_singleton.2 rfl)
      show (Run.pass (cut, none)).Always _ past
      exact hcut.pass trivial
    · exact ⟨p, h.toIsAt, ht, fun _ => trivial⟩
  | succ n ih =>
    unfold Setting.announce
    split
    · refine Reaches.andThen (h.enter ht) fun g u q hu hentered => ?_
      refine ((OnlyReports.persist g u).imp fun g' v hv => ?_).bind
      exact ih (hentered.mayEnter.report hv hu) (hv.2.2.1.trans hu)
    · exact ⟨p, h.toIsAt, ht, fun _ => trivial⟩

/-- The line is acted upon, and where that leads is announced. -/
theorem MayEnter.goOn (h : s.MayEnter new start past.notes t p) (ht : t.notes = []) :
    (s.goOn t).Always (s.Reaches new start fun _ _ _ => True) past := by
  refine Reaches.andThen (h.enter ht) fun g u q hu hentered => ?_
  obtain ⟨q', hmay⟩ := hentered.dispatch
  refine Reaches.andThen (hmay.toIsAt.pass hmay.passOn) fun g' v q'' hv hmay => ?_
  refine ((OnlyReports.persist g' v).imp fun g'' w hw => ?_).bind
  exact (hmay.report hw hv).announce maxRoomChain (hw.2.2.1.trans hv)

/-- A turn is completed. -/
theorem IsAt.conclude (h : s.IsAt new start past.notes t p) :
    (conclude t).Always (s.Reaches new start fun _ _ _ => True) past := by
  unfold Setting.conclude Turn.complete
  split
  · have hagain : s.IsAt new start past.notes { t with room := none } p :=
      ⟨h.player, h.course, h.lawful⟩
    exact hagain.pass trivial
  · have hcomplete : s.IsAt new start past.notes
        ({ t with room := none, isComplete := true }.note .completed) p :=
      h.append rfl rfl (List.forall_mem_singleton.2 rfl)
    exact hcomplete.pass trivial

/-- The status is announced and saved. -/
theorem IsAt.announceStatus (h : s.IsAt new start past.notes t p) :
    (s.announceStatus t).Always (s.Reaches new start (s.IsAt new start)) past := by
  have htell : ∀ (rs : List Value) (crash : Option Crash),
      (Run.pass ({ t with replies := rs }, crash)).Always
        (s.Reaches new start (s.IsAt new start)) past := by
    intro rs crash
    have htold : s.IsAt new start past.notes { t with replies := rs } p :=
      ⟨h.player, h.course, h.lawful⟩
    exact htold.pass htold.passOn
  unfold Setting.announceStatus
  split
  · next hnone => exact absurd (hnone.symm.trans h.player) (by simp)
  · next q hq =>
    split
    · obtain ⟨rs, crash, hsaid, -⟩ := remind_eq s t q
      rw [hsaid]
      refine Reaches.andThen (htell rs crash) fun g u p' hu hat => ?_
      have hsettled : s.IsAt new start g.notes (settleStatus u) p' :=
        ⟨hat.player, hat.course, hat.lawful⟩
      exact ⟨p', hsettled, hu, fun _ => hsettled⟩
    · obtain ⟨rs, crash, hsaid, -⟩ := tellStatus_eq s t q
      rw [hsaid]
      refine Reaches.andThen (htell rs crash) fun g u p' hu hat => ?_
      intro answer
      have hreport : OnlyReports g u (g ++ [.noted (.log (.statusChanged q.username u.statusAtEntry
          q.status))] ++ [.asked (.updatePlayer q.id (.status q.status)) answer] ++
          (Script.saveNotes q (.status q.status) answer).map .noted) (settleStatus u) := by
        refine ⟨rfl, rfl, rfl, .log (.statusChanged q.username u.statusAtEntry q.status) ::
          Script.saveNotes q (.status q.status) answer, ?_, ?_⟩
        · simp [History.notes]
        · exact List.forall_mem_cons.2 ⟨rfl, isDeed_of_mem_saveNotes q _ answer⟩
      have hsettled := hat.report hreport hu
      exact ⟨p', hsettled, hu, fun _ => hsettled⟩

/-- The replies are handed out, or the failure is reported. -/
theorem IsAt.finish (h : s.IsAt new start past.notes t p) :
    (s.finish t).Always (s.Reaches new start fun _ _ _ => True) past := by
  unfold Setting.finish
  split
  · next e _ =>
    have hreported : s.IsAt new start past.notes
        ({ t with replies := [] }.log (.turnFailed e.message t.describe)) p :=
      h.append rfl rfl (List.forall_mem_singleton.2 rfl)
    exact hreported.conclude
  · refine Reaches.andThen h.announceStatus fun g u q hu hat => ?_
    have hhanded : s.IsAt new start g.notes
        { u with notes := u.notes ++ u.replies.map .replied } q := by
      refine hat.append rfl rfl fun m hm => ?_
      obtain ⟨r, -, rfl⟩ := List.mem_map.1 hm
      rfl
    exact hhanded.conclude

/-- A turn that has got its player is brought to its end. -/
theorem MayEnter.resume (h : s.MayEnter new start past.notes t p) (ht : t.notes = []) :
    ((s.goOn t).bind s.wrapUp).Always (s.Reaches new start fun _ _ _ => True) past := by
  refine ((h.goOn ht).imp fun g x hx => ?_).bind
  match x, hx with
  | (t, none), ⟨p, hat, _⟩ => exact hat.finish
  | (t, some (.storage e)), ⟨p, hat, _⟩ =>
    have hfailed : s.IsAt new start g.notes { t with error := some e } p :=
      ⟨hat.player, hat.course, hat.lawful⟩
    exact hfailed.finish
  | (t, some (.crash c)), ⟨p, hat, hnotes, _⟩ => exact ⟨p, hat, hnotes, fun _ => trivial⟩

end Parts

/-! ### The whole turn -/

section Whole

variable {s} {past : History}

/-- A player who is found enters a room only after having been moved in the same turn. -/
theorem resume_found_lawful (hpast : past.notes = []) (line username map : String) (p : Player) :
    (s.resume (.start line username map) (.ok (some p))).Always
      (s.Reaches False p fun _ _ _ => True) past := by
  have hmay : s.MayEnter False p past.notes { Turn.start line username map with player := some p }
      p := by
    rw [hpast]
    exact ⟨⟨rfl, rfl, lawful_nil⟩, nofun, nofun⟩
  rw [resume_eq]
  exact hmay.resume rfl

/-- A player who is created may enter the room at the origin, and then as one who is found. -/
theorem resume_created_lawful {username map : String} {start : Player}
    (hpast : past.notes = [.log (.playerCreated username map)]) (hstart : start.isFinished = false)
    (line : String) :
    ((s.goOn { Turn.start line username map with
        player := some start, pending := { Pending.none with arrival := true } }).bind
      s.wrapUp).Always (s.Reaches True start fun _ _ _ => True) past := by
  let created : Turn := { Turn.start line username map with
    player := some start, pending := { Pending.none with arrival := true } }
  have hreport : ∀ m ∈ ([.log (.playerCreated username map)] : List Note), m.isDeed = false :=
    List.forall_mem_singleton.2 rfl
  have hmay : s.MayEnter True start past.notes created start := by
    rw [hpast]
    refine ⟨⟨rfl, course_append start [] hreport, lawful_nil.append hreport⟩, fun _ => .inl ?_,
      fun _ hfinished => Bool.noConfusion (hstart.symm.trans hfinished)⟩
    exact ⟨trivial, List.forall_mem_singleton.2 rfl⟩
  exact hmay.resume rfl

/-- A turn that was halted before it has its player asks nothing more, and ends without one. -/
theorem wrapUp_halted (past : History) (t : Turn) (halt : Halt) :
    (s.wrapUp (t, some halt)).Always (fun h x => (∃ ns : List Note, h = past ++ ns.map .noted) ∧
      x.1.player = t.player ∧ ∀ e, halt = .storage e → x.1.error = some e) past := by
  cases halt with
  | crash c => exact ⟨⟨[], (List.append_nil past).symm⟩, rfl, fun _ h => nomatch h⟩
  | storage e =>
    show (conclude (Turn.log { t with error := some e, replies := [] } _)).Always _ past
    unfold conclude Turn.complete
    have herror : ∀ e', Halt.storage e = .storage e' → some e = some e' :=
      fun _ h => congrArg some (Halt.storage.inj h)
    split
    · exact ⟨⟨_, rfl⟩, rfl, herror⟩
    · exact ⟨⟨_, rfl⟩, rfl, herror⟩

theorem not_stores_of_playerCreated {record : Fields} {p : Player}
    {answer : (Query.insertPlayer record).Answer} {e : StorageError}
    (h : Script.playerCreated p answer = .error e) : ¬Query.Stores (.insertPlayer record) answer := by
  match answer with
  | .error _ => exact id
  | .ok stored =>
    rintro ⟨id, hid, hnull⟩
    simp [Script.playerCreated, hid] at h

/-- What a turn comes to: it has stored nothing and has no player, or it has got one in the beginning,
who is now as the notes tell, and the notes are lawful. -/
def Lives (s : Setting) (username map : String) (h : History) (x : Turn × Option Halt) : Prop :=
  (x.1.player = none ∧ ¬h.Stores) ∨
    ∃ start opening rest, s.Opens username map opening start ∧ h = opening ++ rest ∧
      x.1.player = some (s.course start h.notes) ∧ s.Lawful True start h.notes

/-- A turn that was given its player by some opening goes on from there. -/
theorem Reaches.lives {username map : String} {opening : History} {start : Player} {new : Prop}
    (hopens : s.Opens username map opening start) {r : Run}
    (hr : r.Always (s.Reaches new start fun _ _ _ => True) opening) :
    r.Always (s.Lives username map) opening := by
  refine (hr.and (.extends_past r opening)).imp ?_
  rintro h x ⟨⟨p, ⟨hplayer, hcourse, hlawful⟩, hnotes, -⟩, rest, hrest⟩
  rw [hnotes, List.append_nil] at hcourse hlawful
  refine .inr ⟨start, opening, rest, hopens, hrest, hcourse ▸ hplayer, fun pre n post heq => ?_⟩
  obtain ⟨hentry, hstatus⟩ := hlawful pre n post heq
  exact ⟨fun hn => (hentry hn).imp_left fun ⟨_, hnone⟩ => ⟨trivial, hnone⟩, hstatus⟩

theorem play_lives (s : Setting) (line username map : String) :
    (s.play (.start line username map)).Always (s.Lives username map) [] := by
  let t := Turn.start line username map
  have hhalted : ∀ (past : History) (halt : Halt), ¬past.Stores →
      (s.wrapUp (t, some halt)).Always (s.Lives username map) past := by
    intro past halt hpast
    refine (wrapUp_halted past t halt).imp fun h x ⟨⟨ns, hh⟩, hplayer, _⟩ => ?_
    refine .inl ⟨hplayer, fun hstores => hpast ?_⟩
    exact (History.stores_append.1 (hh ▸ hstores)).resolve_right (History.not_stores_notes ns)
  rw [play_eq_ask]
  intro answer
  match answer with
  | .error e => exact hhalted _ (.storage e) (by simp)
  | .ok (some record) =>
    cases hread : Player.read (.table record) with
    | invalid problems =>
      simp only [Script.playerFound, hread]
      exact hhalted _ (.storage _) (by simp)
    | valid p =>
      simp only [Script.playerFound, hread]
      exact Reaches.lives (.found record p hread) (resume_found_lawful rfl line username map p)
  | .ok none =>
    simp only [Script.playerFound, resume_eq, meet]
    cases hplace : s.origin.start with
    | error d => exact hhalted _ (.crash (.defect d)) (by simp)
    | ok place =>
      intro answer
      cases hcreated : Script.playerCreated
          (Player.atPosition username map place.1 place.2) answer with
      | error e =>
        simp only [Turn.start, hcreated]
        have hunstored : ¬(Query.insertPlayer
            (Player.atPosition username map place.1 place.2).toRecord).Stores answer :=
          not_stores_of_playerCreated hcreated
        exact hhalted _ (.storage e) (by simpa using hunstored)
      | ok p =>
        obtain ⟨stored, id, rfl, hid, hnull, rfl⟩ := eq_of_playerCreated hcreated
        simp only [Turn.start, hcreated]
        exact Reaches.lives (.created place hplace stored id hid hnull)
          (resume_created_lawful rfl rfl line)

/-- Whatever the store answers, the player of a turn is the one it began with after all that the notes
tell of, and dead or won players stay so: a step from one of these to another status is a reset, or
it is made by the entry attribute of a room into which an effect has moved the player in this turn. -/
theorem finished_stays (s : Setting) (line username map : String) :
    (s.play (.start line username map)).Always
      (fun h x => ∀ p, x.1.player = some p → ∃ start opening rest,
        s.Opens username map opening start ∧ h = opening ++ rest ∧ s.course start h.notes = p ∧
        ∀ pre n post, h.notes = pre ++ n :: post →
          (s.course start pre).isFinished = true →
          (s.course start (pre ++ [n])).status ≠ (s.course start pre).status →
            n.isReset = true ∨ ∃ a c q q', n = .applied a c q q' ∧ s.SweptInto a pre) [] := by
  refine (s.play_lives line username map).imp fun h x hx p hp => ?_
  obtain ⟨hnone, -⟩ | ⟨start, opening, rest, hopens, hrest, hplayer, hlawful⟩ := hx
  · exact nomatch hnone.symm.trans hp
  · have hcourse : s.course start h.notes = p := Option.some.inj (hplayer.symm.trans hp)
    refine ⟨start, opening, rest, hopens, hrest, hcourse, fun pre n post heq hover hchanged => ?_⟩
    rw [course_concat] at hchanged
    exact (hlawful pre n post heq).status hover hchanged

/-- Ann jumps off a ledge and dies of it. She lands at a spring, whose water heals her: without a
reset she is alive again before she has been told that she died. -/
theorem dead_revived :
    let ledge : Room := ⟨.null, 0, 0, "default", "ledge", "A ledge.",
      [⟨.command, "jump", none, [],
        [⟨[], "You jump.", some ⟨some (.delta 1 0), [], some .dead⟩⟩]⟩]⟩
    let spring : Room := ⟨.null, 1, 0, "default", "spring", "A spring.",
      [⟨.command, "enter", none, [],
        [⟨[], "The water heals you.", some ⟨none, [], some .alive⟩⟩]⟩]⟩
    let ann := Player.atPosition "ann" "default" 0 0
    let st := Store.ofCollections
      [(roomCollection, [ledge.toRecord, spring.toRecord]), (playerCollection, [ann.toRecord])]
    let s : Setting := ⟨Bundled.english, Bundled.englishMessages, [0, 0]⟩
    let ((u, halt), notes, _) := (s.play (.start "jump" "ann" "default")).run Store.backend st
    let deeds := notes.filter Note.isDeed
    halt = none ∧ deeds.any Note.isReset = false ∧
      ((List.range 4).map fun k => (s.course ann (deeds.take k)).status) =
        [.alive, .dead, .dead, .alive] ∧
      u.player.map (·.status) = some .alive ∧
      u.replies = [.text "You jump.", .text "A spring.", .text "The water heals you."] := by
  decide +kernel

end Whole

end Setting

end TextAdventure
