import TextAdventure.Proofs.Script.History
import TextAdventure.Proofs.Store.PlayerRecord
import TextAdventure.Proofs.Turn.Acting
import TextAdventure.Turn.Play

/-!
# The course of a turn

What a turn has asked, saved and handed out, whatever the store answers. While a turn is under way
(`Setting.Underway`), nothing has failed and nothing has been handed out, and the player it works
with is the one it began with after all changes that were saved, up to those that are still
pending. A turn ends in one of two ways (`Setting.play_course`): it is delivered, with everything
saved and all replies handed out at its very end (`Setting.Delivered`), or it is given up after a
failure, without replies (`Turn.GivenUp`). Only with unusable messages does it break off.
-/

namespace TextAdventure

/-! ### Failures, notes and changes in a history -/

/-- An answer that a turn cannot go on with: the look-up or the insertion fails, the record found
is invalid, or the record stored has no identity. No answer to an update is of this kind. -/
def Query.Fails : (q : Query) → q.Answer → Prop
  | .findPlayer _ _, answer =>
    match (answer : Except StorageError (Option Fields)) with
    | .error _ => True
    | .ok none => False
    | .ok (some record) => ∃ problems, Player.read (.table record) = .invalid problems
  | .insertPlayer _, answer =>
    match (answer : Except StorageError Fields) with
    | .error _ => True
    | .ok stored => stored.get? "_id" = none ∨ stored.get? "_id" = some .null
  | .findRoom _ _ _, answer =>
    match (answer : Except StorageError (Option Fields)) with
    | .error _ => True
    | .ok none => False
    | .ok (some record) => ∃ problems, Room.read (.table record) = .invalid problems
  | .updatePlayer _ _, _ => False

namespace History

/-- Some query has an answer that a turn cannot go on with. -/
def Fails (h : History) : Prop := ∃ q answer, .asked q answer ∈ h ∧ q.Fails answer

/-- Nothing has been handed out, and nothing completed. -/
def Quiet (h : History) : Prop := ∀ n, .noted n ∈ h → n.isEnding = false

/-- The changes that were to be saved, in order. -/
def changes (h : History) : List Change :=
  h.filterMap fun
    | .asked (.updatePlayer _ change) _ => some change
    | _ => none

/-- Apart from looking up rooms, only changes of one player are saved. -/
def Saves (id : Value) (h : History) : Prop :=
  ∀ q answer, .asked q answer ∈ h →
    (∃ x y map, q = .findRoom x y map) ∨ ∃ change, q = .updatePlayer id change

@[simp] theorem fails_append {g h : History} : Fails (g ++ h) ↔ Fails g ∨ Fails h := by
  simp only [Fails, List.mem_append]
  constructor
  · rintro ⟨q, answer, hm | hm, hf⟩
    · exact .inl ⟨q, answer, hm, hf⟩
    · exact .inr ⟨q, answer, hm, hf⟩
  · rintro (⟨q, answer, hm, hf⟩ | ⟨q, answer, hm, hf⟩)
    · exact ⟨q, answer, .inl hm, hf⟩
    · exact ⟨q, answer, .inr hm, hf⟩

@[simp] theorem not_fails_notes (ns : List Note) : ¬Fails (ns.map .noted) := by
  rintro ⟨q, answer, hm, -⟩
  obtain ⟨n, -, e⟩ := List.mem_map.1 hm
  cases e

@[simp] theorem not_fails_nil : ¬Fails [] := not_fails_notes []

@[simp] theorem fails_asked_cons {q : Query} {answer : q.Answer} {h : History} :
    Fails (.asked q answer :: h) ↔ q.Fails answer ∨ Fails h := by
  rw [← List.singleton_append, fails_append]
  refine or_congr_left ⟨?_, fun hf => ⟨q, answer, List.mem_singleton.2 rfl, hf⟩⟩
  rintro ⟨q', answer', hm, hf⟩
  cases List.mem_singleton.1 hm
  exact hf

@[simp] theorem fails_noted_cons {n : Note} {h : History} : Fails (.noted n :: h) ↔ Fails h := by
  rw [← List.singleton_append, fails_append]
  exact or_iff_right (not_fails_notes [n])

@[simp] theorem quiet_append {g h : History} : Quiet (g ++ h) ↔ Quiet g ∧ Quiet h := by
  simp only [Quiet, List.mem_append]
  exact ⟨fun H => ⟨fun n hn => H n (.inl hn), fun n hn => H n (.inr hn)⟩,
    fun H n hn => hn.elim (H.1 n) (H.2 n)⟩

@[simp] theorem quiet_notes {ns : List Note} :
    Quiet (ns.map .noted) ↔ ∀ n ∈ ns, n.isEnding = false := by
  simp [Quiet, List.mem_map]

@[simp] theorem quiet_nil : Quiet [] := fun _ hn => absurd hn List.not_mem_nil

@[simp] theorem quiet_asked_cons {q : Query} {answer : q.Answer} {h : History} :
    Quiet (.asked q answer :: h) ↔ Quiet h := by
  simp [Quiet]

@[simp] theorem quiet_noted_cons {n : Note} {h : History} :
    Quiet (.noted n :: h) ↔ n.isEnding = false ∧ Quiet h := by
  simp [Quiet]

/-- The replies that are handed out. -/
def replied (h : History) : List Value :=
  h.notes.filterMap fun
    | .replied r => some r
    | _ => none

@[simp] theorem replied_append (g h : History) : replied (g ++ h) = replied g ++ replied h := by
  simp [replied]

theorem Quiet.replied_eq {h : History} (hq : h.Quiet) : h.replied = [] := by
  refine List.filterMap_eq_nil_iff.2 fun n hn => ?_
  have := hq n (mem_notes.1 hn)
  cases n <;> first | rfl | cases this

theorem Quiet.completed_not_mem {h : History} (hq : h.Quiet) : .noted .completed ∉ h :=
  fun hn => Bool.noConfusion (hq _ hn)

/-- What comes before a query is quiet, if all but the last notes is. -/
theorem quiet_of_append_asked {past g before : History} {ns : List Note} {q : Query}
    {answer : q.Answer} (h : past ++ [.asked q answer] ++ g = before ++ ns.map .noted)
    (hbefore : before.Quiet) : past.Quiet := by
  obtain ⟨more, rfl, -⟩ | ⟨last, hlast, hns⟩ := List.append_eq_append_iff.1 h
  · exact (quiet_append.1 (quiet_append.1 hbefore).1).1
  · obtain rfl | ⟨init, e, rfl⟩ := List.eq_nil_or_concat last
    · rw [List.append_nil] at hlast
      exact (quiet_append.1 (hlast ▸ hbefore)).1
    · -- the query would be among the notes
      rw [List.concat_eq_append, ← List.append_assoc] at hlast
      obtain ⟨-, he⟩ := List.append_inj' hlast rfl
      have hmem : Happening.asked q answer ∈ ns.map .noted := by
        rw [hns, List.singleton_inj.1 he]
        simp
      obtain ⟨n, -, hn⟩ := List.mem_map.1 hmem
      cases hn

@[simp] theorem changes_append (g h : History) : changes (g ++ h) = changes g ++ changes h :=
  List.filterMap_append

@[simp] theorem changes_notes (ns : List Note) : changes (ns.map .noted) = [] := by
  rw [changes, List.filterMap_map]
  exact List.filterMap_eq_nil_iff.2 fun _ _ => rfl

@[simp] theorem changes_nil : changes [] = [] := rfl

@[simp] theorem changes_noted_cons (n : Note) (h : History) :
    changes (.noted n :: h) = changes h := rfl

@[simp] theorem changes_findRoom_cons (x y : Int) (map : String)
    (answer : (Query.findRoom x y map).Answer) (h : History) :
    changes (.asked (.findRoom x y map) answer :: h) = changes h := rfl

@[simp] theorem changes_update_cons (id : Value) (c : Change)
    (answer : (Query.updatePlayer id c).Answer) (h : History) :
    changes (.asked (.updatePlayer id c) answer :: h) = c :: changes h := rfl

@[simp] theorem saves_append {id : Value} {g h : History} :
    Saves id (g ++ h) ↔ Saves id g ∧ Saves id h := by
  simp only [Saves, List.mem_append]
  exact ⟨fun H => ⟨fun q a hm => H q a (.inl hm), fun q a hm => H q a (.inr hm)⟩,
    fun H q a hm => hm.elim (H.1 q a) (H.2 q a)⟩

@[simp] theorem saves_notes (id : Value) (ns : List Note) : Saves id (ns.map .noted) := by
  intro q answer hm
  obtain ⟨n, -, e⟩ := List.mem_map.1 hm
  cases e

@[simp] theorem saves_nil (id : Value) : Saves id [] := saves_notes id []

@[simp] theorem saves_noted_cons {id : Value} {n : Note} {h : History} :
    Saves id (.noted n :: h) ↔ Saves id h := by
  rw [← List.singleton_append, saves_append]
  exact and_iff_right (saves_notes id [n])

@[simp] theorem saves_findRoom_cons {id : Value} {x y : Int} {map : String}
    {answer : (Query.findRoom x y map).Answer} {h : History} :
    Saves id (.asked (.findRoom x y map) answer :: h) ↔ Saves id h := by
  rw [← List.singleton_append, saves_append, and_iff_right_iff_imp]
  intro _ q answer' hm
  cases List.mem_singleton.1 hm
  exact .inl ⟨x, y, map, rfl⟩

@[simp] theorem saves_update_cons {id own : Value} {c : Change}
    {answer : (Query.updatePlayer id c).Answer} {h : History} :
    Saves own (.asked (.updatePlayer id c) answer :: h) ↔ id = own ∧ Saves own h := by
  rw [← List.singleton_append, saves_append]
  refine and_congr_left fun _ => ⟨fun H => ?_, ?_⟩
  · obtain ⟨_, _, _, e⟩ | ⟨_, e⟩ := H _ _ (List.mem_singleton.2 rfl)
    · cases e
    · exact (Query.updatePlayer.inj e).1
  · rintro rfl q answer' hm
    cases List.mem_singleton.1 hm
    exact .inr ⟨c, rfl⟩

end History

/-- The notes on a change that was not saved are for the log. -/
theorem isEnding_of_mem_saveNotes (p : Player) (c : Change) (answer : Except StorageError Bool) :
    ∀ n ∈ Script.saveNotes p c answer, n.isEnding = false := by
  match answer with
  | .error e => simp [Script.saveNotes, Note.isEnding]
  | .ok false => simp [Script.saveNotes, Note.isEnding]
  | .ok true => simp [Script.saveNotes]

/-! ### Turns under way -/

/-- A part of a turn goes on with the next one, or the turn was halted in it. -/
theorem Script.Always.andThen {P Q : History → Turn × Option Halt → Prop} {past : History} {r : Run}
    {next : Turn → Run} (hr : r.Always P past)
    (hnext : ∀ g t, P g (t, none) → (next t).Always Q g)
    (hhalted : ∀ g t halt, P g (t, some halt) → Q g (t, some halt)) :
    (r.andThen next).Always Q past := by
  refine (hr.imp fun g x hx => ?_).bind
  match x, hx with
  | (t, none), hx => exact hnext g t hx
  | (t, some halt), hx => exact hhalted g t halt hx

/-- The notes with which a turn that went well ends. -/
def Turn.handedOut (t : Turn) : List Note := t.replies.map .replied ++ [.completed]

/-- The replies of a turn are handed out in their order. -/
@[simp] theorem History.replied_handedOut (t : Turn) :
    replied (t.handedOut.map .noted) = t.replies := by
  rw [replied, notes_map_noted, Turn.handedOut, List.filterMap_append, List.filterMap_map]
  simp only [List.filterMap_cons_none, List.filterMap_nil, List.append_nil]
  exact List.filterMap_some

/-- A turn that was given up after a failure. -/
structure Turn.GivenUp (h : History) (t : Turn) : Prop where
  error : t.error ≠ none
  replies : t.replies = []
  room : t.room = none
  isComplete : t.isComplete = true
  fails : h.Fails
  ending : ∃ before : History, h = before ++ [.noted .completed] ∧ before.Quiet
  status : ∀ c ∈ h.changes, c.isStatus = false

/-- A turn that has come to a failure of the store. -/
structure Turn.Stalled (past : History) (t : Turn) : Prop where
  isComplete : t.isComplete = false
  notes : t.notes = []
  fails : past.Fails
  quiet : past.Quiet
  status : ∀ c ∈ past.changes, c.isStatus = false

namespace Setting

variable (s : Setting)

/-- How a turn gets its player: the player is found, or is not found and is created. -/
inductive Opens (username map : String) : History → Player → Prop
  | found (record : Fields) (p : Player) (hread : Player.read (.table record) = .valid p) :
    Opens username map [.asked (.findPlayer username map) (.ok (some record))] p
  | created (place : Int × Int) (hplace : s.origin.start = .ok place) (stored : Fields) (id : Value)
    (hid : stored.get? "_id" = some id) (hnull : id ≠ .null) :
    Opens username map
      [.asked (.findPlayer username map) (.ok none),
        .asked (.insertPlayer (Player.atPosition username map place.1 place.2).toRecord) (.ok stored),
        .noted (.log (.playerCreated username map))]
      { Player.atPosition username map place.1 place.2 with id }

/-- A turn is under way that began with the player `start` and now works with the player `p`. -/
structure Underway (username map : String) (start : Player) (past : History) (t : Turn)
    (p : Player) : Prop where
  player : t.player = some p
  statusAtEntry : t.statusAtEntry = some start.status
  error : t.error = none
  isComplete : t.isComplete = false
  notes : t.notes = []
  sound : ¬past.Fails
  quiet : past.Quiet
  opens : ∃ opening rest, past = opening ++ rest ∧ s.Opens username map opening start ∧
    rest.Saves start.id ∧ rest.changes = past.changes
  /-- The player is the one that was saved, up to what is pending. -/
  saved : (past.changes.foldl Change.applyTo start).ChangedWithin t.pending p
  status : ∀ c ∈ past.changes, c.isStatus = false

/-- How a part of a turn ends: the turn is still under way, with some property, or it has come to a
failure, or it has broken off for want of a message. -/
def Midway (username map : String) (start : Player) (R : Turn → Prop) (past : History)
    (x : Turn × Option Halt) : Prop :=
  match x with
  | (t, none) => (∃ p, s.Underway username map start past t p) ∧ R t
  | (t, some (.storage _)) => t.Stalled past
  | (_, some (.crash _)) => ¬s.Usable

namespace Underway

variable {s} {username map : String} {start p : Player} {past : History} {t : Turn}

/-- A turn that acts and passes its notes on is still under way. -/
theorem act (h : s.Underway username map start past t p) {u : Turn} (hu : t.Onward u) :
    ∃ q, s.Underway username map start (past ++ u.notes.map .noted) { u with notes := [] } q := by
  obtain ⟨q, hq, hpq⟩ := hu.player p h.player
  obtain ⟨more, hmore, hquiet⟩ := hu.notes
  obtain ⟨opening, rest, hpast, hopens, hsaves, hchanges⟩ := h.opens
  rw [h.notes, List.nil_append] at hmore
  subst hmore
  refine ⟨q, ?_⟩
  exact
    { player := hq
      statusAtEntry := hu.statusAtEntry.trans h.statusAtEntry
      error := hu.error.trans h.error
      isComplete := hu.isComplete.trans h.isComplete
      notes := rfl
      sound := by simpa using h.sound
      quiet := by simpa [h.quiet] using hquiet
      opens := ⟨opening, rest ++ u.notes.map .noted, by simp [hpast], hopens, by simpa using hsaves,
        by simpa using hchanges⟩
      saved := by
        -- what the act has changed is pending now, and the rest is as it was
        rw [History.changes_append, History.changes_notes, List.append_nil]
        refine ⟨hpq.id.trans h.saved.id, hpq.username.trans h.saved.username,
          hpq.map.trans h.saved.map, fun e => ?_, fun e => ?_⟩
        · have : t.pending.items = false := Bool.eq_false_iff.2 fun e' => by simp [hu.items e'] at e
          exact (hpq.items e).trans (h.saved.items this)
        · have : t.pending.position = false :=
            Bool.eq_false_iff.2 fun e' => by simp [hu.position e'] at e
          obtain ⟨hx, hy⟩ := h.saved.place this
          exact ⟨(hpq.place e).1.trans hx, (hpq.place e).2.trans hy⟩
      status := by simpa using h.status }

/-- A turn that has looked up a room is still under way. -/
theorem lookUp (h : s.Underway username map start past t p) {x y : Int} {m : String}
    {answer : (Query.findRoom x y m).Answer} (hanswer : ¬Query.Fails _ answer) :
    s.Underway username map start (past ++ [.asked (.findRoom x y m) answer]) t p := by
  obtain ⟨opening, rest, hpast, hopens, hsaves, hchanges⟩ := h.opens
  exact
    { h with
      sound := by simpa [hanswer] using h.sound
      quiet := by simpa using h.quiet
      opens := ⟨opening, rest ++ [.asked (.findRoom x y m) answer], by simp [hpast], hopens,
        by simpa using hsaves, by simpa using hchanges⟩
      saved := by simpa using h.saved
      status := by simpa using h.status }

/-- The turn works with the player it began with. -/
theorem id_eq (h : s.Underway username map start past t p) : p.id = start.id := by
  rw [h.saved.id, Change.foldl_applyTo_id]

/-- A turn that saves a change of its player is still under way, with less pending. -/
theorem save (h : s.Underway username map start past t p) {c : Change} (hc : c.isStatus = false)
    (answer : (Query.updatePlayer p.id c).Answer) {todo : Pending}
    (htodo : (Change.applyTo (past.changes.foldl Change.applyTo start) c).ChangedWithin todo p) :
    s.Underway username map start
      (past ++ [.asked (.updatePlayer p.id c) answer] ++
        (Script.saveNotes p c answer).map .noted)
      { t with pending := todo } p := by
  obtain ⟨opening, rest, hpast, hopens, hsaves, hchanges⟩ := h.opens
  have hnotes := isEnding_of_mem_saveNotes p c answer
  exact
    { player := h.player
      statusAtEntry := h.statusAtEntry
      error := h.error
      isComplete := h.isComplete
      notes := h.notes
      sound := by simpa [Query.Fails] using h.sound
      quiet := by simpa [h.quiet] using hnotes
      opens := ⟨opening, rest ++ [.asked (.updatePlayer p.id c) answer] ++
        (Script.saveNotes p c answer).map .noted, by simp [hpast], hopens,
        by simpa [h.id_eq] using hsaves, by simp [hchanges]⟩
      saved := by simpa using htodo
      status := by simpa [or_imp, forall_and, hc] using h.status }

end Underway

/-! ### The parts of a turn -/

section Parts

variable {s} {username map : String} {start p : Player} {past : History} {t : Turn}

/-- A part goes on with the next one while the turn is under way. -/
theorem Midway.andThen {R R' : Turn → Prop} {r : Run} {next : Turn → Run}
    (hr : r.Always (s.Midway username map start R) past)
    (hnext : ∀ g t p, s.Underway username map start g t p → R t →
      (next t).Always (s.Midway username map start R') g) :
    (r.andThen next).Always (s.Midway username map start R') past := by
  refine hr.andThen (fun g t ht => ?_) fun g t halt ht => ?_
  · obtain ⟨⟨p, hp⟩, hR⟩ := ht
    exact hnext g t p hp hR
  · cases halt with
    | storage e => exact ht
    | crash c => exact ht

/-- An act that is passed on is a part of the turn. -/
theorem Underway.pass (h : s.Underway username map start past t p) {step : Turn × Option Crash}
    (hstep : t.Onward step.1) (hcrash : s.Usable → step.2 = none) :
    (Run.pass step).Always (s.Midway username map start fun _ => True) past := by
  obtain ⟨u, crash⟩ := step
  match crash with
  | none => exact ⟨h.act hstep, trivial⟩
  | some c => exact fun hs => by simpa using hcrash hs

/-- An answer to the look-up of a room that gives an error is a failure. -/
theorem fails_of_roomFound {x y : Int} {m : String} {answer : (Query.findRoom x y m).Answer}
    {e : StorageError} (h : Script.roomFound x y m answer = .error e) :
    Query.Fails (.findRoom x y m) answer := by
  match answer with
  | .error _ => trivial
  | .ok none => cases h
  | .ok (some record) =>
    simp only [Script.roomFound] at h
    split at h
    · cases h
    · next problems hread => exact ⟨problems, hread⟩

theorem not_fails_of_roomFound {x y : Int} {m : String} {answer : (Query.findRoom x y m).Answer}
    {room : Option Room} (h : Script.roomFound x y m answer = .ok room) :
    ¬Query.Fails (.findRoom x y m) answer := by
  match answer with
  | .error _ => cases h
  | .ok none => exact id
  | .ok (some record) =>
    rintro ⟨problems, hread⟩
    simp [Script.roomFound, hread] at h

/-- Looking up the room and entering it. -/
theorem enter_course
    (h : s.Underway username map start past
      { t with statusAtEntry := t.statusAtEntry.or (some p.status) } p) :
    (s.enter t).Always (s.Midway username map start fun _ => True) past := by
  unfold enter
  split
  · next hnone => exact absurd (hnone.symm.trans h.player) (by simp)
  · next q hq =>
    obtain rfl : q = p := Option.some.inj (hq.symm.trans h.player)
    intro answer
    match hroom : Script.roomFound q.x q.y q.map answer with
    | .error e =>
      simp only [Script.bind, hroom]
      exact
        { isComplete := h.isComplete
          notes := h.notes
          fails := by simp [fails_of_roomFound hroom]
          quiet := by simpa using h.quiet
          status := by simpa using h.status }
    | .ok room =>
      simp only [Script.bind, hroom]
      exact (h.lookUp (not_fails_of_roomFound hroom)).pass (s.arrive_onward _ _ _)
        fun hs => hs.arrive _ _ _

theorem persistItems_course (h : s.Underway username map start past t p) :
    (persistItems p t).Always
      (fun g u => s.Underway username map start g u p ∧ u.pending.items = false) past := by
  unfold persistItems
  split
  · intro answer
    refine ⟨h.save rfl answer ?_, rfl⟩
    exact ⟨h.saved.id, h.saved.username, h.saved.map, fun _ => rfl, h.saved.place⟩
  · next hitems => exact ⟨h, by simpa using hitems⟩

theorem persistPosition_course (h : s.Underway username map start past t p) :
    (persistPosition p t).Always
      (fun g u => s.Underway username map start g u p ∧ u.pending.items = t.pending.items ∧
        u.pending.position = false) past := by
  unfold persistPosition
  split
  · intro answer
    refine ⟨h.save rfl answer ?_, rfl, rfl⟩
    exact ⟨h.saved.id, h.saved.username, h.saved.map, h.saved.items, fun _ => ⟨rfl, rfl⟩⟩
  · next hposition => exact ⟨h, rfl, by simpa using hposition⟩

/-- Nothing of the player is left to be saved. -/
def Persisted (t : Turn) : Prop := t.pending.items = false ∧ t.pending.position = false

/-- Saving what has changed. -/
theorem persist_course (h : s.Underway username map start past t p) :
    (persist t).Always (fun g u => s.Underway username map start g u p ∧ Persisted u) past := by
  unfold persist
  rw [h.player]
  refine ((persistItems_course h).imp fun g u hu => ?_).bind
  refine (persistPosition_course hu.1).imp fun g' v hv => ⟨hv.1, hv.2.1.trans hu.2, hv.2.2⟩

/-- Announcing the rooms that the player comes to. -/
theorem announce_course (n : Nat) (h : s.Underway username map start past t p)
    (hsaved : Persisted t) :
    (s.announce n t).Always
      (s.Midway username map start fun u => Persisted u ∧ u.pending.arrival = false) past := by
  -- every room may send the player on, so the induction is on how many more may be entered
  induction n generalizing past t p with
  | zero =>
    unfold announce
    split
    · -- the chain is cut off here, and the room that the player has come to is not announced
      have hcut : t.Onward
          ({ t with pending := { t.pending with arrival := false } }.log
            (.chainCutOff t.username maxRoomChain)) :=
        (t.arrival_onward t.room false).trans (Turn.log_onward _ _)
      exact ⟨h.act hcut, hsaved, rfl⟩
    · next harrival => exact ⟨⟨p, h⟩, hsaved, by simpa using harrival⟩
  | succ n ih =>
    unfold announce
    split
    · have hentry : t.statusAtEntry.or (some p.status) = t.statusAtEntry := by
        rw [h.statusAtEntry]; rfl
      refine Midway.andThen (enter_course (p := p) (by rwa [hentry])) fun g u q hu _ => ?_
      refine ((persist_course hu).imp fun g' v hv => ?_).bind
      exact ih hv.1 hv.2
    · next harrival => exact ⟨⟨p, h⟩, hsaved, by simpa using harrival⟩

/-- The turn has saved and announced everything. -/
structure Settled (s : Setting) (username map : String) (past : History) (t : Turn) : Prop where
  error : t.error = none
  isComplete : t.isComplete = false
  notes : t.notes = []
  pending : t.pending = .none
  sound : ¬past.Fails
  quiet : past.Quiet
  saved : ∃ start p opening rest, t.player = some p ∧ past = opening ++ rest ∧
    s.Opens username map opening start ∧ rest.Saves start.id ∧
    rest.changes.foldl Change.applyTo start = p

/-- The messages about the status are among those that a turn may need. -/
theorem mem_messageKeys_of_statusKeys {status : Status} {keys : String × String}
    (h : statusKeys status = some keys) : keys.1 ∈ messageKeys ∧ keys.2 ∈ messageKeys := by
  cases status with
  | alive => cases h
  | dead =>
    obtain rfl := Option.some.inj h
    decide
  | win =>
    obtain rfl := Option.some.inj h
    decide

/-- What is said about the status is a reply. -/
theorem remind_eq (s : Setting) (t : Turn) (p : Player) :
    ∃ rs crash, s.remind t p = ({ t with replies := rs }, crash) ∧ (s.Usable → crash = none) := by
  unfold remind
  split
  · exact ⟨_, _, rfl, fun _ => rfl⟩
  · next keys hkeys =>
    exact ⟨_, _, Prod.ext (t.say_eq _ _) rfl,
      fun hs => hs.say t (mem_messageKeys_of_statusKeys hkeys).2⟩

theorem tellStatus_eq (s : Setting) (t : Turn) (p : Player) :
    ∃ rs crash, s.tellStatus t p = ({ t with replies := rs }, crash) ∧
      (s.Usable → crash = none) := by
  unfold tellStatus
  split
  · exact ⟨_, _, rfl, fun _ => rfl⟩
  · next keys hkeys =>
    exact ⟨_, _, Prod.ext (t.say_eq _ _) rfl,
      fun hs => hs.say t (mem_messageKeys_of_statusKeys hkeys).1⟩

/-- Announcing and saving the status. -/
theorem announceStatus_course (h : s.Underway username map start past t p) (hsaved : Persisted t)
    (harrival : t.pending.arrival = false) :
    (s.announceStatus t).Always
      (fun g x => match x with
        | (u, none) => s.Settled username map g u
        | (_, some _) => ¬s.Usable) past := by
  obtain ⟨opening, rest, hpast, hopens, hsaves, hchanges⟩ := h.opens
  have hp := h.saved.eq_of_saved hsaved.1 hsaved.2
  have hpending : { t.pending with status := false } = Pending.none := by
    obtain ⟨hitems, hposition⟩ := hsaved
    simp [Pending.none, hitems, hposition, harrival]
  unfold announceStatus
  split
  · next hnone => exact absurd (hnone.symm.trans h.player) (by simp)
  · next q hq =>
    obtain rfl : q = p := Option.some.inj (hq.symm.trans h.player)
    split
    · next hsame =>
      -- the status is the one that the saved player has
      have hstatus : start.status = q.status :=
        Option.some.inj (h.statusAtEntry.symm.trans hsame)
      obtain ⟨rs, crash, hsaid, husable⟩ := remind_eq s t q
      rw [hsaid]
      match crash with
      | some c => exact fun hs => by simpa using husable hs
      | none =>
        exact
          { error := h.error
            isComplete := h.isComplete
            notes := rfl
            pending := hpending
            sound := by simpa using h.sound
            quiet := by simpa [h.notes] using h.quiet
            saved := by
              refine ⟨start, q, opening, rest, h.player, by simp [hpast, h.notes], hopens, hsaves, ?_⟩
              rw [hchanges, hp, ← hstatus, ← Change.foldl_applyTo_status h.status start] }
    · -- the status is the last thing that is saved, and with it nothing is pending
      obtain ⟨rs, crash, hsaid, husable⟩ := tellStatus_eq s t q
      rw [hsaid]
      match crash with
      | some c => exact fun hs => by simpa using husable hs
      | none =>
        intro answer
        have hnotes := isEnding_of_mem_saveNotes q (.status q.status) answer
        exact
          { error := h.error
            isComplete := h.isComplete
            notes := rfl
            pending := hpending
            sound := by simpa [h.notes, Query.Fails] using h.sound
            quiet := by simpa [h.notes, h.quiet, Note.isEnding] using hnotes
            saved := by
              refine ⟨start, q, opening, rest ++ .noted (.log (.statusChanged q.username
                t.statusAtEntry q.status)) :: .asked (.updatePlayer q.id (.status q.status)) answer ::
                (Script.saveNotes q (.status q.status) answer).map .noted, h.player, ?_, hopens, ?_,
                ?_⟩
              · simp [hpast, h.notes]
              · simp [hsaves, h.id_eq]
              · simp only [History.changes_append, hchanges, History.changes_noted_cons,
                  History.changes_update_cons, History.changes_notes, List.foldl_append]
                exact hp.symm }

end Parts

/-! ### The whole turn -/

/-- A turn that went well: everything is saved, and its replies are handed out after all it has
asked. -/
structure Delivered (username map : String) (h : History) (t : Turn) : Prop where
  error : t.error = none
  pending : t.pending = .none
  room : t.room = none
  isComplete : t.isComplete = true
  sound : ¬h.Fails
  ending : ∃ before : History, h = before ++ t.handedOut.map .noted ∧ before.Quiet
  saved : ∃ start p opening rest, t.player = some p ∧ h = opening ++ rest ∧
    s.Opens username map opening start ∧ rest.Saves start.id ∧
    rest.changes.foldl Change.applyTo start = p

/-- How a turn ends, unless it breaks off for want of a message. -/
def Ends (username map : String) (h : History) (x : Turn × Option Halt) : Prop :=
  match x with
  | (t, none) => s.Delivered username map h t ∨ t.GivenUp h
  | (_, some _) => ¬s.Usable

section Ending

variable {s} {username map : String} {past : History} {t : Turn}

theorem conclude_eq (h : t.isComplete = false) :
    conclude t = .note (t.notes ++ [.completed])
      (.done ({ t with room := none, isComplete := true, notes := [] }, none)) := by
  simp [conclude, Run.pass, Turn.complete, Turn.note, h]

/-- Handing out the replies. -/
theorem finish_course {start p : Player} (h : s.Underway username map start past t p)
    (hsaved : Persisted t) (harrival : t.pending.arrival = false) :
    (s.finish t).Always (s.Ends username map) past := by
  unfold finish
  rw [h.error]
  refine ((announceStatus_course h hsaved harrival).imp fun g x hx => ?_).bind
  match x, hx with
  | (_, some _), hx => exact hx
  | (u, none), hx =>
    obtain ⟨start, p, opening, rest, hp, hpast, hopens, hsaves, hchanges⟩ := hx.saved
    show (conclude { u with notes := u.notes ++ u.replies.map .replied }).Always _ g
    rw [conclude_eq (by exact hx.isComplete), hx.notes]
    exact .inl
      { error := hx.error
        pending := hx.pending
        room := rfl
        isComplete := rfl
        sound := by
          show ¬History.Fails (g ++ u.handedOut.map .noted)
          simpa only [History.fails_append, History.not_fails_notes, or_false] using hx.sound
        ending := ⟨g, rfl, hx.quiet⟩
        saved := ⟨start, p, opening, rest ++ u.handedOut.map .noted, hp,
          by simp [hpast, Turn.handedOut], hopens, by simpa using hsaves, by simpa using hchanges⟩ }

/-- Giving a turn up. -/
theorem giveUp_course (h : t.Stalled past) (e : StorageError) :
    (s.finish { t with error := some e }).Always (s.Ends username map) past := by
  show (conclude (Turn.log { t with error := some e, replies := [] } _)).Always _ past
  rw [conclude_eq (by exact h.isComplete)]
  refine .inr
    { error := by simp [Turn.log, Turn.note]
      replies := rfl
      room := rfl
      isComplete := rfl
      fails := by simp [h.fails]
      ending := ⟨past ++ [.noted (.log (.turnFailed e.message
        ({ t with error := some e } : Turn).describe))], ?_, ?_⟩
      status := by simpa using h.status }
  · simp [Turn.log, Turn.note, h.notes]
  · simpa [Note.isEnding] using h.quiet

/-- An answer to an insertion that gives an error is a failure. -/
theorem fails_of_playerCreated {record : Fields} {p : Player}
    {answer : (Query.insertPlayer record).Answer} {e : StorageError}
    (h : Script.playerCreated p answer = .error e) : Query.Fails (.insertPlayer record) answer := by
  match answer with
  | .error _ => trivial
  | .ok stored =>
    simp only [Script.playerCreated] at h
    split at h
    · next hid => exact .inl hid
    · next hid => exact .inr hid
    · cases h

theorem eq_of_playerCreated {p q : Player} {answer : Except StorageError Fields}
    (h : Script.playerCreated p answer = .ok q) :
    ∃ stored id, answer = .ok stored ∧ stored.get? "_id" = some id ∧ id ≠ .null ∧
      q = { p with id } := by
  match answer with
  | .error _ => cases h
  | .ok stored =>
    simp only [Script.playerCreated] at h
    split at h
    · cases h
    · cases h
    · next id hnull hid => exact ⟨stored, id, rfl, hid, hnull, (Except.ok.inj h).symm⟩

/-- Getting the player of a new turn. -/
theorem identify_course (line username map : String) :
    (s.identify (.start line username map)).Always
      (fun g x => match x with
        | (t, none) => ∃ p, s.Underway username map p g
            { t with statusAtEntry := t.statusAtEntry.or (some p.status) } p
        | (t, some (.storage _)) => t.Stalled g
        | (_, some (.crash _)) => ¬s.Usable) [] := by
  intro answer
  match answer with
  | .error e =>
    exact
      { isComplete := rfl, notes := rfl, status := by simp [History.changes], quiet := by simp
        fails := by simp [Query.Fails] }
  | .ok (some record) =>
    cases hread : Player.read (.table record) with
    | invalid problems =>
      simp only [Script.playerFound, hread, Script.bind]
      exact
        { isComplete := rfl, notes := rfl, status := by simp [History.changes], quiet := by simp
          fails := by simp [Query.Fails, hread] }
    | valid p =>
      simp only [Script.playerFound, hread, Script.bind]
      refine ⟨p, ?_⟩
      exact
        { player := rfl, statusAtEntry := rfl, error := rfl, isComplete := rfl, notes := rfl
          sound := by simp [Query.Fails, hread]
          quiet := by simp
          opens := ⟨_, [], (List.append_nil _).symm, .found record p hread, by simp, rfl⟩
          saved := .refl _ p
          status := by simp [History.changes] }
  | .ok none =>
    cases hplace : s.origin.start with
    | error d =>
      -- the origin gives no place to start from, so the setting cannot be used
      rintro ⟨⟨x, y, horigin⟩, -, -⟩
      simp [horigin] at hplace
    | ok place =>
      simp only [Script.playerFound, Script.bind, Turn.start]
      intro answer
      cases hcreated : Script.playerCreated
          (Player.atPosition username map place.1 place.2) answer with
      | error e =>
        simp only [hcreated, Script.bind]
        exact
          { isComplete := rfl, notes := rfl, status := by simp [History.changes], quiet := by simp
            fails := by simp [fails_of_playerCreated hcreated] }
      | ok p =>
        simp only [hcreated, Script.bind]
        -- the turn begins with the player as it was stored, under the identity that it was given
        obtain ⟨stored, id, rfl, hid, hnull, rfl⟩ := eq_of_playerCreated hcreated
        refine ⟨{ Player.atPosition username map place.1 place.2 with id }, ?_⟩
        exact
          { player := rfl, statusAtEntry := rfl, error := rfl, isComplete := rfl, notes := rfl
            sound := by simp [Query.Fails, hid, hnull]
            quiet := by simp [Note.isEnding]
            opens := ⟨_, [], (List.append_nil _).symm, .created place hplace stored id hid hnull,
              by simp, rfl⟩
            saved := .refl _ _
            status := by simp [History.changes] }

/-- The course of a turn up to its last announcement. -/
theorem advanceTurn_course (line username map : String) :
    (s.advanceTurn (.start line username map)).Always
      (fun g x => ∃ start, s.Midway username map start
        (fun u => Persisted u ∧ u.pending.arrival = false) g x) [] := by
  refine Script.Always.bind ((identify_course line username map).imp fun g x hx => ?_)
  match x, hx with
  -- a turn that stops before it has its player could have begun with anybody
  | (t, some (.storage _)), hx => exact ⟨.atPosition username map 0 0, hx⟩
  | (t, some (.crash _)), hx => exact ⟨.atPosition username map 0 0, hx⟩
  | (t, none), ⟨start, hstart⟩ =>
    refine Script.Always.imp ?_ fun _ _ h => ⟨start, h⟩
    refine Midway.andThen (enter_course hstart) fun g t p ht _ => ?_
    refine Midway.andThen (ht.pass (s.dispatch_onward t) fun hs => hs.dispatch t) fun g t p ht _ => ?_
    exact ((persist_course ht).imp fun g t ht => announce_course maxRoomChain ht.1 ht.2).bind

/-- Whatever the store answers, a turn is delivered or given up, unless the messages cannot be
used. -/
theorem play_course (line username map : String) :
    (s.play (.start line username map)).Always (s.Ends username map) [] := by
  refine Script.Always.bind ((advanceTurn_course line username map).imp fun g x hx => ?_)
  match x, hx with
  | (_, some (.crash _)), ⟨_, hx⟩ => exact hx
  | (_, some (.storage e)), ⟨_, hx⟩ => exact giveUp_course hx e
  | (_, none), ⟨_, ⟨_, hx⟩, hsaved, harrival⟩ => exact finish_course hx hsaved harrival

/-- With usable messages a turn runs to its end over every store. -/
theorem Usable.run_play {σ : Type} (hs : s.Usable) (b : Backend σ) (store : σ)
    (line username map : String) :
    ∃ u, ((s.play (.start line username map)).run b store).1 = (u, none) ∧
      (s.Delivered username map ((s.play (.start line username map)).history b store) u ∨
        u.GivenUp ((s.play (.start line username map)).history b store)) := by
  have hends := (play_course (s := s) line username map).of_run b store
  match hrun : ((s.play (.start line username map)).run b store).1 with
  | (u, none) => exact ⟨u, rfl, by simpa [hrun, Ends] using hends⟩
  | (_, some _) => exact absurd hs (by simpa [hrun, Ends] using hends)

end Ending

end Setting

end TextAdventure
