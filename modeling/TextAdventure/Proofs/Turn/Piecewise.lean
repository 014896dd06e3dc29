import TextAdventure.Proofs.Turn.Lifetime

/-!
# Turns piece by piece

The notes of a turn are those of its acts, put one behind the other, and so are its replies. In two of
the acts something is done to the player, when a line is acted upon and when a room is come to; all else
only reports, or tells one of the messages. So a statement about notes and replies holds of every turn
if it holds of none at all and stays true under these two acts, behind reports and with such messages
(`Setting.HoldsPiecewise`, `play_holdsPiecewise`).

Nothing has to be known about the state of a turn when it acts, except that its notes have been passed
on by then.
-/

namespace TextAdventure

namespace Setting

/-- A statement about the notes of a turn and its replies so far can be put together: it stays true
when reports are noted, when messages are told that a turn may need, and when the replies are dropped;
and the two acts in which something is done keep it. -/
structure HoldsPiecewise (s : Setting) (P : List Note → List Value → Prop) : Prop where
  nil : P [] []
  report {ns ms : List Note} {rs : List Value} :
    P ns rs → (∀ m ∈ ms, m.isDeed = false) → P (ns ++ ms) rs
  tell {ns : List Note} {rs : List Value} {key : String} {message : Value} :
    P ns rs → key ∈ messageKeys → s.messages.entry key = .ok message → P ns (rs ++ [message])
  drop {ns : List Note} {rs : List Value} : P ns rs → P ns []
  dispatch {ns : List Note} {t : Turn} : t.notes = [] → P ns t.replies →
    P (ns ++ (s.dispatch t).1.notes) (s.dispatch t).1.replies
  arrive {ns : List Note} {t : Turn} : t.notes = [] → P ns t.replies → ∀ p room,
    P (ns ++ (s.arrive t p room).1.notes) (s.arrive t p room).1.replies

/-- The end of a part of a turn, halted or not: its notes and replies satisfy a statement, and the notes
have been passed on. -/
def HasNoted (P : List Note → List Value → Prop) (h : History) (x : Turn × Option Halt) : Prop :=
  P h.notes x.1.replies ∧ x.1.notes = []

variable {s : Setting} {P : List Note → List Value → Prop} {past : History} {t : Turn}

theorem HasNoted.andThen {r : Run} {next : Turn → Run} (hr : r.Always (HasNoted P) past)
    (hnext : ∀ g t, P (History.notes g) t.replies → t.notes = [] →
      (next t).Always (HasNoted P) g) :
    (r.andThen next).Always (HasNoted P) past :=
  hr.andThen (fun g t ht => hnext g t ht.1 ht.2) fun _ _ _ ht => ht

/-- An act is passed on. -/
theorem HasNoted.pass {step : Turn × Option Crash}
    (hstep : P (past.notes ++ step.1.notes) step.1.replies) :
    (Run.pass step).Always (HasNoted P) past := by
  refine ⟨?_, rfl⟩
  rw [History.notes_append, History.notes_map_noted]
  exact hstep

/-- Saving the items and the position replies nothing. -/
theorem persist_replies (past : History) (t : Turn) :
    (persist t).Always (fun _ u => u.replies = t.replies) past := by
  unfold persist
  split
  · rfl
  · next p _ =>
    have hitems : (persistItems p t).Always (fun _ u => u.replies = t.replies) past := by
      unfold persistItems
      split
      · exact fun _ => rfl
      · rfl
    refine (hitems.imp fun g u hu => ?_).bind
    unfold persistPosition
    split
    · exact fun _ => hu
    · exact hu

namespace HoldsPiecewise

variable (hP : s.HoldsPiecewise P)
include hP

/-- A message is told, if it is found. -/
theorem say {ns : List Note} (ht : P ns t.replies) {key : String} (hkey : key ∈ messageKeys) :
    P ns (t.say s.messages key).1.replies := by
  unfold Turn.say
  split
  · next message hmessage => exact hP.tell ht hkey hmessage
  · exact ht

section Parts

variable (hpast : P past.notes t.replies)
include hpast

/-- A turn is completed. -/
theorem conclude (ht : ∀ n ∈ t.notes, n.isDeed = false) :
    (conclude t).Always (HasNoted P) past := by
  unfold Setting.conclude Turn.complete
  split
  · exact HasNoted.pass (hP.report hpast ht)
  · refine HasNoted.pass (hP.report hpast ?_)
    exact List.forall_mem_append.2 ⟨ht, List.forall_mem_singleton.2 rfl⟩

variable (ht : t.notes = [])
include ht

/-- The room of the player is looked up and entered. -/
theorem enter : (s.enter t).Always (HasNoted P) past := by
  unfold Setting.enter
  split
  · exact ⟨hpast, ht⟩
  · next p _ =>
    intro answer
    have hlook : P (History.notes (past ++ [.asked (.findRoom p.x p.y p.map) answer])) t.replies := by
      rw [History.notes_append]
      exact hP.report hpast (List.forall_mem_nil _)
    cases hroom : Script.roomFound p.x p.y p.map answer with
    | error e =>
      simp only [Script.bind, hroom]
      exact ⟨hlook, ht⟩
    | ok room =>
      simp only [Script.bind, hroom]
      exact HasNoted.pass (hP.arrive (by exact ht) (by exact hlook) p room)

/-- Whatever has changed is saved. -/
theorem persist :
    (persist t).Always (fun h u => P h.notes u.replies ∧ u.notes = []) past := by
  refine ((OnlyReports.persist past t).and (persist_replies past t)).imp ?_
  rintro h u ⟨⟨_, _, hnotes, ms, hh, hms⟩, hreplies⟩
  rw [hh, hreplies]
  exact ⟨hP.report hpast hms, hnotes.trans ht⟩

/-- The rooms that the player has come to are announced. -/
theorem announce (n : Nat) : (s.announce n t).Always (HasNoted P) past := by
  -- every room may send the player on, so the induction is on how many more may be entered
  induction n generalizing past t with
  | zero =>
    unfold Setting.announce
    split
    · refine HasNoted.pass (hP.report hpast ?_)
      show ∀ n ∈ t.notes ++ [_], n.isDeed = false
      rw [ht]
      exact List.forall_mem_singleton.2 rfl
    · exact ⟨hpast, ht⟩
  | succ n ih =>
    unfold Setting.announce
    split
    · refine HasNoted.andThen (hP.enter hpast ht) fun g u hg hu => ?_
      exact ((hP.persist hg hu).imp fun g' v hv => ih hv.1 hv.2).bind
    · exact ⟨hpast, ht⟩

/-- The line is acted upon, and where that leads is announced. -/
theorem goOn : (s.goOn t).Always (HasNoted P) past := by
  refine HasNoted.andThen (hP.enter hpast ht) fun g u hg hu => ?_
  refine HasNoted.andThen (HasNoted.pass (hP.dispatch hu hg)) fun g' v hg' hv => ?_
  exact ((hP.persist hg' hv).imp fun g'' w hw => hP.announce hw.1 hw.2 maxRoomChain).bind

/-- A message about the status is told. -/
theorem tellAt {key : String} (hkey : key ∈ messageKeys) :
    (Run.pass (t.say s.messages key)).Always (HasNoted P) past := by
  refine HasNoted.pass ?_
  have hnotes : (t.say s.messages key).1.notes = [] := by
    rw [Turn.say_eq]
    exact ht
  rw [hnotes, List.append_nil]
  exact hP.say hpast hkey

theorem remind (p : Player) : (Run.pass (s.remind t p)).Always (HasNoted P) past := by
  unfold Setting.remind
  split
  · exact HasNoted.pass (by rwa [ht, List.append_nil])
  · next keys hkeys => exact hP.tellAt hpast ht (mem_messageKeys_of_statusKeys hkeys).2

theorem tellStatus (p : Player) : (Run.pass (s.tellStatus t p)).Always (HasNoted P) past := by
  unfold Setting.tellStatus
  split
  · exact HasNoted.pass (by rwa [ht, List.append_nil])
  · next keys hkeys => exact hP.tellAt hpast ht (mem_messageKeys_of_statusKeys hkeys).1

/-- The status is announced and saved. -/
theorem announceStatus : (s.announceStatus t).Always (HasNoted P) past := by
  unfold Setting.announceStatus
  split
  · exact ⟨hpast, ht⟩
  · next p _ =>
    split
    · exact HasNoted.andThen (hP.remind hpast ht p) fun g u hg hu => ⟨hg, hu⟩
    · refine HasNoted.andThen (hP.tellStatus hpast ht p) fun g u hg hu answer => ⟨?_, hu⟩
      have hreports : ∀ m ∈ .log (.statusChanged p.username u.statusAtEntry p.status) ::
          Script.saveNotes p (.status p.status) answer, m.isDeed = false :=
        List.forall_mem_cons.2 ⟨rfl, isDeed_of_mem_saveNotes p _ answer⟩
      show P _ u.replies
      simpa [History.notes] using hP.report hg hreports

/-- The replies are handed out, or the failure is reported. -/
theorem finish : (s.finish t).Always (HasNoted P) past := by
  unfold Setting.finish
  split
  · refine hP.conclude (hP.drop hpast) ?_
    show ∀ n ∈ t.notes ++ [_], n.isDeed = false
    rw [ht]
    exact List.forall_mem_singleton.2 rfl
  · refine HasNoted.andThen (hP.announceStatus hpast ht) fun g u hg hu => ?_
    refine hP.conclude hg fun n hn => ?_
    rw [hu, List.nil_append] at hn
    obtain ⟨r, -, rfl⟩ := List.mem_map.1 hn
    rfl

end Parts

/-- A turn is brought to its end. -/
theorem wrapUp {x : Turn × Option Halt} (hx : HasNoted P past x) :
    (s.wrapUp x).Always (HasNoted P) past := by
  match x, hx with
  | (t, none), ⟨hpast, ht⟩ => exact hP.finish hpast ht
  | (t, some (.storage e)), ⟨hpast, ht⟩ =>
    show (s.finish { t with error := some e }).Always _ _
    exact hP.finish hpast ht
  | (t, some (.crash c)), hx => exact hx

/-- A turn that has got its player is brought to its end. -/
theorem resume (hpast : P past.notes t.replies) (ht : t.notes = []) :
    ((s.goOn t).bind s.wrapUp).Always (HasNoted P) past :=
  ((hP.goOn hpast ht).imp fun _ _ => hP.wrapUp).bind

end HoldsPiecewise

/-- Whatever the store answers, the notes and the replies of a turn satisfy all that can be put together
from their pieces. -/
theorem play_holdsPiecewise (hP : s.HoldsPiecewise P) (line username map : String) :
    (s.play (.start line username map)).Always (HasNoted P) [] := by
  rw [play_eq_ask]
  intro answer
  show (s.resume (.start line username map) (Script.playerFound username answer)).Always _ _
  rw [resume_eq]
  cases hfound : Script.playerFound username answer with
  | error e => exact hP.wrapUp ⟨hP.nil, rfl⟩
  | ok found =>
    cases found with
    | some p => exact hP.resume hP.nil rfl
    | none =>
      simp only [meet]
      cases hplace : s.origin.start with
      | error d => exact hP.wrapUp ⟨hP.nil, rfl⟩
      | ok place =>
        intro stored
        cases hcreated : Script.playerCreated
            (Player.atPosition username map place.1 place.2) stored with
        | error e =>
          simp only [Turn.start, hcreated]
          exact hP.wrapUp ⟨hP.nil, rfl⟩
        | ok p =>
          simp only [Turn.start, hcreated]
          refine hP.resume ?_ rfl
          exact hP.report hP.nil (List.forall_mem_singleton.2 rfl)

end Setting

end TextAdventure
