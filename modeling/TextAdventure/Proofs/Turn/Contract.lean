import TextAdventure.Proofs.Script.Contract
import TextAdventure.Proofs.Turn.Course

/-!
# Turns under a contract

A turn that keeps a contract is followed part by part (`Setting.LeadsTo`). Two parts are the same
under every contract that admits them (`Contract.Admits`): saving what has changed leaves the turn as
it is but for what is pending (`Setting.OnlySaves.persist`), and a turn that went well is brought to
its end without any change of its player (`Setting.finish_keeps`).
-/

namespace TextAdventure

/-- A turn goes on with the next part, unless it is halted. -/
theorem Script.Keeps.andThen {c : Contract} {P : List Note → Turn × Option Halt → Prop}
    {past : List Note} {r : Run} {next : Turn → Run}
    (h : r.Keeps c (fun ns x => x.2 = none ∧ (next x.1).Keeps c P ns) past) :
    (r.andThen next).Keeps c P past := by
  refine Script.Keeps.bind (h.imp ?_)
  rintro ns ⟨t, halt⟩ ⟨hhalt, hnext⟩
  subst hhalt
  exact hnext

/-- The notes on what was saved and on what is handed out. -/
def Note.isClerical : Note → Bool
  | .log (.updateFailed ..) | .log (.updateMissed ..) | .log (.statusChanged ..) => true
  | .replied _ | .completed => true
  | _ => false

theorem isClerical_of_mem_saveNotes (p : Player) (change : Change)
    (answer : Except StorageError Bool) :
    ∀ n ∈ Script.saveNotes p change answer, n.isClerical = true := by
  match answer with
  | .error e => exact List.forall_mem_singleton.2 rfl
  | .ok false => exact List.forall_mem_singleton.2 rfl
  | .ok true => exact List.forall_mem_nil _

/-- The contract lets a turn save its player as the player is, and hand out what it has to say. -/
structure Contract.Admits (c : Contract) (p : Player) : Prop where
  saves : ∀ change : Change, change.applyTo p = p → c.Asks (.updatePlayer p.id change)
  tells : ∀ n : Note, n.isClerical = true → c.Tells n

namespace Setting

/-- A part of a turn leads on: it is not halted, all its notes are passed on, and its player is as
`R` says. -/
def LeadsTo (R : List Note → Turn → Player → Prop) (ns : List Note) (x : Turn × Option Halt) : Prop :=
  x.2 = none ∧ x.1.notes = [] ∧ x.1.error = none ∧ x.1.isComplete = false ∧ ∃ p, R ns x.1 p

variable {c : Contract} {past : List Note} {t u : Turn} {p : Player}
  {R : List Note → Turn → Player → Prop}

theorem LeadsTo.andThen {P : List Note → Turn × Option Halt → Prop} {r : Run} {next : Turn → Run}
    (h : r.Keeps c (LeadsTo R) past)
    (hnext : ∀ ns t p, t.notes = [] → t.error = none → t.isComplete = false → R ns t p →
      (next t).Keeps c P ns) : (r.andThen next).Keeps c P past := by
  refine Script.Keeps.andThen (h.imp fun ns x hx => ?_)
  obtain ⟨hhalt, hnotes, herror, hcomplete, p, hp⟩ := hx
  exact ⟨hhalt, hnext ns x.1 p hnotes herror hcomplete hp⟩

/-- An act is passed on. -/
theorem LeadsTo.pass {step : Turn × Option Crash} (hstep : t.Onward step.1)
    (hcrash : step.2 = none) (herror : t.error = none) (hcomplete : t.isComplete = false)
    (htells : ∀ n ∈ step.1.notes, c.Tells n)
    (hR : R (past ++ step.1.notes) { step.1 with notes := [] } p) :
    (Run.pass step).Keeps c (LeadsTo R) past := by
  refine ⟨htells, ?_, rfl, hstep.error.trans herror, hstep.isComplete.trans hcomplete, p, hR⟩
  rw [hcrash]
  rfl

/-- What has been noted since then is on what was saved and handed out. -/
def OnlyClerical (past ns : List Note) : Prop :=
  ∃ ms, ns = past ++ ms ∧ ∀ m ∈ ms, m.isClerical = true

theorem OnlyClerical.refl (past : List Note) : OnlyClerical past past :=
  ⟨[], (List.append_nil _).symm, List.forall_mem_nil _⟩

theorem OnlyClerical.trans {ns ns' : List Note} (h : OnlyClerical past ns)
    (h' : OnlyClerical ns ns') : OnlyClerical past ns' := by
  obtain ⟨ms, rfl, hms⟩ := h
  obtain ⟨ms', rfl, hms'⟩ := h'
  exact ⟨ms ++ ms', List.append_assoc _ _ _, List.forall_mem_append.2 ⟨hms, hms'⟩⟩

/-- A change that makes the player what the player is already is saved. -/
theorem savePlayer_keeps (hc : c.Admits p) {change : Change} (hchange : change.applyTo p = p) :
    (Script.savePlayer p change).Keeps c (fun ns _ => OnlyClerical past ns) past := by
  refine ⟨hc.saves change hchange, fun answer _ => ?_⟩
  have hnotes := isClerical_of_mem_saveNotes p change answer
  exact ⟨fun n hn => hc.tells n (hnotes n hn), _, rfl, hnotes⟩

/-- Some changes of the player were saved, and nothing else was done. -/
structure OnlySaves (past : List Note) (t : Turn) (ns : List Note) (u : Turn) : Prop where
  turn : ∃ todo : Pending, u = { t with pending := todo } ∧ todo.arrival = t.pending.arrival
  notes : OnlyClerical past ns

namespace OnlySaves

theorem refl (past : List Note) (t : Turn) : OnlySaves past t past t :=
  ⟨⟨t.pending, rfl, rfl⟩, .refl past⟩

/-- Whatever has changed is saved. -/
theorem persist (hc : ∀ p, t.player = some p → c.Admits p) :
    (persist t).Keeps c (OnlySaves past t) past := by
  unfold Setting.persist
  split
  · exact .refl past t
  · next p hp =>
    have hfirst : (persistItems p t).Keeps c (OnlySaves past t) past := by
      unfold persistItems
      split
      · refine Script.Keeps.bind ((savePlayer_keeps (hc p hp) rfl).imp fun ns _ hns => ?_)
        exact ⟨⟨_, rfl, rfl⟩, hns⟩
      · exact .refl past t
    refine Script.Keeps.bind (hfirst.imp fun ns u hu => ?_)
    unfold persistPosition
    split
    · refine Script.Keeps.bind ((savePlayer_keeps (hc p hp) rfl).imp fun ns' _ hns' => ?_)
      obtain ⟨⟨todo, rfl, harrival⟩, hnotes⟩ := hu
      exact ⟨⟨_, rfl, harrival⟩, hnotes.trans hns'⟩
    · exact hu

end OnlySaves

/-- A turn has been brought to its end. -/
structure Concluded (past : List Note) (t : Turn) (ns : List Note) (x : Turn × Option Halt) :
    Prop where
  halt : x.2 = none
  player : x.1.player = t.player
  error : x.1.error = none
  notes : OnlyClerical past ns

variable {s : Setting}

/-- The status is announced and saved. -/
theorem announceStatus_keeps (hs : s.Usable) (hp : t.player = some p) (hc : c.Admits p)
    (hnotes : t.notes = []) (herror : t.error = none) (hcomplete : t.isComplete = false) :
    (s.announceStatus t).Keeps c
      (LeadsTo fun ns u q => u.player = some q ∧ q = p ∧ OnlyClerical past ns) past := by
  have htell : ∀ (rs : List Value) (crash : Option Crash), crash = none →
      (Run.pass ({ t with replies := rs }, crash)).Keeps c
        (LeadsTo fun ns u q => u.player = some q ∧ q = p ∧ ns = past) past := by
    rintro rs crash hcrash
    refine LeadsTo.pass { Turn.Onward.refl t with } hcrash herror hcomplete ?_
      ⟨hp, rfl, by rw [hnotes, List.append_nil]⟩
    rw [hnotes]
    exact List.forall_mem_nil _
  unfold announceStatus
  split
  · next hnone => exact absurd (hnone.symm.trans hp) (by simp)
  · next q hq =>
    obtain rfl : q = p := Option.some.inj (hq.symm.trans hp)
    split
    · obtain ⟨rs, crash, hsaid, hcrash⟩ := remind_eq s t q
      rw [hsaid]
      refine LeadsTo.andThen (htell rs crash (hcrash hs)) ?_
      rintro ns u p' hnotes' herror' hcomplete' ⟨hu, rfl, rfl⟩
      exact ⟨rfl, hnotes', herror', hcomplete', p', hu, rfl, .refl ns⟩
    · obtain ⟨rs, crash, hsaid, hcrash⟩ := tellStatus_eq s t q
      rw [hsaid]
      refine LeadsTo.andThen (htell rs crash (hcrash hs)) ?_
      rintro ns u p' hnotes' herror' hcomplete' ⟨hu, rfl, rfl⟩
      refine ⟨List.forall_mem_singleton.2 (hc.tells _ rfl), ?_⟩
      refine Script.Keeps.bind ((savePlayer_keeps hc rfl).imp fun ns' _ hns' => ?_)
      have hchanged : OnlyClerical ns
          (ns ++ [.log (.statusChanged p'.username u.statusAtEntry p'.status)]) :=
        ⟨_, rfl, List.forall_mem_singleton.2 rfl⟩
      exact ⟨rfl, hnotes', herror', hcomplete', p', hu, rfl, hchanged.trans hns'⟩

/-- A turn that went well is brought to its end, and its player stays as the player is. -/
theorem finish_keeps (hs : s.Usable) (hp : t.player = some p) (hc : c.Admits p)
    (hnotes : t.notes = []) (herror : t.error = none) (hcomplete : t.isComplete = false) :
    (s.finish t).Keeps c (Concluded past t) past := by
  unfold finish
  rw [herror]
  refine LeadsTo.andThen (announceStatus_keeps hs hp hc hnotes herror hcomplete) ?_
  rintro ns u q hnotes' herror' hcomplete' ⟨hu, rfl, hns⟩
  have hout : ∀ n ∈ u.replies.map Note.replied ++ [.completed], n.isClerical = true := by
    refine List.forall_mem_append.2 ⟨fun n hn => ?_, List.forall_mem_singleton.2 rfl⟩
    obtain ⟨r, -, rfl⟩ := List.mem_map.1 hn
    rfl
  rw [conclude_eq (by exact hcomplete'), hnotes', List.nil_append]
  exact ⟨fun n hn => hc.tells n (hout n hn), rfl, hu.trans hp.symm, herror',
    hns.trans ⟨_, rfl, hout⟩⟩

end Setting

end TextAdventure
