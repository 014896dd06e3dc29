import TextAdventure.Proofs.Turn.Contract
import TextAdventure.Proofs.Turn.Integrity
import TextAdventure.Proofs.Turn.Lifetime
import TextAdventure.Proofs.Turn.Place

/-!
# Guarded effects

The condition that applies is the first one that is met, or else the last one, met or not. So an
effect is had for nothing exactly where the last condition of an attribute asks for items and has an
effect. In a room whose attributes are all guarded against this (`Room.IsGuarded`), an effect follows
only from a condition that is due: the player holds what it needs, and no condition before it is met
(`Attribute.IsGuarded.isDue`).

Over a store with guarded rooms this is carried through a turn. The notes of a turn tell of every
effect, and of the player who had it; at each moment that player is the one whom the notes before tell
of (`Setting.Grants`). Attributes are at work in two places, upon a line and on entering a room, and
both end in one act (`Deals.trigger`); the room acted in is one that was looked up in this turn, or an
empty one (`Deals.room`), which is why what is looked up is all that has to be guarded.
-/

namespace TextAdventure

/-! ### Conditions that are due -/

/-- The condition applies by right: all that it needs is held, and of each condition before it
something is missing. -/
structure Condition.IsDue (items : Inventory) (conditions : List Condition) (c : Condition) :
    Prop where
  held : ∀ item ∈ c.needs, item ∈ items
  first : ∃ before after, conditions = before ++ c :: after ∧
    ∀ d ∈ before, ∃ item ∈ d.needs, item ∉ items

/-- The last condition, which applies even if it is not met, asks for nothing or has no effect. -/
def Attribute.IsGuarded (a : Attribute) : Prop :=
  ∀ c ∈ a.conditions.getLast?, c.needs = [] ∨ c.effect = none

instance (a : Attribute) : Decidable a.IsGuarded :=
  inferInstanceAs (Decidable (∀ c ∈ a.conditions.getLast?, c.needs = [] ∨ c.effect = none))

/-- All attributes of the room are guarded. -/
def Room.IsGuarded (r : Room) : Prop := ∀ a ∈ r.attributes, a.IsGuarded

instance (r : Room) : Decidable r.IsGuarded :=
  inferInstanceAs (Decidable (∀ a ∈ r.attributes, a.IsGuarded))

namespace Condition

theorem isMetBy_iff {items : Inventory} {c : Condition} :
    c.isMetBy items = true ↔ ∀ item ∈ c.needs, item ∈ items := by
  simp [isMetBy]

theorem exists_missing {items : Inventory} {c : Condition} (h : c.isMetBy items = false) :
    ∃ item ∈ c.needs, item ∉ items := by
  by_contra hnone
  push Not at hnone
  rw [isMetBy_iff.2 hnone] at h
  cases h

/-- The condition that applies is due, or it is the last one and nothing is met. -/
theorem isDue_or_last_of_select? {items : Inventory} {conditions : List Condition} {c : Condition}
    (h : select? items conditions = some c) :
    c.IsDue items conditions ∨ (conditions.getLast? = some c ∧ c.isMetBy items = false) := by
  unfold select? firstOrLast? at h
  cases hfirst : conditions.find? (·.isMetBy items) with
  | some d =>
    rw [hfirst, Option.some_or] at h
    obtain rfl := Option.some.inj h
    obtain ⟨hmet, before, after, hsplit, hbefore⟩ := List.find?_eq_some_iff_append.1 hfirst
    have hmissing : ∀ c ∈ before, ∃ item ∈ c.needs, item ∉ items := fun c hc =>
      exists_missing (by simpa using hbefore c hc)
    exact .inl ⟨isMetBy_iff.1 hmet, before, after, hsplit, hmissing⟩
  | none =>
    rw [hfirst, Option.none_or] at h
    have hunmet := List.find?_eq_none.1 hfirst c (List.mem_of_getLast? h)
    exact .inr ⟨h, by simpa using hunmet⟩

end Condition

/-- With a guarded attribute, a condition that has an effect applies only if it is due. -/
theorem Attribute.IsGuarded.isDue {a : Attribute} (ha : a.IsGuarded) {items : Inventory}
    {c : Condition} (hc : Condition.select? items a.conditions = some c)
    (heffect : c.effect ≠ none) : c.IsDue items a.conditions := by
  obtain hdue | ⟨hlast, hunmet⟩ := Condition.isDue_or_last_of_select? hc
  · exact hdue
  · -- a last condition with an effect asks for nothing, and is always met
    have hneeds : c.needs = [] := (ha c hlast).resolve_right heffect
    have hmet : c.isMetBy items = true := by simp [Condition.isMetBy, hneeds]
    rw [hmet] at hunmet
    cases hunmet

theorem Note.isDeed_of_isClerical {n : Note} (h : n.isClerical = true) : n.isDeed = false := by
  unfold Note.isClerical at h
  split at h <;> first | rfl | cases h

/-- What a turn relies on: the rooms that it looks up are guarded. -/
def guarding : Contract where
  Asks _ := True
  Fits
    | .findRoom x y map, answer =>
      ∀ room, Script.roomFound x y map answer = .ok (some room) → room.IsGuarded
    | _, _ => True
  Tells _ := True

namespace Setting

variable (s : Setting)

/-- If a note tells of a condition that is applied, then to the player whom the notes before tell of;
and if the condition has an effect, it is due. -/
def Grants (start : Player) (ns : List Note) (n : Note) : Prop :=
  ∀ a c p q, n = .applied a c p q →
    p = s.course start ns ∧ q = s.course start (ns ++ [n]) ∧
      (c.effect ≠ none → c.IsDue p.items a.conditions)

/-- At every moment of a turn the player is the one whom the notes tell of, all that was applied was
granted, and the room is guarded; `past` are the notes that have been passed on already. -/
structure Deals (start : Player) (past : List Note) (t : Turn) : Prop where
  player : t.player = some (s.course start (past ++ t.notes))
  granted : InOrder (s.Grants start) (past ++ t.notes)
  room : ∀ r, t.room = some r → r.IsGuarded

variable {s} {start p : Player} {past ns ms : List Note} {t u : Turn}

theorem grants_of_not_isDeed {n : Note} (h : n.isDeed = false) (pre : List Note) :
    s.Grants start pre n := by
  rintro a c p q rfl
  cases h

theorem isGuarded_empty (x y : Int) (map : String) : (Room.empty x y map).IsGuarded :=
  List.forall_mem_nil _

namespace Deals

/-- Reports are taken. -/
theorem append (h : s.Deals start past t) (hplayer : u.player = t.player)
    (hnotes : u.notes = t.notes ++ ms) (hroom : ∀ r, u.room = some r → r.IsGuarded)
    (hms : ∀ m ∈ ms, m.isDeed = false) : s.Deals start past u := by
  refine ⟨?_, ?_, hroom⟩
  · rw [hplayer, h.player, hnotes, ← List.append_assoc, course_append _ _ hms]
  · rw [hnotes, ← List.append_assoc]
    exact h.granted.append fun m hm pre => grants_of_not_isDeed (hms m hm) pre

theorem reply (h : s.Deals start past t) (r : Value) : s.Deals start past (t.reply r) :=
  ⟨h.player, h.granted, h.room⟩

theorem say (h : s.Deals start past t) (key : String) :
    s.Deals start past (t.say s.messages key).1 := by
  rw [Turn.say_eq]
  exact ⟨h.player, h.granted, h.room⟩

theorem log (h : s.Deals start past t) {e : Event} (he : (Note.log e).isDeed = false) :
    s.Deals start past (t.log e) :=
  h.append rfl rfl h.room (List.forall_mem_singleton.2 he)

/-- The notes are passed on. -/
theorem passOn (h : s.Deals start past t) :
    s.Deals start (past ++ t.notes) { t with notes := [] } := by
  refine ⟨?_, ?_, h.room⟩
  · rw [List.append_nil]
    exact h.player
  · rw [List.append_nil]
    exact h.granted

/-! ### The single acts -/

/-- A guarded attribute is at work. -/
theorem trigger (h : s.Deals start past t) (hp : t.player = some p) {a : Attribute}
    (ha : a.IsGuarded) (hu : t.trigger s.directions p a = some u) : s.Deals start past u := by
  unfold Turn.trigger at hu
  obtain ⟨c, hc, hu⟩ := Option.map_eq_some_iff.1 hu
  obtain ⟨ms, hnotes, hms, hplayer, -⟩ := applyCondition_eq (s := s) hp a c p
  obtain ⟨q, hq⟩ : ∃ q, s.afterNote p (.applied a c p p) = q := ⟨_, rfl⟩
  dsimp only at hu
  rw [hplayer, hq, Option.getD_some] at hu
  subst hu
  -- the effect is reported first, which does nothing to the player, and then noted as done
  have hbefore : s.course start (past ++ (t.notes ++ ms)) = p := by
    rw [← List.append_assoc, course_append _ _ hms]
    exact Option.some.inj (h.player.symm.trans hp)
  have hafter : s.course start (past ++ (t.notes ++ ms) ++ [.applied a c p q]) = q := by
    rw [course_concat, hbefore]
    exact hq
  have hnotes' : past ++ ((t.applyCondition s.directions c).note (.applied a c p q)).notes =
      past ++ (t.notes ++ ms) ++ [.applied a c p q] := by
    show past ++ (_ ++ [_]) = _
    rw [hnotes, ← List.append_assoc]
  have hgrants : s.Grants start (past ++ (t.notes ++ ms)) (.applied a c p q) := by
    rintro a' c' p' q' heq
    obtain ⟨rfl, rfl, rfl, rfl⟩ := Note.applied.inj heq
    exact ⟨hbefore.symm, hafter.symm, ha.isDue hc⟩
  have hreported : InOrder (s.Grants start) (past ++ (t.notes ++ ms)) := by
    rw [← List.append_assoc]
    exact h.granted.append fun m hm pre => grants_of_not_isDeed (hms m hm) pre
  refine ⟨?_, ?_, ?_⟩
  · rw [hnotes', hafter, ← hq]
    exact hplayer
  · rw [hnotes']
    exact hreported.concat hgrants
  · have hroom : (t.applyCondition s.directions c).room = t.room := applyCondition_room t c
    exact fun r hr => h.room r (hroom.symm.trans hr)

/-- A guarded room is entered. -/
theorem enterRoom (h : s.Deals start past t) {room : Room} (hroom : room.IsGuarded) :
    s.Deals start past (s.enterRoom t room) := by
  have hnoted : s.Deals start past (t.note (.entered room)) := by
    have hentered : ∀ a c p q, Note.entered room ≠ .applied a c p q := fun _ _ _ _ => nofun
    have hcourse : s.course start (past ++ t.notes ++ [.entered room]) =
        s.course start (past ++ t.notes) := course_concat _ _ _
    refine ⟨?_, ?_, h.room⟩
    · show t.player = some (s.course start (past ++ (t.notes ++ [_])))
      rw [← List.append_assoc, hcourse, h.player]
    · show InOrder _ (past ++ (t.notes ++ [_]))
      rw [← List.append_assoc]
      exact h.granted.concat fun a c p q heq => absurd heq (hentered a c p q)
  have hdescribed := hnoted.reply (.text room.description)
  simp only [Setting.enterRoom, h.player]
  cases hentry : room.entry? with
  | none => exact hdescribed
  | some a =>
    have ha : a.IsGuarded := hroom a (List.mem_of_find?_eq_some hentry)
    show s.Deals start past (((Turn.reply _ _).trigger s.directions _ a).getD _)
    cases htrigger : ((t.note (.entered room)).reply (.text room.description)).trigger s.directions
        (s.course start (past ++ t.notes)) a with
    | none => exact hdescribed
    | some u => exact hdescribed.trigger h.player ha htrigger

/-- The player comes to the room that was looked up. -/
theorem arrive (h : s.Deals start past t) (p : Player) {room : Option Room}
    (hroom : ∀ r, room = some r → r.IsGuarded) : s.Deals start past (s.arrive t p room).1 := by
  cases room with
  | none =>
    have hmissed : s.Deals start past ({ t with room := some (.empty p.x p.y p.map) }.log
        (.noRoom p.username p.x p.y p.map)) := by
      refine h.append rfl rfl (fun r hr => ?_) (List.forall_mem_singleton.2 rfl)
      obtain rfl := Option.some.inj hr
      exact isGuarded_empty p.x p.y p.map
    unfold Setting.arrive
    dsimp only
    split
    · rw [Turn.say_eq]
      exact ⟨hmissed.player, hmissed.granted, hmissed.room⟩
    · exact hmissed
  | some room =>
    have hcome : ∀ arrival, s.Deals start past
        { t with room := some room, pending := { t.pending with arrival } } :=
      fun _ => ⟨h.player, h.granted, hroom⟩
    unfold Setting.arrive
    dsimp only
    split
    · exact (hcome false).enterRoom (hroom room rfl)
    · exact hcome t.pending.arrival

/-- The player is reset. -/
theorem reset (h : s.Deals start past t) (everything : Bool) :
    s.Deals start past (s.reset t everything).1 := by
  unfold Setting.reset
  rw [h.player]
  dsimp only
  cases hplace : s.origin.place with
  | error d => exact h
  | ok place =>
    dsimp only
    obtain ⟨p, hp⟩ : ∃ p, s.course start (past ++ t.notes) = p := ⟨_, rfl⟩
    rw [hp]
    have hcourse : s.course start
        (past ++ (t.notes ++ [.log (.playerReset p.username everything)])) =
          p.resetTo place everything := by
      rw [← List.append_assoc, course_concat, hp, afterNote, hplace]
    rw [Turn.say_eq]
    refine ⟨congrArg some hcourse.symm, ?_, h.room⟩
    show InOrder _ (past ++ (t.notes ++ [_]))
    rw [← List.append_assoc]
    refine h.granted.concat fun a c p q heq => ?_
    cases heq

/-- A reaction is carried out in a guarded room. -/
theorem perform (h : s.Deals start past t) (hp : t.player = some p) (room : Room) {r : Reaction}
    (hr : ∀ a, r = .triggers a → a.IsGuarded) :
    s.Deals start past (s.perform t p room r).1 := by
  cases r with
  | ignored => exact h.log rfl
  | notUnderstood => exact h.say _
  | reset everything => exact h.reset everything
  | resetRefused => exact h.say _
  | triggers a =>
    simp only [Setting.perform]
    split
    · next u hu => exact h.trigger hp (hr a rfl) hu
    · exact h.say _
  | look =>
    simp only [Setting.perform, Setting.look]
    split
    · exact h.say _
    · exact h.reply _
  | exits =>
    simp only [Setting.perform, Setting.listExits]
    split
    · exact h.say _
    · split
      · exact h.reply _
      · exact h
  | unmatched verb object =>
    have hlogged : s.Deals start past (t.log (.nothingTriggered verb object)) := h.log rfl
    exact hlogged.say _

/-- The line is acted upon. -/
theorem dispatch (h : s.Deals start past t) : s.Deals start past (s.dispatch t).1 := by
  unfold Setting.dispatch
  split
  · exact h
  · next p hp =>
    have hroom : (roomOf t p).IsGuarded := by
      unfold roomOf
      cases hlooked : t.room with
      | none => exact isGuarded_empty p.x p.y p.map
      | some room => exact h.room room hlooked
    let reading := s.vocabulary.readLine t.line
    have hread : s.Deals start past { t with
        phrase := reading.phrase?
        notes := t.notes ++ [.acted t.line (roomOf t p)] ++ readingNotes t.line reading } := by
      refine h.append rfl (List.append_assoc _ _ _) h.room ?_
      exact List.forall_mem_append.2
        ⟨List.forall_mem_singleton.2 rfl, fun _ => isDeed_of_mem_readingNotes⟩
    exact hread.perform hp _ fun a ha => hroom a (mem_of_react ha)

end Deals

/-! ### The parts of a turn -/

/-- The end of a part of a turn, halted or not. -/
def Dealt (s : Setting) (start : Player) (ns : List Note) (x : Turn × Option Halt) : Prop :=
  s.Deals start ns x.1 ∧ x.1.notes = []

theorem guarding_admits (p : Player) : guarding.Admits p := ⟨fun _ _ => trivial, fun _ _ => trivial⟩

theorem Dealt.andThen {r : Run} {next : Turn → Run} (h : r.Keeps guarding (s.Dealt start) past)
    (hnext : ∀ ns t, s.Deals start ns t → t.notes = [] →
      (next t).Keeps guarding (s.Dealt start) ns) :
    (r.andThen next).Keeps guarding (s.Dealt start) past := by
  refine Script.Keeps.bind (h.imp fun ns x hx => ?_)
  match x, hx with
  | (t, none), ⟨hdeals, hnotes⟩ => exact hnext ns t hdeals hnotes
  | (t, some halt), hdealt => exact hdealt

namespace Deals

/-- An act is passed on. -/
theorem pass {step : Turn × Option Crash} (h : s.Deals start past step.1) :
    (Run.pass step).Keeps guarding (s.Dealt start) past :=
  ⟨fun _ _ => trivial, h.passOn, rfl⟩

/-- The room of the player is looked up and entered. -/
theorem enter (h : s.Deals start past t) (ht : t.notes = []) :
    (s.enter t).Keeps guarding (s.Dealt start) past := by
  unfold Setting.enter
  split
  · exact ⟨h, ht⟩
  · next p hp =>
    have hnoticed : s.Deals start past
        { t with statusAtEntry := t.statusAtEntry.or (some p.status) } :=
      ⟨h.player, h.granted, h.room⟩
    refine ⟨trivial, fun answer hfits => ?_⟩
    cases hfound : Script.roomFound p.x p.y p.map answer with
    | error e =>
      simp only [Script.bind, hfound]
      exact ⟨hnoticed, ht⟩
    | ok room =>
      simp only [Script.bind, hfound]
      have hroom : ∀ r, room = some r → r.IsGuarded := fun r hr => hfits r (hr ▸ hfound)
      exact (hnoticed.arrive p hroom).pass

/-- Notes on what was saved and on what is handed out. -/
theorem report (h : s.Deals start past t) (ht : t.notes = []) (hns : OnlyClerical past ns) :
    s.Deals start ns t := by
  obtain ⟨ms, rfl, hms⟩ := hns
  have hreports : ∀ m ∈ ms, m.isDeed = false := fun m hm => Note.isDeed_of_isClerical (hms m hm)
  have hnotes : past ++ ms ++ t.notes = past ++ t.notes ++ ms := by
    rw [ht, List.append_nil, List.append_nil]
  refine ⟨?_, ?_, h.room⟩
  · rw [hnotes, course_append _ _ hreports]
    exact h.player
  · rw [hnotes]
    exact h.granted.append fun m hm pre => grants_of_not_isDeed (hreports m hm) pre

/-- Whatever has changed is saved. -/
theorem persist (h : s.Deals start past t) (ht : t.notes = []) :
    (persist t).Keeps guarding (fun ns u => s.Deals start ns u ∧ u.notes = []) past := by
  refine (OnlySaves.persist fun p _ => guarding_admits p).imp fun ns u hu => ?_
  obtain ⟨⟨todo, rfl, -⟩, hms⟩ := hu
  have hsaved := h.report ht hms
  exact ⟨⟨hsaved.player, hsaved.granted, hsaved.room⟩, ht⟩

/-- The rooms that the player has come to are announced. -/
theorem announce (n : Nat) (h : s.Deals start past t) (ht : t.notes = []) :
    (s.announce n t).Keeps guarding (s.Dealt start) past := by
  -- every room may send the player on, so the induction is on how many more may be entered
  induction n generalizing past t with
  | zero =>
    unfold Setting.announce
    split
    · have hcut : s.Deals start past { t with pending := { t.pending with arrival := false } } :=
        ⟨h.player, h.granted, h.room⟩
      have hlogged : s.Deals start past (Turn.log _ (.chainCutOff t.username maxRoomChain)) :=
        hcut.log rfl
      refine pass ?_
      exact hlogged
    · exact ⟨h, ht⟩
  | succ n ih =>
    unfold Setting.announce
    split
    · refine Dealt.andThen (h.enter ht) fun ns u hu hnotes => ?_
      exact Script.Keeps.bind ((hu.persist hnotes).imp fun ns' v hv => ih hv.1 hv.2)
    · exact ⟨h, ht⟩

/-- The line is acted upon, and where that leads is announced. -/
theorem goOn (h : s.Deals start past t) (ht : t.notes = []) :
    (s.goOn t).Keeps guarding (s.Dealt start) past := by
  refine Dealt.andThen (h.enter ht) fun ns u hu _ => ?_
  refine Dealt.andThen hu.dispatch.pass fun ns' v hv hnotes => ?_
  refine Script.Keeps.bind ((hv.persist hnotes).imp fun ns'' w hw => ?_)
  exact hw.1.announce maxRoomChain hw.2

/-- A turn is completed. -/
theorem conclude (h : s.Deals start past t) :
    (conclude t).Keeps guarding (s.Dealt start) past := by
  have hleft : s.Deals start past { t with room := none } :=
    ⟨h.player, h.granted, fun r hr => nomatch hr⟩
  unfold Setting.conclude Turn.complete
  split
  · exact hleft.pass
  · have hcompleted : s.Deals start past
        (Turn.note { t with room := none, isComplete := true } .completed) :=
      hleft.append rfl rfl hleft.room (List.forall_mem_singleton.2 rfl)
    exact hcompleted.pass

/-- The status is announced and saved. -/
theorem announceStatus (h : s.Deals start past t) (ht : t.notes = []) :
    (s.announceStatus t).Keeps guarding (s.Dealt start) past := by
  have htell : ∀ (rs : List Value) (crash : Option Crash),
      (Run.pass ({ t with replies := rs }, crash)).Keeps guarding (s.Dealt start) past := by
    intro rs crash
    have htold : s.Deals start past { t with replies := rs } := ⟨h.player, h.granted, h.room⟩
    exact htold.pass
  unfold Setting.announceStatus
  split
  · exact ⟨h, ht⟩
  · next p hp =>
    split
    · obtain ⟨rs, crash, hsaid, -⟩ := remind_eq s t p
      rw [hsaid]
      exact Dealt.andThen (htell rs crash) fun ns u hu hnotes =>
        ⟨⟨hu.player, hu.granted, hu.room⟩, hnotes⟩
    · obtain ⟨rs, crash, hsaid, -⟩ := tellStatus_eq s t p
      rw [hsaid]
      refine Dealt.andThen (htell rs crash) fun ns u hu hnotes => ⟨fun _ _ => trivial, ?_⟩
      refine Script.Keeps.bind ((savePlayer_keeps (guarding_admits p) rfl).imp fun ns' _ hns' => ?_)
      have hchanged : OnlyClerical ns
          (ns ++ [.log (.statusChanged p.username u.statusAtEntry p.status)]) :=
        ⟨_, rfl, List.forall_mem_singleton.2 rfl⟩
      have hsaved := hu.report hnotes (hchanged.trans hns')
      exact ⟨⟨hsaved.player, hsaved.granted, hsaved.room⟩, hnotes⟩

/-- The replies are handed out, or the failure is reported. -/
theorem finish (h : s.Deals start past t) (ht : t.notes = []) :
    (s.finish t).Keeps guarding (s.Dealt start) past := by
  unfold Setting.finish
  split
  · next e _ =>
    have hsilent : s.Deals start past { t with replies := [] } := ⟨h.player, h.granted, h.room⟩
    have hreported : s.Deals start past
        (Turn.log { t with replies := [] } (.turnFailed e.message t.describe)) :=
      hsilent.log rfl
    exact hreported.conclude
  · refine Dealt.andThen (h.announceStatus ht) fun ns u hu _ => ?_
    have hhanded : s.Deals start ns { u with notes := u.notes ++ u.replies.map .replied } := by
      refine hu.append rfl rfl hu.room fun m hm => ?_
      obtain ⟨r, -, rfl⟩ := List.mem_map.1 hm
      rfl
    exact hhanded.conclude

/-- A turn that has got its player is brought to its end. -/
theorem resume (h : s.Deals start past t) (ht : t.notes = []) :
    ((s.goOn t).bind s.wrapUp).Keeps guarding (s.Dealt start) past := by
  refine Script.Keeps.bind ((h.goOn ht).imp fun ns x hx => ?_)
  match x, hx with
  | (u, none), ⟨hu, hnotes⟩ => exact hu.finish hnotes
  | (u, some (.storage e)), ⟨hu, hnotes⟩ =>
    have hfailed : s.Deals start ns { u with error := some e } :=
      ⟨hu.player, hu.granted, hu.room⟩
    exact hfailed.finish hnotes
  | (u, some (.crash c)), hdealt => exact hdealt

end Deals

/-! ### The whole turn -/

/-- What a turn comes to: all that was applied was granted, and if there is a player, it is the one
whom the notes tell of. -/
def IsFair (s : Setting) (ns : List Note) (x : Turn × Option Halt) : Prop :=
  ∃ start, InOrder (s.Grants start) ns ∧ ∀ p, x.1.player = some p → p = s.course start ns

theorem Dealt.isFair {x : Turn × Option Halt} (h : s.Dealt start ns x) : s.IsFair ns x := by
  obtain ⟨⟨hplayer, hgranted, -⟩, hnotes⟩ := h
  rw [hnotes, List.append_nil] at hplayer hgranted
  exact ⟨start, hgranted, fun p hp => Option.some.inj (hp.symm.trans hplayer)⟩

/-- A turn without a player has nothing applied to it. -/
theorem isFair_of_none {x : Turn × Option Halt} (hplayer : x.1.player = none)
    (hns : ∀ n ∈ ns, n.isDeed = false) : s.IsFair ns x := by
  have hgranted : InOrder (s.Grants (Player.atPosition "" "" 0 0)) ([] ++ ns) :=
    InOrder.nil.append fun n hn pre => grants_of_not_isDeed (hns n hn) pre
  exact ⟨_, hgranted, fun p hp => nomatch hplayer.symm.trans hp⟩

/-- A turn that was halted before it has its player ends without having applied anything. -/
theorem wrapUp_isFair (ht : t.player = none) (hnotes : t.notes = []) (halt : Halt) :
    (s.wrapUp (t, some halt)).Keeps guarding s.IsFair [] := by
  cases halt with
  | crash c => exact isFair_of_none ht (List.forall_mem_nil _)
  | storage e =>
    let failed : Turn := { t with error := some e }
    show (Setting.conclude (Turn.log { failed with replies := [] }
      (.turnFailed e.message failed.describe))).Keeps _ _ _
    unfold Setting.conclude Turn.complete
    split
    · refine ⟨fun _ _ => trivial, isFair_of_none ht ?_⟩
      simp [failed, Turn.log, Turn.note, hnotes, Note.isDeed]
    · refine ⟨fun _ _ => trivial, isFair_of_none ht ?_⟩
      simp [failed, Turn.log, Turn.note, hnotes, Note.isDeed]

/-- If all rooms that a turn looks up are guarded, then whatever else the store answers, all that the
turn applies is granted. -/
theorem play_isFair (s : Setting) (line username map : String) :
    (s.play (.start line username map)).Keeps guarding s.IsFair [] := by
  have hhalted := fun halt => wrapUp_isFair (s := s) (t := .start line username map) rfl rfl halt
  have hnowhere : ∀ r, (none : Option Room) = some r → r.IsGuarded := fun r hr => nomatch hr
  rw [play_eq_ask]
  refine ⟨trivial, fun answer _ => ?_⟩
  show (s.resume (.start line username map) (Script.playerFound username answer)).Keeps _ _ _
  rw [resume_eq]
  cases hfound : Script.playerFound username answer with
  | error e => exact hhalted (.storage e)
  | ok found =>
    cases found with
    | some p =>
      have hstart : s.Deals p [] { Turn.start line username map with player := some p } :=
        ⟨rfl, InOrder.nil, hnowhere⟩
      exact (hstart.resume rfl).imp fun _ _ hx => hx.isFair
    | none =>
      simp only [meet]
      cases hplace : s.origin.start with
      | error d => exact hhalted (.crash (.defect d))
      | ok place =>
        refine ⟨trivial, fun stored _ => ?_⟩
        cases hcreated : Script.playerCreated
            (Player.atPosition username map place.1 place.2) stored with
        | error e =>
          simp only [Turn.start, hcreated]
          exact hhalted (.storage e)
        | ok p =>
          simp only [Turn.start, hcreated]
          have hstart : s.Deals p [.log (.playerCreated username map)]
              { Turn.start line username map with
                player := some p, pending := { Pending.none with arrival := true } } := by
            refine ⟨rfl, ?_, hnowhere⟩
            exact InOrder.nil.concat (grants_of_not_isDeed rfl [])
          exact ⟨fun _ _ => trivial, (hstart.resume rfl).imp fun _ _ hx => hx.isFair⟩

end Setting

end TextAdventure
