import TextAdventure.Proofs.Turn.Contract
import TextAdventure.Proofs.Turn.Integrity

/-!
# Turns in a world without faults

A turn in a world without faults keeps the contract from its beginning to its end
(`Setting.play_keeps`). It ends without an error and is not broken off; its player holds no item
without a name; and whoever was put where players begin has entered the room there.
-/

namespace TextAdventure

/-- What a turn on some map has come to in the end, in a world without faults. -/
structure World.EndsWell (w : World) (map : String) (ns : List Note) (x : Turn × Option Halt) :
    Prop where
  halt : x.2 = none
  error : x.1.error = none
  held : ∀ p, x.1.player = some p → "" ∉ p.items
  journey : map = w.map → w.journey ns = .over

namespace Setting

section Parts

variable {s : Setting} {w : World} {map : String} {past : List Note} {t u : Turn} {p : Player}

/-- The room of the player is looked up and perhaps entered. -/
theorem Arriving.enter (h : s.Arriving w map past t p) (hs : s.Usable) (herror : t.error = none)
    (hcomplete : t.isComplete = false) :
    (s.enter t).Keeps (w.contract s.directions) (LeadsTo (s.Arrived w map)) past := by
  unfold Setting.enter
  split
  · next hnone => exact absurd (hnone.symm.trans h.player) (by simp)
  · next q hq =>
    obtain rfl : q = p := Option.some.inj (hq.symm.trans h.player)
    have hlook : s.Arriving w map past
        { t with statusAtEntry := t.statusAtEntry.or (some q.status) } q :=
      ⟨⟨h.player, h.onMap, h.items, h.room, h.tells⟩, h.journey⟩
    refine ⟨trivial, fun answer hfits => ?_⟩
    obtain ⟨found, hfound, hroom, horigin⟩ := hfits
    simp only [Script.bind, hfound]
    obtain ⟨q', harrived⟩ := hlook.arrive hroom horigin
    exact LeadsTo.pass (s.arrive_onward _ q found) (hs.arrive _ _ _) herror hcomplete
      harrived.tells harrived.passOn

/-- A turn in a world without faults may save its player and hand out what it has to say. -/
theorem Fares.admits (h : s.Fares w map t p) : (w.contract s.directions).Admits p where
  saves := by
    rintro change hchange inv rfl
    have hsame : inv = p.items := congrArg Player.items hchange
    exact hsame ▸ h.items
  tells := by
    intro n hn
    unfold Note.isClerical at hn
    split at hn <;> trivial

theorem Fares.persist (h : s.Fares w map t p) :
    (persist t).Keeps (w.contract s.directions) (OnlySaves past t) past := by
  refine OnlySaves.persist fun q hq => ?_
  obtain rfl : p = q := Option.some.inj (h.player.symm.trans hq)
  exact h.admits

/-- What was saved and handed out is no part of the way. -/
theorem OnlyClerical.journey {ns : List Note} (h : OnlyClerical past ns) (w : World) :
    w.journey ns = w.journey past := by
  obtain ⟨ms, rfl, hms⟩ := h
  refine w.journey_append past fun n hn => ?_
  have hclerical := hms n hn
  unfold Note.isClerical at hclerical
  split at hclerical <;> first | rfl | cases hclerical

theorem Fares.onlySaves {ns : List Note} (h : s.Fares w map t p) (hu : OnlySaves past t ns u) :
    s.Fares w map u p := by
  obtain ⟨⟨todo, rfl, -⟩, -⟩ := hu
  exact ⟨h.player, h.onMap, h.items, h.room, h.tells⟩

theorem Arrived.onlySaves {ns : List Note} (h : s.Arrived w map past t p) (hnotes : t.notes = [])
    (hu : OnlySaves past t ns u) : s.Arrived w map ns u p := by
  refine ⟨h.toFares.onlySaves hu, fun hmap => ?_⟩
  have hjourney := h.journey hmap
  rw [hnotes, List.append_nil, ← hu.notes.journey w] at hjourney
  obtain ⟨⟨todo, rfl, -⟩, -⟩ := hu
  rwa [hnotes, List.append_nil]

theorem Arriving.onlySaves {ns : List Note} (h : s.Arriving w map past t p) (hnotes : t.notes = [])
    (hu : OnlySaves past t ns u) : s.Arriving w map ns u p := by
  refine ⟨h.toFares.onlySaves hu, fun hmap => ?_⟩
  have hjourney := h.journey hmap
  rw [hnotes, List.append_nil, ← hu.notes.journey w] at hjourney
  obtain ⟨⟨todo, rfl, harrival⟩, -⟩ := hu
  rw [hnotes, List.append_nil]
  exact hjourney.imp_right fun hbegun => ⟨hbegun.1, harrival.trans hbegun.2.1, hbegun.2.2⟩

/-- The rooms that the player comes to are announced. A player on the way needs one room at least. -/
theorem Arriving.announce (hs : s.Usable) (n : Nat) (h : s.Arriving w map past t p)
    (hzero : n = 0 → s.Arrived w map past t p) (hnotes : t.notes = []) (herror : t.error = none)
    (hcomplete : t.isComplete = false) :
    (s.announce n t).Keeps (w.contract s.directions) (LeadsTo (s.Arrived w map)) past := by
  -- every room may send the player on, so the induction is on how many more may be entered
  induction n generalizing past t p with
  | zero =>
    have harrived := hzero rfl
    unfold Setting.announce
    split
    · let cut := { t with pending := { t.pending with arrival := false } }.log
        (.chainCutOff t.username maxRoomChain)
      have hcut : s.Arrived w map past cut p :=
        harrived.append rfl rfl rfl (List.forall_mem_singleton.2 trivial)
          (List.forall_mem_singleton.2 rfl)
      show (Run.pass (cut, none)).Keeps _ _ past
      exact LeadsTo.pass ((t.arrival_onward t.room false).trans (Turn.log_onward _ _)) rfl herror
        hcomplete hcut.tells hcut.passOn
    · exact ⟨rfl, hnotes, herror, hcomplete, p, harrived⟩
  | succ n ih =>
    unfold Setting.announce
    split
    · refine LeadsTo.andThen (h.enter hs herror hcomplete)
        fun ns u q hnotes' herror' hcomplete' hu => ?_
      refine Script.Keeps.bind (hu.persist.imp fun ns' v hv => ?_)
      have hv' := hu.onlySaves hnotes' hv
      obtain ⟨⟨todo, rfl, -⟩, -⟩ := hv
      exact ih hv'.arriving (fun _ => hv') hnotes' herror' hcomplete'
    · next harrival =>
      refine ⟨rfl, hnotes, herror, hcomplete, p, h.toFares, fun hmap => ?_⟩
      exact (h.journey hmap).resolve_right fun hbegun => harrival hbegun.2.1

/-- The turn is brought to its end. -/
theorem Arrived.finish (h : s.Arrived w map past t p) (hs : s.Usable) (hnotes : t.notes = [])
    (herror : t.error = none) (hcomplete : t.isComplete = false) :
    (s.finish t).Keeps (w.contract s.directions) (w.EndsWell map) past := by
  refine (finish_keeps hs h.player h.admits hnotes herror hcomplete).imp fun ns x hx => ?_
  refine ⟨hx.halt, hx.error, fun q hq => ?_, fun hmap => ?_⟩
  · obtain rfl : p = q := Option.some.inj (h.player.symm.trans (hx.player.symm.trans hq))
    exact h.items
  · have hjourney := h.journey hmap
    rw [hnotes, List.append_nil] at hjourney
    rw [hx.notes.journey, hjourney]

/-- The player of a turn is found or created. -/
theorem identify_keeps (line username map : String) (horigin : s.origin = [w.origin.1, w.origin.2]) :
    (s.identify (.start line username map)).Keeps (w.contract s.directions)
      (LeadsTo (s.Arriving w map)) [] := by
  refine ⟨trivial, fun answer hfits => ?_⟩
  obtain ⟨found, hfound, hplayer⟩ := hfits
  cases found with
  | some p =>
    obtain ⟨hmap, hitems⟩ := hplayer p rfl
    simp only [Script.bind, hfound]
    exact ⟨rfl, rfl, rfl, rfl, p,
      ⟨⟨rfl, hmap, hitems, fun _ h => (by cases h), List.forall_mem_nil _⟩, fun _ => .inl rfl⟩⟩
  | none =>
    simp only [Script.bind, hfound, horigin, Origin.start_pair, Script.createPlayer]
    refine ⟨⟨_, rfl, Inventory.not_mem_empty _⟩, fun answer hfits => ?_⟩
    obtain ⟨stored, id, rfl, hid, hnull⟩ := hfits
    have hcreated : ∀ p : Player, Script.playerCreated p (.ok stored) = .ok { p with id } := by
      intro p
      simp only [Script.playerCreated, hid]
    simp only [hcreated]
    refine ⟨List.forall_mem_singleton.2 trivial, rfl, rfl, rfl, rfl, _, ⟨rfl, rfl,
      Inventory.not_mem_empty _, fun _ h => (by cases h), List.forall_mem_nil _⟩, fun _ => ?_⟩
    exact .inr ⟨rfl, rfl, rfl, rfl⟩

end Parts

/-- A turn in a world without faults keeps the contract, and ends well. -/
theorem play_keeps {w : World} {s : Setting} (hs : s.Usable)
    (horigin : s.origin = [w.origin.1, w.origin.2]) (line username map : String) :
    (s.play (.start line username map)).Keeps (w.contract s.directions) (w.EndsWell map) [] := by
  have hadvance : (s.advanceTurn (.start line username map)).Keeps (w.contract s.directions)
      (LeadsTo (s.Arrived w map)) [] := by
    refine LeadsTo.andThen (identify_keeps line username map horigin)
      fun ns t p _ herror hcomplete harriving => ?_
    refine LeadsTo.andThen (harriving.enter hs herror hcomplete)
      fun ns t p _ herror hcomplete harrived => ?_
    obtain ⟨q, hq⟩ := harrived.dispatch horigin
    have hpass : (Run.pass (s.dispatch t)).Keeps (w.contract s.directions)
        (LeadsTo (s.Arriving w map)) ns :=
      LeadsTo.pass (s.dispatch_onward t) (hs.dispatch t) herror hcomplete hq.tells hq.passOn
    refine LeadsTo.andThen hpass fun ns t p hnotes herror hcomplete harriving => ?_
    refine Script.Keeps.bind (harriving.persist.imp fun ns' u hu => ?_)
    have hu' := harriving.onlySaves hnotes hu
    obtain ⟨⟨todo, rfl, -⟩, -⟩ := hu
    exact hu'.announce hs maxRoomChain nofun hnotes herror hcomplete
  refine Script.Keeps.bind (hadvance.imp ?_)
  rintro ns ⟨t, halt⟩ ⟨hhalt, hnotes, herror, hcomplete, p, harrived⟩
  obtain rfl : halt = none := hhalt
  exact harrived.finish hs hnotes herror hcomplete

end Setting

end TextAdventure
