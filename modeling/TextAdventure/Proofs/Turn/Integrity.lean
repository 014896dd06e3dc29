import TextAdventure.Proofs.Script.Contract
import TextAdventure.Proofs.Turn.Acting
import TextAdventure.Proofs.World.Integrity
import TextAdventure.Proofs.World.Seeding

/-!
# Acting in a world without faults

What a turn relies on in a world without faults, and what it promises in return (`World.contract`).
Every room that it is answered can be played in, and there is one where players begin; so the turn
never meets a direction that leads nowhere and never hands out an item without a name.

A player who is put where players begin, newly created or reset, is on the way to the room there
until it is entered (`Journey`). Coming to a room ends the journey (`Arriving.arrive`), and acting
upon a line may begin one (`Arrived.dispatch`); these two take turns.
-/

namespace TextAdventure

/-! ### What is promised -/

/-- How far a player has come who was put where players begin. -/
inductive Journey where
  /-- The player is not on the way. -/
  | over
  /-- The player has been put where players begin and is yet to enter the room there. -/
  | begun
  /-- The player has found no room there, or another one. -/
  | lost
  deriving DecidableEq, Repr

namespace Note

/-- A player is put where players begin, or comes to a room or to a place without one. -/
def isPassage : Note → Bool
  | .log (.playerCreated ..) | .log (.playerReset ..) | .log (.noRoom ..) | .entered _ => true
  | _ => false

end Note

/-- The journey after a note; `isThere` tells whether a room is where players begin. -/
def Journey.after (isThere : Room → Bool) : Journey → Note → Journey
  | .over, .log (.playerCreated ..) | .over, .log (.playerReset ..) => .begun
  | .begun, .log (.playerCreated ..) | .begun, .log (.playerReset ..) => .lost
  | .begun, .entered room => if isThere room then .over else .lost
  | .begun, .log (.noRoom ..) => .lost
  | j, _ => j

theorem Journey.after_of_not_isPassage {n : Note} (h : n.isPassage = false)
    (isThere : Room → Bool) (j : Journey) : j.after isThere n = j := by
  unfold after
  split <;> first | rfl | cases h

namespace World

/-- Whether a position is where players of the world begin. -/
def IsOrigin (w : World) (x y : Int) (map : String) : Prop :=
  x = w.origin.1 ∧ y = w.origin.2 ∧ map = w.map

/-- What notes tell of the way to the room where players begin. -/
def journey (w : World) (ns : List Note) : Journey :=
  ns.foldl (Journey.after (Room.isAt w.origin.1 w.origin.2 w.map)) .over

/-- Other notes are no part of the way. -/
theorem journey_append (w : World) (past : List Note) {ns : List Note}
    (h : ∀ n ∈ ns, n.isPassage = false) : w.journey (past ++ ns) = w.journey past := by
  rw [journey, List.foldl_append]
  show ns.foldl _ (w.journey past) = _
  induction ns with
  | nil => rfl
  | cons n ns ih =>
    obtain ⟨hn, hns⟩ := List.forall_mem_cons.1 h
    rw [List.foldl_cons, Journey.after_of_not_isPassage hn, ih hns]

theorem journey_concat (w : World) (past : List Note) (n : Note) :
    w.journey (past ++ [n]) =
      (w.journey past).after (Room.isAt w.origin.1 w.origin.2 w.map) n := by
  rw [journey, List.foldl_append]
  rfl

/-- What turns in a world without faults and the store promise each other. A turn stores no item
without a name and knows where every effect leads; the store answers with players who hold no such
item and with rooms in which every effect can be carried out, and it has the room where players
begin. -/
def contract (w : World) (directions : Directions) : Contract where
  Asks
    | .findPlayer .. | .findRoom .. => True
    | .insertPlayer record => ∃ p : Player, record = p.toRecord ∧ "" ∉ p.items
    | .updatePlayer _ change => ∀ inv, change = .items inv → "" ∉ inv
  Fits
    | .findPlayer username map, answer =>
      ∃ found, Script.playerFound username answer = .ok found ∧
        ∀ p, found = some p → p.map = map ∧ "" ∉ p.items
    | .insertPlayer _, answer =>
      ∃ stored id, (answer : Except StorageError Fields) = .ok stored ∧
        stored.get? "_id" = some id ∧ id ≠ .null
    | .findRoom x y map, answer =>
      ∃ found, Script.roomFound x y map answer = .ok found ∧
        (∀ r, found = some r → r.isAt x y map = true ∧ r.IsSound directions) ∧
        (w.IsOrigin x y map → found ≠ none)
    | .updatePlayer .., _ => True
  Tells
    | .log (.unknownDirection ..) => False
    | .log (.noRoom _ x y map) => ¬w.IsOrigin x y map
    | .applied _ _ before after => "" ∉ before.items ∧ "" ∉ after.items
    | _ => True

end World

theorem Condition.mem_of_select? {items : Inventory} {conditions : List Condition} {c : Condition}
    (h : select? items conditions = some c) : c ∈ conditions := by
  simp only [select?, firstOrLast?, Option.or_eq_some_iff] at h
  exact h.elim List.mem_of_find?_eq_some fun h => List.mem_of_getLast? h.2

/-! ### The state of a turn between notes -/

namespace Setting

variable (s : Setting) (w : World)

/-- A turn fares well: its player holds no item without a name, its room can be played in, and its
notes keep the contract. -/
structure Fares (map : String) (t : Turn) (p : Player) : Prop where
  player : t.player = some p
  onMap : p.map = map
  items : "" ∉ p.items
  room : ∀ r, t.room = some r → r.IsSound s.directions
  tells : ∀ n ∈ t.notes, (w.contract s.directions).Tells n

/-- The player is not on the way; `past` are the notes that have been passed on already. -/
structure Arrived (map : String) (past : List Note) (t : Turn) (p : Player) : Prop
    extends s.Fares w map t p where
  journey : map = w.map → w.journey (past ++ t.notes) = .over

/-- If the player is on the way, then where players begin, and the room is yet to be announced. -/
structure Arriving (map : String) (past : List Note) (t : Turn) (p : Player) : Prop
    extends s.Fares w map t p where
  journey : map = w.map → w.journey (past ++ t.notes) = .over ∨
    w.journey (past ++ t.notes) = .begun ∧ t.pending.arrival = true ∧
      p.x = w.origin.1 ∧ p.y = w.origin.2

section Acts

variable {s w} {map : String} {past ms : List Note} {t u : Turn} {p : Player}

theorem Arrived.arriving (h : s.Arrived w map past t p) : s.Arriving w map past t p :=
  { h with journey := fun hmap => .inl (h.journey hmap) }

/-- Notes are taken that are no part of the way. -/
theorem Arrived.append (h : s.Arrived w map past t p) (hplayer : u.player = t.player)
    (hroom : u.room = t.room) (hnotes : u.notes = t.notes ++ ms)
    (htells : ∀ n ∈ ms, (w.contract s.directions).Tells n)
    (hms : ∀ n ∈ ms, n.isPassage = false) : s.Arrived w map past u p where
  player := hplayer.trans h.player
  onMap := h.onMap
  items := h.items
  room := fun r hr => h.room r (hroom.symm.trans hr)
  tells := by
    rw [hnotes]
    exact List.forall_mem_append.2 ⟨h.tells, htells⟩
  journey := by
    intro hmap
    rw [hnotes, ← List.append_assoc, w.journey_append _ hms]
    exact h.journey hmap

theorem Arrived.reply (h : s.Arrived w map past t p) (r : Value) :
    s.Arrived w map past (t.reply r) p :=
  h.append rfl rfl (List.append_nil _).symm (List.forall_mem_nil _) (List.forall_mem_nil _)

theorem Arrived.say (h : s.Arrived w map past t p) (key : String) :
    s.Arrived w map past (t.say s.messages key).1 p := by
  rw [Turn.say_eq]
  exact ⟨⟨h.player, h.onMap, h.items, h.room, h.tells⟩, h.journey⟩

/-- An event is logged that is no part of the way. -/
theorem Arrived.log (h : s.Arrived w map past t p) {e : Event}
    (htells : (w.contract s.directions).Tells (.log e)) (he : (Note.log e).isPassage = false) :
    s.Arrived w map past (t.log e) p :=
  h.append rfl rfl rfl (List.forall_mem_singleton.2 htells) (List.forall_mem_singleton.2 he)

theorem Arrived.passOn (h : s.Arrived w map past t p) :
    s.Arrived w map (past ++ t.notes) { t with notes := [] } p :=
  ⟨⟨h.player, h.onMap, h.items, h.room, List.forall_mem_nil _⟩, by
    rw [List.append_nil]
    exact h.journey⟩

theorem Arriving.passOn (h : s.Arriving w map past t p) :
    s.Arriving w map (past ++ t.notes) { t with notes := [] } p :=
  ⟨⟨h.player, h.onMap, h.items, h.room, List.forall_mem_nil _⟩, by
    rw [List.append_nil]
    exact h.journey⟩

/-! ### The single acts -/

/-- The notes of an effect that can be carried out. -/
theorem tells_effect {e : Effect} (he : e.IsSound s.directions) :
    ∀ n ∈ e.notes s.directions p, (w.contract s.directions).Tells n ∧ n.isPassage = false := by
  intro n hn
  have hknown := he.not_unknownDirection (p := p)
  have hlog : ∃ ev, n = .log ev ∧ Note.isPassage (.log ev) = false := by
    simp only [Effect.notes, List.mem_append] at hn
    rcases hn with (hn | hn) | hn
    · split at hn <;> simp_all [Note.isPassage]
    · split at hn <;> simp_all [Note.isPassage]
    · split at hn <;> simp_all [Note.isPassage]
  obtain ⟨ev, rfl, hev⟩ := hlog
  refine ⟨?_, hev⟩
  cases ev with
  | unknownDirection word username => exact absurd hn (hknown word username)
  | noRoom => cases hev
  | _ => trivial

/-- A condition of a room that can be played in is applied. -/
theorem Arrived.trigger (h : s.Arrived w map past t p) {a : Attribute}
    (ha : ∀ c ∈ a.conditions, ∀ e, c.effect = some e → e.IsSound s.directions)
    (hu : t.trigger s.directions p a = some u) : ∃ q, s.Arrived w map past u q := by
  unfold Turn.trigger at hu
  obtain ⟨c, hc, rfl⟩ := Option.map_eq_some_iff.1 hu
  have hmem : c ∈ a.conditions := Condition.mem_of_select? hc
  have hreply : (t.reply (.text c.message)).player = some p := h.player
  unfold Turn.applyCondition
  cases heffect : c.effect with
  | none =>
    simp only [hreply, Option.getD_some]
    exact ⟨p, (h.reply (.text c.message)).append rfl rfl rfl
      (List.forall_mem_singleton.2 ⟨h.items, h.items⟩) (List.forall_mem_singleton.2 rfl)⟩
  | some e =>
    have he := ha c hmem e heffect
    have hq := he.items_apply h.items
    simp only [hreply, Option.getD_some]
    refine ⟨e.apply s.directions p, ⟨⟨rfl, ?_, hq, h.room, ?_⟩, fun hmap => ?_⟩⟩
    · exact (Turn.Effect.apply_changedWithin s.directions e .none p).map.trans h.onMap
    · refine List.forall_mem_append.2 ⟨List.forall_mem_append.2 ⟨h.tells, ?_⟩, ?_⟩
      · exact fun n hn => (tells_effect he n hn).1
      · exact List.forall_mem_singleton.2 ⟨h.items, hq⟩
    · show w.journey (past ++ (t.notes ++ e.notes s.directions p ++ [_])) = _
      rw [List.append_assoc, ← List.append_assoc, w.journey_append]
      · exact h.journey hmap
      · refine List.forall_mem_append.2 ⟨fun n hn => (tells_effect (w := w) he n hn).2, ?_⟩
        exact List.forall_mem_singleton.2 rfl

/-- A room is entered: a player on the way comes to where players begin. -/
theorem Fares.enterRoom (h : s.Fares w map t p)
    (hjourney : map = w.map → w.journey (past ++ t.notes) = .over ∨
      w.journey (past ++ t.notes) = .begun ∧ p.x = w.origin.1 ∧ p.y = w.origin.2)
    {room : Room} (hroom : room.IsSound s.directions) (hat : room.isAt p.x p.y p.map = true) :
    ∃ q, s.Arrived w map past (s.enterRoom t room) q := by
  let described := (t.note (.entered room)).reply (.text room.description)
  have hends : map = w.map → w.journey (past ++ (t.notes ++ [.entered room])) = .over := by
    intro hmap
    rw [← List.append_assoc, w.journey_concat]
    rcases hjourney hmap with hover | ⟨hbegun, hx, hy⟩
    · rw [hover]
      rfl
    · rw [hx, hy, h.onMap, hmap] at hat
      rw [hbegun]
      simp [Journey.after, hat]
  have hdescribed : s.Arrived w map past described p :=
    ⟨⟨h.player, h.onMap, h.items, h.room,
      List.forall_mem_append.2 ⟨h.tells, List.forall_mem_singleton.2 trivial⟩⟩, hends⟩
  simp only [Setting.enterRoom, h.player]
  cases hentry : room.entry? with
  | none => exact ⟨p, hdescribed⟩
  | some a =>
    show ∃ q, s.Arrived w map past ((described.trigger s.directions p a).getD described) q
    cases htrigger : described.trigger s.directions p a with
    | none => exact ⟨p, hdescribed⟩
    | some u => exact hdescribed.trigger (hroom a (List.mem_of_find?_eq_some hentry)) htrigger

/-- The player comes to the room that was looked up. -/
theorem Arriving.arrive (h : s.Arriving w map past t p) {room : Option Room}
    (hroom : ∀ r, room = some r → r.isAt p.x p.y p.map = true ∧ r.IsSound s.directions)
    (horigin : w.IsOrigin p.x p.y p.map → room ≠ none) :
    ∃ q, s.Arrived w map past (s.arrive t p room).1 q := by
  cases room with
  | none =>
    have hnowhere : ¬w.IsOrigin p.x p.y p.map := fun ho => horigin ho rfl
    let missed := { t with room := some (.empty p.x p.y p.map) }.log
      (.noRoom p.username p.x p.y p.map)
    have hmissed : s.Arrived w map past missed p := by
      refine ⟨⟨h.player, h.onMap, h.items, ?_, ?_⟩, fun hmap => ?_⟩
      · rintro r hr a ha
        obtain rfl := Option.some.inj hr
        exact nomatch ha
      · exact List.forall_mem_append.2 ⟨h.tells, List.forall_mem_singleton.2 hnowhere⟩
      · show w.journey (past ++ (t.notes ++ [_])) = _
        rw [← List.append_assoc, w.journey_concat]
        rcases h.journey hmap with hover | ⟨-, -, hx, hy⟩
        · rw [hover]
          rfl
        · exact absurd ⟨hx, hy, h.onMap.trans hmap⟩ hnowhere
    unfold Setting.arrive
    dsimp only
    split
    · refine ⟨p, Arrived.say ?_ _⟩
      exact ⟨⟨hmissed.player, hmissed.onMap, hmissed.items, hmissed.room, hmissed.tells⟩,
        hmissed.journey⟩
    · exact ⟨p, hmissed⟩
  | some room =>
    obtain ⟨hat, hsound⟩ := hroom room rfl
    have hcome : ∀ r, some room = some r → r.IsSound s.directions :=
      fun r hr => Option.some.inj hr ▸ hsound
    unfold Setting.arrive
    dsimp only
    split
    · have hfares : s.Fares w map
          { t with room := some room, pending := { t.pending with arrival := false } } p :=
        ⟨h.player, h.onMap, h.items, hcome, h.tells⟩
      refine hfares.enterRoom (fun hmap => ?_) hsound hat
      exact (h.journey hmap).imp_right fun hbegun => ⟨hbegun.1, hbegun.2.2⟩
    · next harrival =>
      refine ⟨p, ⟨⟨h.player, h.onMap, h.items, hcome, h.tells⟩, fun hmap => ?_⟩⟩
      exact (h.journey hmap).resolve_right fun hbegun => harrival hbegun.2.1

/-- The player is reset, and so put where players begin. -/
theorem Arrived.reset (h : s.Arrived w map past t p)
    (horigin : s.origin = [w.origin.1, w.origin.2]) (everything : Bool) :
    ∃ q, s.Arriving w map past (s.reset t everything).1 q := by
  unfold Setting.reset
  rw [h.player, horigin, Origin.place_pair]
  dsimp only
  rw [Turn.say_eq]
  refine ⟨p.resetTo w.origin everything, ⟨rfl, h.onMap, ?_, h.room, ?_⟩, fun hmap => .inr ?_⟩
  · unfold Player.resetTo
    cases everything with
    | true => exact Inventory.not_mem_empty _
    | false => exact h.items
  · exact List.forall_mem_append.2 ⟨h.tells, List.forall_mem_singleton.2 trivial⟩
  · refine ⟨?_, rfl, rfl, rfl⟩
    show w.journey (past ++ (t.notes ++ [_])) = _
    rw [← List.append_assoc, w.journey_concat, h.journey hmap]
    rfl

/-- A reaction is carried out in a room that can be played in. -/
theorem Arrived.perform (h : s.Arrived w map past t p)
    (horigin : s.origin = [w.origin.1, w.origin.2]) {room : Room} {r : Reaction}
    (hr : ∀ a, r = .triggers a →
      ∀ c ∈ a.conditions, ∀ e, c.effect = some e → e.IsSound s.directions) :
    ∃ q, s.Arriving w map past (s.perform t p room r).1 q := by
  cases r with
  | ignored =>
    have hlogged : s.Arrived w map past (t.log (.finishedIgnored p.username p.status)) p :=
      h.log trivial rfl
    exact ⟨p, hlogged.arriving⟩
  | notUnderstood => exact ⟨p, (h.say _).arriving⟩
  | reset everything => exact h.reset horigin everything
  | resetRefused => exact ⟨p, (h.say _).arriving⟩
  | triggers a =>
    simp only [Setting.perform]
    split
    · next u hu =>
      obtain ⟨q, hq⟩ := h.trigger (hr a rfl) hu
      exact ⟨q, hq.arriving⟩
    · exact ⟨p, (h.say _).arriving⟩
  | look =>
    simp only [Setting.perform, Setting.look]
    split
    · exact ⟨p, (h.say _).arriving⟩
    · exact ⟨p, (h.reply _).arriving⟩
  | exits =>
    simp only [Setting.perform, Setting.listExits]
    split
    · exact ⟨p, (h.say _).arriving⟩
    · split
      · exact ⟨p, (h.reply _).arriving⟩
      · exact ⟨p, h.arriving⟩
  | unmatched verb object =>
    have hlogged : s.Arrived w map past (t.log (.nothingTriggered verb object)) p :=
      h.log trivial rfl
    exact ⟨p, (hlogged.say _).arriving⟩

/-- An attribute that a line triggers is one of the room. -/
theorem mem_of_react {room : Room} {phrase : Option Phrase} {a : Attribute}
    (h : s.react p room phrase = .triggers a) : a ∈ room.attributes := by
  unfold react reactToReset reactInRoom at h
  split at h
  · split at h <;> cases h
  · split at h
    · split at h
      · cases h
      · split at h <;> cases h
    · split at h
      · cases h
      · split at h
        · next htriggered =>
          obtain rfl := Reaction.triggers.inj h
          exact List.mem_of_find?_eq_some htriggered
        · split at h
          · cases h
          · split at h <;> cases h

/-- The line is acted upon. -/
theorem Arrived.dispatch (h : s.Arrived w map past t p)
    (horigin : s.origin = [w.origin.1, w.origin.2]) :
    ∃ q, s.Arriving w map past (s.dispatch t).1 q := by
  unfold Setting.dispatch
  split
  · next hnone => exact absurd (hnone.symm.trans h.player) (by simp)
  · next q hq =>
    obtain rfl : q = p := Option.some.inj (hq.symm.trans h.player)
    let reading := s.vocabulary.readLine t.line
    let read : Turn := { t with
      phrase := reading.phrase?
      notes := t.notes ++ [.acted t.line (roomOf t q)] ++ readingNotes t.line reading }
    have hreading : ∀ n ∈ readingNotes t.line reading,
        (w.contract s.directions).Tells n ∧ n.isPassage = false := by
      cases reading <;> simp [readingNotes, World.contract, Note.isPassage]
    have hread : s.Arrived w map past read q := by
      refine h.append rfl rfl (List.append_assoc _ _ _) ?_ ?_
      · exact List.forall_mem_append.2
          ⟨List.forall_mem_singleton.2 trivial, fun n hn => (hreading n hn).1⟩
      · exact List.forall_mem_append.2
          ⟨List.forall_mem_singleton.2 rfl, fun n hn => (hreading n hn).2⟩
    refine hread.perform horigin fun a ha => ?_
    have hmem := mem_of_react ha
    unfold roomOf at hmem
    cases hroom : t.room with
    | none => exact absurd (hroom ▸ hmem) List.not_mem_nil
    | some room =>
      rw [hroom] at hmem
      exact h.room room hroom a hmem

end Acts

end Setting

end TextAdventure
