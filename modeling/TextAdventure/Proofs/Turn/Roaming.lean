import TextAdventure.Proofs.Turn.Contract
import TextAdventure.Proofs.Turn.Lifetime

/-!
# Where rooms lead a player

A player who comes to a room may be moved on by the effect of entering it, and so on from room to
room. `Setting.roam` follows the player without any store: it depends on the rooms and on the player
alone. If nothing goes wrong, this is what becomes of the player of a turn. After a reset the player
roams from where players begin, whatever was before (`Setting.resume_reset`), and a new player whose
line is not understood does so with one more room (`Setting.resume_created`): the one that is entered
before the line is acted upon.
-/

namespace TextAdventure

/-- Two players who fare alike: only who they are may differ. -/
def Player.FaresLike (p q : Player) : Prop := q = { p with id := q.id, username := q.username }

namespace Player.FaresLike

variable {p q r : Player}

theorem refl (p : Player) : p.FaresLike p := rfl

theorem symm (h : p.FaresLike q) : q.FaresLike p := by
  rw [FaresLike] at h ⊢
  rw [h]

theorem trans (h : p.FaresLike q) (h' : q.FaresLike r) : p.FaresLike r := by
  rw [FaresLike] at h h' ⊢
  rw [h', h]

/-- Players who fare alike are moved alike. -/
theorem apply (h : p.FaresLike q) (directions : Directions) (e : Effect) :
    (e.apply directions p).FaresLike (e.apply directions q) := by
  rw [FaresLike] at h ⊢
  rw [h]
  unfold Effect.apply Effect.movePlayer
  cases e.distance? directions <;> rfl

/-- A reset makes players fare alike who are on the same map, if they are to hold the same. -/
theorem resetTo (hmap : q.map = p.map) (place : Int × Int) {everything : Bool}
    (hitems : everything = true ∨ q.items = p.items) :
    (p.resetTo place everything).FaresLike (q.resetTo place everything) := by
  rcases hitems with rfl | hitems
  · simp [FaresLike, Player.resetTo, hmap]
  · simp [FaresLike, Player.resetTo, hmap, hitems]

end Player.FaresLike

/-- The effect that entering a room has on a player. -/
def Room.entryEffect? (room : Room) (p : Player) : Option Effect :=
  room.entry?.bind fun a => (Condition.select? p.items a.conditions).bind (·.effect)

/-- The rooms of a world by their positions and maps. -/
abbrev Atlas := Int → Int → String → Option Room

namespace Setting

section Roam

variable (s : Setting) (atlas : Atlas)

/-- A player enters a room, if there is one. The flag tells whether the player is moved on. -/
def comeInto (room : Option Room) (p : Player) : Player × Bool :=
  match room.bind (·.entryEffect? p) with
  | none => (p, false)
  | some e => (e.apply s.directions p, (e.distance? s.directions).isSome)

/-- A player who may have come to a place, as the flag tells, enters rooms until moved on no more, but
no more than a number of rooms. -/
def roam : Nat → Player × Bool → Player × Bool
  | n + 1, (p, true) => roam n (s.comeInto (atlas p.x p.y p.map) p)
  | _, x => x

@[simp] theorem roam_zero (x : Player × Bool) : s.roam atlas 0 x = x := by
  unfold roam
  rfl

theorem roam_arrived (n : Nat) (p : Player) :
    s.roam atlas (n + 1) (p, true) = s.roam atlas n (s.comeInto (atlas p.x p.y p.map) p) := rfl

@[simp] theorem roam_settled (n : Nat) (p : Player) : s.roam atlas n (p, false) = (p, false) := by
  cases n <;> rfl

/-- Rooms may be entered in portions. -/
theorem roam_add (m n : Nat) (x : Player × Bool) :
    s.roam atlas (m + n) x = s.roam atlas n (s.roam atlas m x) := by
  induction m generalizing x with
  | zero => rw [Nat.zero_add, roam_zero]
  | succ m ih =>
    obtain ⟨p, arrival⟩ := x
    cases arrival with
    | false => simp only [roam_settled]
    | true => rw [Nat.succ_add, roam_arrived, roam_arrived, ih]

/-- Who has come to rest goes no further. -/
theorem roam_add_of_settled {m : Nat} (n : Nat) {x : Player × Bool}
    (h : (s.roam atlas m x).2 = false) : s.roam atlas (m + n) x = s.roam atlas m x := by
  rw [roam_add, ← Prod.eta (s.roam atlas m x), h, roam_settled]

/-- Players who fare alike come into a room alike. -/
theorem comeInto_faresLike {p q : Player} (h : p.FaresLike q) (room : Option Room) :
    (s.comeInto room p).1.FaresLike (s.comeInto room q).1 ∧
      (s.comeInto room q).2 = (s.comeInto room p).2 := by
  have heffect : room.bind (·.entryEffect? q) = room.bind (·.entryEffect? p) := by
    rw [show q = { p with id := q.id, username := q.username } from h]
    rfl
  unfold comeInto
  rw [heffect]
  split
  · exact ⟨h, rfl⟩
  · exact ⟨h.apply _ _, rfl⟩

/-- Players who fare alike roam alike. -/
theorem roam_faresLike (n : Nat) {p q : Player} (h : p.FaresLike q) (arrival : Bool) :
    (s.roam atlas n (p, arrival)).1.FaresLike (s.roam atlas n (q, arrival)).1 ∧
      (s.roam atlas n (q, arrival)).2 = (s.roam atlas n (p, arrival)).2 := by
  induction n generalizing p q arrival with
  | zero => simpa only [roam_zero, and_true] using h
  | succ n ih =>
    cases arrival with
    | false => simpa only [roam_settled, and_true] using h
    | true =>
      have hplace : atlas q.x q.y q.map = atlas p.x p.y p.map := by
        rw [show q = { p with id := q.id, username := q.username } from h]
      obtain ⟨hlike, hflag⟩ := s.comeInto_faresLike h (atlas p.x p.y p.map)
      rw [roam_arrived, roam_arrived, hplace, ← Prod.eta (s.comeInto _ q), hflag]
      exact ih hlike _

end Roam

/-! ### Turns in which nothing goes wrong -/

/-- What a turn relies on that has got its player, if nothing goes wrong: a new player is given an
identity, and the rooms are the ones of an atlas. -/
def contractOf (atlas : Atlas) : Contract where
  Asks := Query.Follows
  Fits
    | .findPlayer .., _ | .updatePlayer .., _ => True
    | .insertPlayer _, answer =>
      ∃ stored id, (answer : Except StorageError Fields) = .ok stored ∧
        stored.get? "_id" = some id ∧ id ≠ .null
    | .findRoom x y map, answer => Script.roomFound x y map answer = .ok (atlas x y map)
  Tells _ := True

theorem contractOf_admits (atlas : Atlas) (p : Player) : (contractOf atlas).Admits p where
  saves _ _ := trivial
  tells _ _ := trivial

/-- A line asks for a reset, with empty hands or not. -/
def AsksReset (s : Setting) (everything : Bool) (line : String) : Prop :=
  ∃ p, s.vocabulary.parse? line = some p ∧ p.verb = s.vocabulary.wordFor .reset ∧
    s.reactToReset p.object = .reset everything

instance (s : Setting) (everything : Bool) (line : String) :
    Decidable (s.AsksReset everything line) :=
  decidable_of_iff
    ((s.vocabulary.parse? line).any fun p => decide (p.verb = s.vocabulary.wordFor .reset ∧
      s.reactToReset p.object = .reset everything) = true)
    (by simp [AsksReset, Option.any_eq_true])

section Parts

variable {s : Setting} {atlas : Atlas} {past : List Note} {t : Turn} {p : Player}

/-- What becomes of the player and the line of a turn, and whether the player has come to a place. -/
def HasCome (line : String) (x : Player × Bool) (_ : List Note) (t : Turn) (p : Player) : Prop :=
  t.player = some p ∧ t.line = line ∧ (p, t.pending.arrival) = x

/-- A message leaves everything but the replies alone. -/
theorem HasCome.say {line : String} {x : Player × Bool} {ns : List Note}
    (h : HasCome line x ns t p) (messages : Value) (key : String) :
    HasCome line x ns (t.say messages key).1 p := by
  rw [t.say_eq]
  exact h

/-- Entering a room. -/
theorem hasCome_enterRoom (hp : t.player = some p) (hsettled : t.pending.arrival = false)
    (room : Room) (ns : List Note) :
    HasCome t.line (s.comeInto (some room) p) ns (s.enterRoom t room)
      (s.comeInto (some room) p).1 := by
  unfold enterRoom
  rw [hp]
  dsimp only
  have hstay : s.comeInto (some room) p = (p, false) →
      HasCome t.line (s.comeInto (some room) p) ns
        ((t.note (.entered room)).reply (.text room.description))
        (s.comeInto (some room) p).1 := by
    intro hcome
    rw [hcome]
    exact ⟨hp, rfl, by rw [← hsettled]; rfl⟩
  cases hentry : room.entry? with
  | none => exact hstay (by simp [comeInto, Room.entryEffect?, hentry])
  | some a =>
    cases hselect : Condition.select? p.items a.conditions with
    | none =>
      simp only [Turn.trigger, hselect, Option.map_none, Option.getD_none]
      exact hstay (by simp [comeInto, Room.entryEffect?, hentry, hselect])
    | some c =>
      simp only [Turn.trigger, hselect, Option.map_some, Option.getD_some]
      cases heffect : c.effect with
      | none =>
        have hcome : s.comeInto (some room) p = (p, false) := by
          simp [comeInto, Room.entryEffect?, hentry, hselect, heffect]
        rw [hcome]
        simp [HasCome, Turn.applyCondition, Turn.reply, Turn.note, heffect, hp, hsettled]
      | some e =>
        have hcome : s.comeInto (some room) p =
            (e.apply s.directions p, (e.distance? s.directions).isSome) := by
          simp [comeInto, Room.entryEffect?, hentry, hselect, heffect]
        rw [hcome]
        simp [HasCome, Turn.applyCondition, Turn.reply, Turn.note, heffect, hp, hsettled,
          Effect.mark]

/-- Coming to a place with a room or without one. -/
theorem hasCome_arrive (hp : t.player = some p) (room : Option Room) (ns : List Note) :
    ∃ q, HasCome t.line (if t.pending.arrival then s.comeInto room p else (p, false)) ns
      (s.arrive t p room).1 q := by
  cases harrival : t.pending.arrival with
  | false =>
    refine ⟨p, ?_⟩
    cases room <;> simp [arrive, harrival, HasCome, Turn.log, Turn.note, hp]
  | true =>
    cases room with
    | none =>
      refine ⟨p, ?_⟩
      let coming : Turn := Turn.log
        { t with
          room := some (.empty p.x p.y p.map)
          pending := { t.pending with arrival := false } }
        (.noRoom p.username p.x p.y p.map)
      simp only [arrive, Turn.log, Turn.note, harrival, if_true]
      exact HasCome.say (t := coming) ⟨hp, rfl, rfl⟩ s.messages "nowhere"
    | some room =>
      let coming : Turn :=
        { t with room := some room, pending := { t.pending with arrival := false } }
      simp only [arrive, harrival, if_true]
      exact ⟨_, hasCome_enterRoom (t := coming) hp rfl room ns⟩

/-- The room of the player is looked up, and entered if the player has come to it. -/
theorem enter_roams (hs : s.Usable) (hp : t.player = some p) (herror : t.error = none)
    (hcomplete : t.isComplete = false) :
    (s.enter t).Keeps (contractOf atlas)
      (LeadsTo (HasCome t.line (s.roam atlas 1 (p, t.pending.arrival)))) past := by
  unfold enter
  split
  · next hnone => exact absurd (hnone.symm.trans hp) (by simp)
  · next q hq =>
    obtain rfl : q = p := Option.some.inj (hq.symm.trans hp)
    refine ⟨trivial, fun answer hfits => ?_⟩
    have hroom : Script.roomFound q.x q.y q.map answer = .ok (atlas q.x q.y q.map) := hfits
    simp only [Script.bind, hroom]
    let noticed : Turn := { t with statusAtEntry := t.statusAtEntry.or (some q.status) }
    obtain ⟨q', hcome⟩ := hasCome_arrive (s := s) (t := noticed) hq (atlas q.x q.y q.map)
      (past ++ (s.arrive noticed q (atlas q.x q.y q.map)).1.notes)
    have hroam : s.roam atlas 1 (q, t.pending.arrival) =
        if t.pending.arrival then s.comeInto (atlas q.x q.y q.map) q else (q, false) := by
      split
      · next h => rw [h, roam_arrived, roam_zero]
      · next h => rw [Bool.eq_false_iff.2 h, roam_settled]
    rw [hroam]
    exact LeadsTo.pass (p := q') (s.arrive_onward noticed q (atlas q.x q.y q.map))
      (hs.arrive _ _ _) herror hcomplete (fun _ _ => trivial) hcome

theorem persist_roams {line : String} {x : Player × Bool} {ns : List Note}
    (h : HasCome line x ns t p) :
    (persist t).Keeps (contractOf atlas) (fun ns u => OnlySaves past t ns u ∧ HasCome line x ns u p)
      past := by
  refine (OnlySaves.persist fun q _ => contractOf_admits atlas q).imp fun ns u hu => ⟨hu, ?_⟩
  obtain ⟨⟨todo, rfl, harrival⟩, -⟩ := hu
  obtain ⟨hp, hline, hx⟩ := h
  exact ⟨hp, hline, by rw [← hx, ← harrival]⟩

/-- The rooms that the player comes to are entered. -/
theorem announce_roams (hs : s.Usable) (n : Nat) (hp : t.player = some p) (hnotes : t.notes = [])
    (herror : t.error = none) (hcomplete : t.isComplete = false) :
    (s.announce n t).Keeps (contractOf atlas)
      (LeadsTo fun _ u q => u.player = some q ∧ q = (s.roam atlas n (p, t.pending.arrival)).1)
      past := by
  -- every room may move the player on, so the induction is on how many more may be entered
  induction n generalizing past t p with
  | zero =>
    rw [roam_zero]
    unfold announce
    split
    · refine LeadsTo.pass (t := t) (p := p) ?_ rfl herror hcomplete (fun _ _ => trivial) ⟨hp, rfl⟩
      exact (t.arrival_onward t.room false).trans (Turn.log_onward _ _)
    · exact ⟨rfl, hnotes, herror, hcomplete, p, hp, rfl⟩
  | succ n ih =>
    unfold announce
    split
    · refine LeadsTo.andThen (enter_roams hs hp herror hcomplete)
        fun ns u q hnotes' herror' hcomplete' hcome => ?_
      refine Script.Keeps.bind ((persist_roams hcome).imp ?_)
      rintro ns' v ⟨⟨⟨todo, rfl, -⟩, -⟩, hv, -, hx⟩
      rw [Nat.add_comm n 1, roam_add, ← hx]
      exact ih hv hnotes' herror' hcomplete'
    · next harrival =>
      rw [Bool.eq_false_iff.2 harrival, roam_settled]
      exact ⟨rfl, hnotes, herror, hcomplete, p, hp, rfl⟩

/-- Whoever the line sends somewhere enters rooms from there. -/
theorem goOn_roams (hs : s.Usable) (hp : t.player = some p) (herror : t.error = none)
    (hcomplete : t.isComplete = false) {x : Player × Bool}
    (hdispatch : ∀ u q ns, HasCome t.line (s.roam atlas 1 (p, t.pending.arrival)) ns u q →
      ∃ q', HasCome t.line x ns (s.dispatch u).1 q') :
    (s.goOn t).Keeps (contractOf atlas)
      (LeadsTo fun _ u q => u.player = some q ∧ q = (s.roam atlas maxRoomChain x).1) past := by
  refine LeadsTo.andThen (enter_roams hs hp herror hcomplete)
    fun ns u q _ herror' hcomplete' hcome => ?_
  obtain ⟨q', hcome'⟩ := hdispatch u q (ns ++ (s.dispatch u).1.notes) hcome
  have hpass : (Run.pass (s.dispatch u)).Keeps (contractOf atlas) (LeadsTo (HasCome t.line x)) ns :=
    LeadsTo.pass (s.dispatch_onward u) (hs.dispatch u) herror' hcomplete' (fun _ _ => trivial) hcome'
  refine LeadsTo.andThen hpass fun ns u q hnotes' herror' hcomplete' hcome => ?_
  refine Script.Keeps.bind ((persist_roams hcome).imp ?_)
  rintro ns' v ⟨⟨⟨todo, rfl, -⟩, -⟩, hv, -, hx⟩
  rw [← hx]
  exact announce_roams hs maxRoomChain hv hnotes' herror' hcomplete'

/-- A line that asks for a reset sends the player back to where players begin. -/
theorem hasCome_dispatch_reset {line : String} {everything : Bool}
    (hline : s.AsksReset everything line) {place : Int × Int} (hplace : s.origin.place = .ok place)
    {x : Player × Bool} {ns : List Note} (h : HasCome line x ns t p) :
    HasCome line (p.resetTo place everything, true) ns (s.dispatch t).1
      (p.resetTo place everything) := by
  obtain ⟨hp, rfl, -⟩ := h
  obtain ⟨phrase, hparse, hverb, hreset⟩ := hline
  have hreact : ∀ room, s.react p room (s.vocabulary.readLine t.line).phrase? =
      .reset everything := by
    intro room
    rw [show (s.vocabulary.readLine t.line).phrase? = some phrase from hparse]
    simp [react, hverb, hreset]
  simp only [dispatch, hp, hreact, perform, reset, hplace]
  exact HasCome.say ⟨rfl, rfl, rfl⟩ _ _

/-- A line that is not understood leaves the player alone. -/
theorem hasCome_dispatch_unread {line : String} (hline : s.vocabulary.parse? line = none)
    {x : Player × Bool} {ns : List Note} (h : HasCome line x ns t p) :
    HasCome line x ns (s.dispatch t).1 p := by
  obtain ⟨hp, rfl, hx⟩ := h
  have hparse : (s.vocabulary.readLine t.line).phrase? = none := hline
  simp only [dispatch, hp, hparse, react]
  split
  · exact ⟨rfl, rfl, hx⟩
  · refine HasCome.say ?_ s.messages "parse_failure"
    exact ⟨rfl, rfl, hx⟩

end Parts

/-! ### Resets and new players -/

/-- How a turn ends in which nothing goes wrong: its player fares like a given one. -/
def EndsLike (q : Player) (x : Turn × Option Halt) : Prop :=
  x.2 = none ∧ x.1.error = none ∧ ∃ p, x.1.player = some p ∧ q.FaresLike p

section Whole

variable {s : Setting} {atlas : Atlas} {line username map : String}

theorem finish_endsLike (hs : s.Usable) {past : List Note} {p q : Player} {r : Run}
    (hlike : q.FaresLike p)
    (h : r.Keeps (contractOf atlas) (LeadsTo fun _ u q => u.player = some q ∧ q = p) past) :
    (r.bind s.wrapUp).Keeps (contractOf atlas) (fun _ => EndsLike q) past := by
  refine Script.Keeps.bind (h.imp ?_)
  rintro ns ⟨u, halt⟩ ⟨hhalt, hnotes, herror, hcomplete, _, hu, rfl⟩
  obtain rfl : halt = none := hhalt
  refine (finish_keeps hs hu (contractOf_admits atlas _) hnotes herror hcomplete).imp
    fun ns x hx => ?_
  exact ⟨hx.halt, hx.error, _, hx.player.trans hu, hlike⟩

/-- Wherever and whatever a player was, after a reset the player roams from where players begin. -/
theorem resume_reset (hs : s.Usable) {place : Int × Int} (hplace : s.origin.place = .ok place)
    {everything : Bool} (hline : s.AsksReset everything line) (p : Player) :
    (s.resume (.start line username map) (.ok (some p))).Keeps (contractOf atlas)
      (fun _ => EndsLike (s.roam atlas maxRoomChain (p.resetTo place everything, true)).1) [] := by
  rw [resume_eq]
  refine finish_endsLike hs (.refl _)
    (goOn_roams (t := { Turn.start line username map with player := some p }) hs rfl rfl rfl ?_)
  intro u q ns hcome
  -- the player has not come to a place, so no room is entered before the reset
  obtain rfl : q = p := congrArg Prod.fst hcome.2.2
  exact ⟨_, hasCome_dispatch_reset hline hplace hcome⟩

/-- A new player whose line is not understood roams from where players begin. -/
theorem resume_created (hs : s.Usable) {place : Int × Int} (hplace : s.origin.start = .ok place)
    (hline : s.vocabulary.parse? line = none) :
    (s.resume (.start line username map) (.ok none)).Keeps (contractOf atlas)
      (fun _ => EndsLike (s.roam atlas (1 + maxRoomChain)
        (.atPosition username map place.1 place.2, true)).1) [] := by
  rw [resume_eq, meet, hplace]
  refine ⟨⟨_, rfl⟩, fun answer hfits => ?_⟩
  obtain ⟨stored, id, rfl, hid, hnull⟩ := hfits
  have hcreated : ∀ p : Player, Script.playerCreated p (.ok stored) = .ok { p with id } := by
    intro p
    simp only [Script.playerCreated, hid]
  simp only [hcreated]
  refine ⟨fun _ _ => trivial, ?_⟩
  have hlike : (Player.atPosition username map place.1 place.2).FaresLike
      { Player.atPosition username map place.1 place.2 with id } := rfl
  refine finish_endsLike hs (s.roam_faresLike atlas _ hlike true).1 ?_
  rw [roam_add]
  exact goOn_roams (t := { Turn.start line username map with
    player := some { Player.atPosition username map place.1 place.2 with id }
    pending := { Pending.none with arrival := true } }) hs rfl rfl rfl
    fun u q ns hcome => ⟨q, hasCome_dispatch_unread hline hcome⟩

end Whole

end Setting

end TextAdventure
