import TextAdventure.Turn.Play

/-!
# What acting changes of a turn

Between two queries a turn acts: on the line of the player, or on entering a room. Acting never
touches whose turn it is, what it began with and how it will end; it changes the player only in
what it marks as pending, and it hands out nothing yet. `Turn.Onward` states this of two states of
a turn, and `Setting.dispatch_onward` and `Setting.enterRoom_onward` prove it of both ways to act.

With a complete message table and a place to begin, acting does not break off either
(`Setting.Usable.dispatch`).
-/

namespace TextAdventure

/-- The notes that end a turn: the replies that are handed out, and its completion. -/
def Note.isEnding : Note → Bool
  | .replied _ | .completed => true
  | _ => false

/-- A player is the same, and changed in pending parts only. -/
structure Player.ChangedWithin (todo : Pending) (p q : Player) : Prop where
  id : q.id = p.id
  username : q.username = p.username
  map : q.map = p.map
  items : todo.items = false → q.items = p.items
  place : todo.position = false → q.x = p.x ∧ q.y = p.y

namespace Player.ChangedWithin

theorem refl (todo : Pending) (p : Player) : p.ChangedWithin todo p :=
  ⟨rfl, rfl, rfl, fun _ => rfl, fun _ => ⟨rfl, rfl⟩⟩

/-- With nothing pending, only the status can have changed. -/
theorem eq_of_saved {todo : Pending} {p q : Player} (h : p.ChangedWithin todo q)
    (hitems : todo.items = false) (hposition : todo.position = false) :
    q = { p with status := q.status } := by
  obtain ⟨hx, hy⟩ := h.place hposition
  have hi := h.items hitems
  obtain ⟨hid, husername, hmap, -, -⟩ := h
  cases p
  cases q
  simp_all

end Player.ChangedWithin

namespace Turn

/-- A turn has acted: what has become of it. -/
structure Onward (t u : Turn) : Prop where
  username : u.username = t.username
  map : u.map = t.map
  statusAtEntry : u.statusAtEntry = t.statusAtEntry
  error : u.error = t.error
  isComplete : u.isComplete = t.isComplete
  items : t.pending.items = true → u.pending.items = true
  position : t.pending.position = true → u.pending.position = true
  player : ∀ p, t.player = some p → ∃ q, u.player = some q ∧ p.ChangedWithin u.pending q
  notes : ∃ more, u.notes = t.notes ++ more ∧ ∀ n ∈ more, n.isEnding = false

namespace Onward

variable {t u v : Turn}

theorem refl (t : Turn) : t.Onward t where
  username := rfl
  map := rfl
  statusAtEntry := rfl
  error := rfl
  isComplete := rfl
  items := id
  position := id
  player := fun p hp => ⟨p, hp, .refl _ p⟩
  notes := ⟨[], by simp, by simp⟩

theorem trans (h : t.Onward u) (k : u.Onward v) : t.Onward v where
  username := k.username.trans h.username
  map := k.map.trans h.map
  statusAtEntry := k.statusAtEntry.trans h.statusAtEntry
  error := k.error.trans h.error
  isComplete := k.isComplete.trans h.isComplete
  items := k.items ∘ h.items
  position := k.position ∘ h.position
  player := by
    intro p hp
    obtain ⟨q, hq, hpq⟩ := h.player p hp
    obtain ⟨r, hr, hqr⟩ := k.player q hq
    -- what is not pending at the end was not pending in between
    have hitems : v.pending.items = false → u.pending.items = false := fun e =>
      Bool.eq_false_iff.2 fun e' => by simp [k.items e'] at e
    have hposition : v.pending.position = false → u.pending.position = false := fun e =>
      Bool.eq_false_iff.2 fun e' => by simp [k.position e'] at e
    refine ⟨r, hr, hqr.id.trans hpq.id, hqr.username.trans hpq.username, hqr.map.trans hpq.map,
      fun e => (hqr.items e).trans (hpq.items (hitems e)), fun e => ?_⟩
    obtain ⟨hx, hy⟩ := hpq.place (hposition e)
    exact ⟨(hqr.place e).1.trans hx, (hqr.place e).2.trans hy⟩
  notes := by
    obtain ⟨ms, hu, hms⟩ := h.notes
    obtain ⟨ns, hv, hns⟩ := k.notes
    refine ⟨ms ++ ns, by rw [hv, hu, List.append_assoc], fun n hn => ?_⟩
    exact (List.mem_append.1 hn).elim (hms n) (hns n)

end Onward

/-! ### The single acts -/

theorem reply_onward (t : Turn) (r : Value) : t.Onward (t.reply r) :=
  { Onward.refl t with }

theorem notes_onward (t : Turn) (ns : List Note) (h : ∀ n ∈ ns, n.isEnding = false) :
    t.Onward { t with notes := t.notes ++ ns } :=
  { Onward.refl t with notes := ⟨ns, rfl, h⟩ }

theorem note_onward (t : Turn) (n : Note) (h : n.isEnding = false) : t.Onward (t.note n) :=
  t.notes_onward [n] (by simpa using h)

theorem log_onward (t : Turn) (e : Event) : t.Onward (t.log e) := t.note_onward _ rfl

/-- Coming into a room, and announcing it or not. -/
theorem arrival_onward (t : Turn) (room : Option Room) (arrival : Bool) :
    t.Onward { t with room, pending := { t.pending with arrival } } :=
  { Onward.refl t with player := fun p hp => ⟨p, hp, .refl _ p⟩ }

theorem say_onward (t : Turn) (messages : Value) (key : String) :
    t.Onward (t.say messages key).1 := by
  unfold say
  split
  · exact t.reply_onward _
  · exact .refl t

/-- Saying something adds a reply and changes nothing else. -/
theorem say_eq (t : Turn) (messages : Value) (key : String) :
    (t.say messages key).1 = { t with replies := (t.say messages key).1.replies } := by
  unfold say
  split <;> rfl

/-- The notes of an effect are for the log. -/
theorem isEnding_of_mem_notes {directions : Directions} {e : Effect} {p : Player} {n : Note}
    (h : n ∈ e.notes directions p) : n.isEnding = false := by
  simp only [Effect.notes, List.mem_append] at h
  rcases h with (h | h) | h
  · split at h <;> simp_all [Note.isEnding]
  · split at h <;> simp_all [Note.isEnding]
  · split at h <;> simp_all [Note.isEnding]

/-- An effect changes the player in what it marks. -/
theorem Effect.apply_changedWithin (directions : Directions) (e : Effect) (todo : Pending)
    (p : Player) : p.ChangedWithin (e.mark directions todo) (e.apply directions p) := by
  refine ⟨?_, ?_, ?_, fun h => ?_, fun h => ?_⟩
  · unfold Effect.apply Effect.movePlayer; split <;> rfl
  · unfold Effect.apply Effect.movePlayer; split <;> rfl
  · unfold Effect.apply Effect.movePlayer; split <;> rfl
  · have : e.items = [] := by simp_all [Effect.mark]
    simp [Effect.apply, this, Inventory.applyWords]
  · have : e.distance? directions = none := by simp_all [Effect.mark]
    simp [Effect.apply, Effect.movePlayer, this]

theorem applyCondition_onward (t : Turn) (directions : Directions) (c : Condition) :
    t.Onward (t.applyCondition directions c) := by
  refine (t.reply_onward (.text c.message)).trans ?_
  unfold applyCondition
  dsimp only
  split
  · next e p _ hp =>
    exact
      { Onward.refl _ with
        items := fun h => by simp [Effect.mark, h]
        position := fun h => by simp [Effect.mark, h]
        player := fun q hq => by
          obtain rfl : p = q := by rw [hp] at hq; exact Option.some.inj hq
          exact ⟨_, rfl, Effect.apply_changedWithin directions e _ p⟩
        notes := ⟨_, rfl, fun _ => isEnding_of_mem_notes⟩ }
  · exact .refl _

theorem trigger_onward {t u : Turn} {directions : Directions} {p : Player} {a : Attribute}
    (h : t.trigger directions p a = some u) : t.Onward u := by
  unfold trigger at h
  obtain ⟨c, -, rfl⟩ := Option.map_eq_some_iff.1 h
  exact (t.applyCondition_onward directions c).trans (note_onward _ _ rfl)

end Turn

namespace Setting

variable (s : Setting)

theorem reset_onward (t : Turn) (everything : Bool) : t.Onward (s.reset t everything).1 := by
  unfold reset
  split
  · exact .refl t
  · next p hp =>
    split
    · exact .refl t
    · refine Turn.Onward.trans ?_ ((Turn.log_onward _ _).trans (Turn.say_onward _ _ _))
      exact
        { Turn.Onward.refl t with
          items := fun h => by simp [h]
          position := fun _ => rfl
          player := fun q hq => by
            obtain rfl : p = q := by rw [hp] at hq; exact Option.some.inj hq
            refine ⟨_, rfl, rfl, rfl, rfl, fun h => ?_, fun h => by simp at h⟩
            simp_all [Player.resetTo] }

theorem look_onward (t : Turn) (room : Room) : t.Onward (s.look t room).1 := by
  unfold look
  split
  · exact t.say_onward _ _
  · exact t.reply_onward _

theorem listExits_onward (t : Turn) (room : Room) : t.Onward (s.listExits t room).1 := by
  unfold listExits
  split
  · exact t.say_onward _ _
  · split
    · exact t.reply_onward _
    · exact .refl t

theorem perform_onward (t : Turn) (p : Player) (room : Room) (r : Reaction) :
    t.Onward (s.perform t p room r).1 := by
  cases r with
  | ignored => exact t.log_onward _
  | notUnderstood => exact t.say_onward _ _
  | reset everything => exact s.reset_onward t everything
  | resetRefused => exact t.say_onward _ _
  | triggers a =>
    simp only [perform]
    split
    · next h => exact Turn.trigger_onward h
    · exact t.say_onward _ _
  | look => exact s.look_onward t room
  | exits => exact s.listExits_onward t room
  | unmatched verb object => exact (t.log_onward _).trans (Turn.say_onward _ _ _)

/-- The notes on the reading of a line are for the log. -/
theorem isEnding_of_mem_readingNotes {line : String} {r : Reading} {n : Note}
    (h : n ∈ readingNotes line r) : n.isEnding = false := by
  cases r <;> simp_all [readingNotes, Note.isEnding]

/-- Acting upon a line. -/
theorem dispatch_onward (t : Turn) : t.Onward (s.dispatch t).1 := by
  unfold dispatch
  split
  · exact .refl t
  · refine Turn.Onward.trans ?_ (s.perform_onward _ _ _ _)
    refine { Turn.Onward.refl t with notes := ⟨_, List.append_assoc .., fun n hn => ?_⟩ }
    rcases List.mem_append.1 hn with h | h
    · simp_all [Note.isEnding]
    · exact isEnding_of_mem_readingNotes h

/-- Entering a room. -/
theorem enterRoom_onward (t : Turn) (room : Room) : t.Onward (s.enterRoom t room) := by
  unfold enterRoom
  split
  · exact .refl t
  · next p _ =>
    have described : t.Onward ((t.note (.entered room)).reply (.text room.description)) :=
      (t.note_onward _ rfl).trans (Turn.reply_onward _ _)
    simp only
    split
    · exact described
    · next a _ =>
      refine described.trans ?_
      cases h : ((t.note (.entered room)).reply (.text room.description)).trigger s.directions p a
      with
      | none => exact .refl _
      | some u => exact Turn.trigger_onward h

/-- Coming to a room that was looked up. -/
theorem arrive_onward (t : Turn) (p : Player) (room : Option Room) :
    t.Onward (s.arrive t p room).1 := by
  cases room with
  | none =>
    have hroom : t.Onward ({ t with room := some (.empty p.x p.y p.map) }.log
        (.noRoom p.username p.x p.y p.map)) :=
      (t.arrival_onward _ t.pending.arrival).trans (Turn.log_onward _ _)
    unfold arrive
    dsimp only
    split
    · exact hroom.trans ((Turn.arrival_onward _ _ false).trans (Turn.say_onward _ _ _))
    · exact hroom
  | some room =>
    unfold arrive
    dsimp only
    split
    · exact (t.arrival_onward _ false).trans (s.enterRoom_onward _ room)
    · exact t.arrival_onward _ t.pending.arrival

/-! ### Acting without breaking off -/

/-- The keys of the messages that a turn may need. -/
def messageKeys : List String :=
  ["parse_failure", "no_match", "nowhere", "no_exits", "reset", "reset_all", "dead", "still_dead",
    "win", "still_won"]

/-- A setting that a game can be played with: the place to begin is a pair of coordinates, no
message is missing, and the one that lists the ways out can be filled in with any text. -/
structure Usable : Prop where
  origin : ∃ x y, s.origin = [x, y]
  told : ∀ key ∈ messageKeys, ∃ m, s.messages.entry key = .ok m
  exits : ∃ template, s.messages.entry "exits" = .ok (.text template) ∧
    ∀ names, ∃ m, Text.fillTemplate template "exits" names = .ok m

namespace Usable

variable {s} (hs : s.Usable)
include hs

theorem say (t : Turn) {key : String} (h : key ∈ messageKeys) :
    (t.say s.messages key).2 = none := by
  obtain ⟨m, hm⟩ := hs.told key h
  simp [Turn.say, hm]

theorem reset (t : Turn) (everything : Bool) : (s.reset t everything).2 = none := by
  obtain ⟨x, y, ho⟩ := hs.origin
  unfold Setting.reset
  split
  · rfl
  · rw [ho, Origin.place_pair]
    exact hs.say _ (by cases everything <;> simp [messageKeys])

theorem listExits (t : Turn) (room : Room) : (s.listExits t room).2 = none := by
  obtain ⟨template, ht, hfill⟩ := hs.exits
  unfold Setting.listExits
  split
  · exact hs.say _ (by simp [messageKeys])
  · next names _ =>
    obtain ⟨m, hm⟩ := hfill (Text.join ", " (room.exits.map (·.name)))
    have : s.exitsMessage (room.exits.map (·.name)) = .ok m := by
      simp [exitsMessage, ht, bind, Except.bind, hm]
    simp [this]

theorem perform (t : Turn) (p : Player) (room : Room) (r : Reaction) :
    (s.perform t p room r).2 = none := by
  cases r with
  | ignored => rfl
  | notUnderstood => exact hs.say _ (by simp [messageKeys])
  | reset everything => exact hs.reset t everything
  | resetRefused => exact hs.say _ (by simp [messageKeys])
  | triggers a =>
    simp only [Setting.perform]
    split
    · rfl
    · exact hs.say _ (by simp [messageKeys])
  | look =>
    simp only [Setting.perform, look]
    split
    · exact hs.say _ (by simp [messageKeys])
    · rfl
  | exits => exact hs.listExits t room
  | unmatched verb object => exact hs.say _ (by simp [messageKeys])

theorem arrive (t : Turn) (p : Player) (room : Option Room) :
    (s.arrive t p room).2 = none := by
  unfold Setting.arrive
  split
  · dsimp only
    split
    · exact hs.say _ (by simp [messageKeys])
    · rfl
  · dsimp only
    split <;> rfl

/-- Acting upon a line does not break off. -/
theorem dispatch (t : Turn) : (s.dispatch t).2 = none := by
  unfold Setting.dispatch
  split
  · rfl
  · exact hs.perform _ _ _ _

end Usable

end Setting

end TextAdventure
