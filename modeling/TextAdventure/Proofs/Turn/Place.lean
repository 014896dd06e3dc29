import TextAdventure.Language.Bundled
import TextAdventure.Proofs.Store.Identity
import TextAdventure.Proofs.Turn.Protocol
import TextAdventure.Proofs.Turn.Queries
import TextAdventure.Store.Memory

/-!
# Where a line is acted upon

When a turn comes to act upon its line (`Setting.approach`), it acts in the room that was looked up
where its player was found or put. That is the room where the player is, unless an arrival is still
to be announced (`Setting.acts_where_player_is`): the room at the origin may have moved a new player
on, and the line is acted upon before the player is announced where that led
(`Setting.acts_in_room_left`).
-/

namespace TextAdventure

namespace Run

theorem andThen_assoc (r : Run) (f g : Turn → Run) :
    (r.andThen f).andThen g = r.andThen fun t => (f t).andThen g := by
  unfold andThen
  rw [Script.bind_assoc]
  congr
  funext x
  match x with
  | (t, none) => rfl
  | (t, some h) => rfl

end Run

/-- The room at a place of a store, which is an empty one if none is stored there; a record that is
not one of a room is no room. -/
def Store.roomAt? (st : Store) (x y : Int) (map : String) : Option Room :=
  match Script.roomFound x y map (.ok (st.find? roomCollection (Query.roomSelector x y map))) with
  | .ok room => some (room.getD (.empty x y map))
  | .error _ => none

/-- The rooms that are looked up are those of a store. -/
def History.RoomsFrom (st : Store) (h : History) : Prop :=
  ∀ x y map answer, .asked (.findRoom x y map) answer ∈ h →
    answer = .ok (st.find? roomCollection (Query.roomSelector x y map))

/-- A store in memory tells of the rooms that it had at first, for no query changes them. -/
theorem Script.roomsFrom_history {α : Type} (x : Script α) (st : Store) :
    (x.history Store.backend st).RoomsFrom st := by
  suffices h : ∀ now : Store, now.records roomCollection = st.records roomCollection →
      (x.history Store.backend now).RoomsFrom st from h st rfl
  induction x with
  | done a => exact fun _ _ _ _ _ _ hx => absurd hx List.not_mem_nil
  | note ns next ih =>
    intro now hnow u v map answer hx
    rcases List.mem_append.1 hx with hx | hx
    · simp at hx
    · exact ih now hnow u v map answer hx
  | ask q next ih =>
    intro now hnow u v map answer hx
    rcases List.mem_cons.1 hx with hx | hx
    · obtain ⟨rfl, hanswer⟩ := Happening.asked.inj hx
      rw [eq_of_heq hanswer]
      exact congrArg Except.ok (Store.find?_congr hnow _)
    · refine ih _ _ ?_ u v map answer hx
      exact (Store.records_answer_of_ne (by decide) q now).trans hnow

namespace Setting

variable (s : Setting)

/-- The course of a turn up to the moment when its line is acted upon. -/
def approach (t : Turn) : Run := (s.identify t).andThen s.enter

/-- After the approach the line is acted upon, and then saved and announced what came of it. -/
theorem advanceTurn_eq (t : Turn) :
    s.advanceTurn t = (s.approach t).andThen fun t =>
      (Run.pass (s.dispatch t)).andThen fun t =>
        (persist t).bind fun t => s.announce maxRoomChain t := by
  rw [approach, Run.andThen_assoc]
  rfl

/-- The player is new, and has been put where players begin. -/
def IsPut (username map : String) (h : History) (p : Player) : Prop :=
  s.origin.start = .ok (p.x, p.y) ∧ p.map = map ∧
    ∃ rest : History, h = .asked (.findPlayer username map) (.ok none) :: rest

theorem IsPut.append {s : Setting} {username map : String} {h : History} {p : Player}
    (hput : s.IsPut username map h p) (more : History) : s.IsPut username map (h ++ more) p := by
  obtain ⟨hplace, hmap, rest, rfl⟩ := hput
  exact ⟨hplace, hmap, rest ++ more, rfl⟩

/-- The end of a part of a turn: the turn has come to a state with some property, or it was halted
after a query that went wrong, or for want of something in the setting. -/
def Comes (R : History → Turn → Prop) (h : History) : Turn × Option Halt → Prop
  | (t, none) => R h t
  | (_, some (.storage _)) => h.Fails
  | (_, some (.crash _)) => ¬s.Usable

/-- A turn that has got its player has a room to announce only if the player is new. -/
theorem identify_put (line username map : String) :
    (s.identify (.start line username map)).Always
      (s.Comes fun h t => ∃ p, t.player = some p ∧ t.pending.position = false ∧
        (t.pending.arrival = true → s.IsPut username map h p)) [] := by
  intro answer
  match answer with
  | .error e => exact History.fails_append.2 (.inr (by simp [Query.Fails]))
  | .ok (some record) =>
    cases hread : Player.read (.table record) with
    | invalid problems =>
      simp only [Script.playerFound, hread, Script.bind]
      exact History.fails_append.2 (.inr (by simp [Query.Fails, hread]))
    | valid p =>
      simp only [Script.playerFound, hread, Script.bind]
      exact ⟨p, rfl, rfl, fun harrival => Bool.noConfusion harrival⟩
  | .ok none =>
    simp only [Script.playerFound, Script.bind, Turn.start]
    cases hplace : s.origin.start with
    | error d =>
      -- the origin gives no place to be put at, so the setting cannot be used
      rintro ⟨⟨x, y, horigin⟩, -, -⟩
      simp [horigin] at hplace
    | ok place =>
      intro answer
      cases hcreated : Script.playerCreated
          (Player.atPosition username map place.1 place.2) answer with
      | error e =>
        simp only [hcreated, Script.bind]
        exact History.fails_append.2 (.inr (by simp [fails_of_playerCreated hcreated]))
      | ok p =>
        obtain ⟨stored, id, rfl, hid, hnull, rfl⟩ := eq_of_playerCreated hcreated
        simp only [hcreated, Script.bind]
        exact ⟨_, rfl, rfl, fun _ => ⟨hplace, rfl, _, rfl⟩⟩

variable {s}

/-- Applying a condition leaves the turn in its room. -/
theorem applyCondition_room (t : Turn) (c : Condition) :
    (t.applyCondition s.directions c).room = t.room := by
  unfold Turn.applyCondition
  dsimp only
  split <;> rfl

/-- Entering a room leaves the turn in it. -/
theorem enterRoom_room (t : Turn) (room : Room) : (s.enterRoom t room).room = t.room := by
  unfold enterRoom
  split
  · rfl
  · next p _ =>
    dsimp only
    split
    · rfl
    · next a _ =>
      cases h : ((t.note (.entered room)).reply (.text room.description)).trigger s.directions p a
      with
      | none => rfl
      | some u =>
        obtain ⟨c, -, rfl⟩ := Option.map_eq_some_iff.1 h
        exact applyCondition_room _ c

/-- The player is put into the room that was looked up, or into an empty one. -/
theorem arrive_room (t : Turn) (p : Player) (room : Option Room) :
    (s.arrive t p room).1.room = some (room.getD (.empty p.x p.y p.map)) := by
  unfold arrive
  split
  · dsimp only
    split
    · rw [Turn.say_eq]
      rfl
    · rfl
  · dsimp only
    split
    · rw [enterRoom_room]
      rfl
    · rfl

/-- A player who has not come from elsewhere leaves nothing to be announced. -/
theorem arrive_arrival {t : Turn} (ht : t.pending.arrival = false) (p : Player)
    (room : Option Room) : (s.arrive t p room).1.pending.arrival = false := by
  unfold arrive
  split <;> simp [Turn.log, Turn.note, ht]

/-- A turn that has come to act upon its line acts where its player is, unless an arrival is still
to be announced: then the player is new, and the turn acts where the player was put. -/
def IsPlaced (s : Setting) (st : Store) (username map : String) (h : History) (t : Turn) : Prop :=
  ∃ p, t.player = some p ∧
    (t.pending.arrival = false → st.roomAt? p.x p.y p.map = some (roomOf t p)) ∧
    (t.pending.arrival = true → ∃ start, s.IsPut username map h start ∧
      st.roomAt? start.x start.y start.map = some (roomOf t p))

section Parts

variable {st : Store} {username map : String} {past : History} {t : Turn} {p : Player}
  (hp : t.player = some p) (hposition : t.pending.position = false)
  (hput : t.pending.arrival = true → s.IsPut username map past p)
include hp hposition hput

/-- Coming to the room where the player is. -/
theorem arrive_place {room : Option Room}
    (hroom : past.RoomsFrom st →
      st.roomAt? p.x p.y p.map = some (room.getD (.empty p.x p.y p.map))) :
    (Run.pass (s.arrive t p room)).Always
      (s.Comes fun h t => h.RoomsFrom st → s.IsPlaced st username map h t) past := by
  obtain ⟨q, hq, hpq⟩ := (s.arrive_onward t p room).player p hp
  -- entering moves the player exactly if it leaves an arrival to be announced
  have heven := s.arrive_isEven hposition p room
  have hstays := arrive_room (s := s) t p room
  have harrival := fun ht => arrive_arrival (s := s) (t := t) ht p room
  have hends := fun hs : s.Usable => hs.arrive t p room
  generalize s.arrive t p room = step at hq hpq heven hstays harrival hends
  obtain ⟨u, crash⟩ := step
  cases crash with
  | some c => exact fun hs => Option.some_ne_none c (hends hs)
  | none =>
    intro hrooms
    have hthere : st.roomAt? p.x p.y p.map = some (roomOf u q) := by
      rw [hroom fun x y map answer h => hrooms x y map answer (List.mem_append_left _ h), roomOf,
        show u.room = _ from hstays]
      rfl
    refine ⟨q, hq, fun hsettled => ?_, fun hpending => ⟨p, ?_, hthere⟩⟩
    · obtain ⟨hx, hy⟩ := hpq.place (heven.symm.trans hsettled)
      rw [hx, hy, hpq.map]
      exact hthere
    · have hcame : t.pending.arrival = true := by
        cases ht : t.pending.arrival with
        | true => rfl
        | false => exact Bool.noConfusion (hpending.symm.trans (harrival ht))
      exact (hput hcame).append _

/-- Looking up the room of the player and coming to it. -/
theorem enter_place :
    (s.enter t).Always (s.Comes fun h t => h.RoomsFrom st → s.IsPlaced st username map h t)
      past := by
  unfold enter
  split
  · next hnone => exact absurd (hnone.symm.trans hp) (by simp)
  · next q hq =>
    obtain rfl : q = p := Option.some.inj (hq.symm.trans hp)
    intro answer
    cases hroom : Script.roomFound q.x q.y q.map answer with
    | error e =>
      simp only [Script.bind, hroom]
      exact History.fails_append.2 (.inr (by simp [fails_of_roomFound hroom]))
    | ok room =>
      simp only [Script.bind, hroom]
      have hentered :
          ({ t with statusAtEntry := t.statusAtEntry.or (some q.status) } : Turn).player = some q :=
        hp
      refine arrive_place hentered hposition (fun ht => (hput ht).append _) fun hrooms => ?_
      have hanswer := hrooms q.x q.y q.map answer (by simp)
      rw [hanswer] at hroom
      rw [Store.roomAt?, hroom]

end Parts

/-- Whatever the store tells of the player, while the rooms are those of a store: a turn comes to
act upon its line, unless a query goes wrong or the setting is not usable. When nothing is to be
announced then, the room acted in is the one where the player is. Otherwise the player is new, has
been moved on from the origin, and acts in the room there. -/
theorem acts_where_player_is (s : Setting) (st : Store) (line username map : String) :
    (s.approach (.start line username map)).Always
      (s.Comes fun h t => h.RoomsFrom st → s.IsPlaced st username map h t) [] := by
  refine ((s.identify_put line username map).imp fun g x hx => ?_).bind
  match x, hx with
  | (_, some (.storage _)), hfails => exact hfails
  | (_, some (.crash _)), husable => exact husable
  | (t, none), ⟨p, hp, hposition, hput⟩ => exact enter_place hp hposition hput

/-- Ben, who is in the hall already, looks around there, whatever the gust on the porch would do to him. -/
theorem acts_where_player_is_ben :
    let porch : Room := ⟨.null, 0, 0, "default", "porch", "A porch.",
      [⟨.command, "enter", none, [],
        [⟨[], "A gust blows you in.", some ⟨some (.delta 1 0), [], none⟩⟩]⟩]⟩
    let hall : Room := ⟨.null, 1, 0, "default", "hall", "A hall.", []⟩
    let ben := Player.atPosition "ben" "default" 1 0
    let st := Store.ofCollections
      [(roomCollection, [porch.toRecord, hall.toRecord]), (playerCollection, [ben.toRecord])]
    let s : Setting := ⟨Bundled.english, Bundled.englishMessages, [0, 0]⟩
    let x := s.approach (.start "look" "ben" "default")
    (x.history Store.backend st).RoomsFrom st ∧ ∃ t, (x.run Store.backend st).1 = (t, none) ∧
      s.IsPlaced st "ben" "default" (x.history Store.backend st) t ∧
      t.pending.arrival = false ∧ t.room.map (·.name) = some "hall" := by
  intro porch hall ben st s x
  have hrun : (x.run Store.backend st).1.2 = none ∧
      (x.run Store.backend st).1.1.pending.arrival = false ∧
      (x.run Store.backend st).1.1.room.map (·.name) = some "hall" := by
    decide +kernel
  have hrooms := x.roomsFrom_history st
  have hcomes := (acts_where_player_is s st "look" "ben" "default").of_run Store.backend st
  rw [List.nil_append] at hcomes
  -- the run has been computed, and what is left is about any run
  change s.Comes _ (x.history Store.backend st) (x.run Store.backend st).1 at hcomes
  match hend : (x.run Store.backend st).1, hrun, hcomes with
  | (t, none), ⟨_, harrival, hroom⟩, hplaced =>
    exact ⟨hrooms, t, rfl, hplaced hrooms, harrival, hroom⟩
  | (_, some _), ⟨hhalt, _⟩, _ => cases hhalt

/-- A gust blows Ann, who is new, from the porch into the hall. She looks around, and sees the porch
once more. -/
theorem acts_in_room_left :
    let porch : Room := ⟨.null, 0, 0, "default", "porch", "A porch.",
      [⟨.command, "enter", none, [],
        [⟨[], "A gust blows you in.", some ⟨some (.delta 1 0), [], none⟩⟩]⟩]⟩
    let hall : Room := ⟨.null, 1, 0, "default", "hall", "A hall.", []⟩
    let st := Store.ofCollections [(roomCollection, [porch.toRecord, hall.toRecord])]
    let s : Setting := ⟨Bundled.english, Bundled.englishMessages, [0, 0]⟩
    let t := Turn.start "look" "ann" "default"
    let (u, halt) := ((s.approach t).run Store.backend st).1
    halt = none ∧ u.player.map (fun p => (p.x, p.y, p.map)) = some (1, 0, "default") ∧
      (st.roomAt? 1 0 "default").map (·.name) = some "hall" ∧
      u.player.map (fun p => (roomOf u p).name) = some "porch" ∧
      ((s.play t).run Store.backend st).1.1.replies =
        [.text "A porch.", .text "A gust blows you in.", .text "A porch.", .text "A hall."] := by
  decide +kernel

end Setting

end TextAdventure
