import TextAdventure.Proofs.Script.Alike
import TextAdventure.Proofs.Turn.Acting
import TextAdventure.Turn.Play

/-!
# Turns do not look at identities

Acting on a turn does not depend on the identity of its player, nor on the notes in hand: what comes
of it is the same without them. So a whole turn asks a shared store and a store in which its player
is alone alike (`Setting.play_alike`).
-/

namespace TextAdventure

/-- A player without the identity. -/
def Player.withoutId (p : Player) : Player := { p with id := .null }

namespace Turn

/-- A turn without the identity of its player and the notes in hand. -/
def withoutId (t : Turn) : Turn := { t with player := t.player.map (·.withoutId), notes := [] }

/-- Acting does not depend on what is left out. -/
def Blind (act : Turn → Turn × Option Crash) : Prop :=
  ∀ t, (act t.withoutId).1.withoutId = (act t).1.withoutId ∧ (act t.withoutId).2 = (act t).2

/-- Turns that are the same without what is left out stay so. -/
theorem Blind.congr {act : Turn → Turn × Option Crash} (h : Blind act) {t u : Turn}
    (htu : t.withoutId = u.withoutId) :
    (act t).1.withoutId = (act u).1.withoutId ∧ (act t).2 = (act u).2 := by
  obtain ⟨ht, ht'⟩ := h t
  obtain ⟨hu, hu'⟩ := h u
  rw [htu] at ht ht'
  exact ⟨ht.symm.trans hu, ht'.symm.trans hu'⟩

theorem reply_withoutId (t : Turn) (r : Value) :
    (t.withoutId.reply r).withoutId = (t.reply r).withoutId := by
  simp [withoutId, reply, Function.comp_def, Player.withoutId]

theorem withoutId_withoutId (t : Turn) : t.withoutId.withoutId = t.withoutId := by
  simp [withoutId, Function.comp_def, Player.withoutId]

theorem say_blind (messages : Value) (key : String) : Blind fun t => t.say messages key := by
  intro t
  simp only [say]
  split
  · exact ⟨t.reply_withoutId _, rfl⟩
  · exact ⟨t.withoutId_withoutId, rfl⟩

theorem applyCondition_withoutId (t : Turn) (directions : Directions) (c : Condition) :
    (t.withoutId.applyCondition directions c).withoutId =
      (t.applyCondition directions c).withoutId := by
  obtain ⟨line, username, map, player, room, phrase, replies, pending, statusAtEntry, error,
    isComplete, notes⟩ := t
  cases player with
  | none => cases h : c.effect <;> simp [applyCondition, withoutId, reply, h]
  | some p =>
    cases h : c.effect with
    | none => simp [applyCondition, withoutId, reply, h, Player.withoutId]
    | some e =>
      have happly : (e.apply directions p.withoutId).withoutId =
          (e.apply directions p).withoutId := by
        unfold Effect.apply Effect.movePlayer
        split <;> rfl
      simpa [applyCondition, withoutId, reply, h] using happly

theorem trigger_withoutId (t : Turn) (directions : Directions) (p : Player) (a : Attribute) :
    (t.withoutId.trigger directions p.withoutId a).map withoutId =
      (t.trigger directions p a).map withoutId := by
  have hitems : p.withoutId.items = p.items := rfl
  simp only [trigger, Option.map_map, hitems]
  cases Condition.select? p.items a.conditions with
  | none => rfl
  | some c => exact congrArg some (applyCondition_withoutId t directions c)

theorem trigger_congr (directions : Directions) {t u : Turn} {p q : Player}
    (htu : t.withoutId = u.withoutId) (hpq : p.withoutId = q.withoutId) (a : Attribute) :
    (t.trigger directions p a).map withoutId = (u.trigger directions q a).map withoutId := by
  rw [← t.trigger_withoutId, htu, hpq, u.trigger_withoutId]

end Turn

namespace Setting

variable (s : Setting)

theorem reset_blind (everything : Bool) : Turn.Blind fun t => s.reset t everything := by
  intro t
  obtain ⟨line, username, map, player, room, phrase, replies, pending, statusAtEntry, error,
    isComplete, notes⟩ := t
  cases player with
  | none => simp [reset, Turn.withoutId]
  | some p =>
    simp only [reset, Turn.withoutId, Option.map_some]
    split
    · exact ⟨by simp [Player.withoutId], rfl⟩
    · refine (Turn.say_blind s.messages _).congr ?_
      simp [Turn.withoutId, Turn.log, Turn.note, Player.withoutId, Player.resetTo]

theorem look_blind (room : Room) : Turn.Blind fun t => s.look t room := by
  intro t
  simp only [look]
  split
  · exact Turn.say_blind s.messages _ t
  · exact ⟨t.reply_withoutId _, rfl⟩

theorem listExits_blind (room : Room) : Turn.Blind fun t => s.listExits t room := by
  intro t
  simp only [listExits]
  split
  · exact Turn.say_blind s.messages _ t
  · split
    · exact ⟨t.reply_withoutId _, rfl⟩
    · exact ⟨t.withoutId_withoutId, rfl⟩

theorem perform_blind (t : Turn) (p : Player) (room : Room) (r : Reaction) :
    (s.perform t.withoutId p.withoutId room r).1.withoutId = (s.perform t p room r).1.withoutId ∧
      (s.perform t.withoutId p.withoutId room r).2 = (s.perform t p room r).2 := by
  cases r with
  | ignored => exact ⟨t.withoutId_withoutId, rfl⟩
  | notUnderstood => exact Turn.say_blind s.messages _ t
  | reset everything => exact s.reset_blind everything t
  | resetRefused => exact Turn.say_blind s.messages _ t
  | triggers a =>
    have htrigger := t.trigger_withoutId s.directions p a
    simp only [perform]
    cases hu : t.trigger s.directions p a with
    | none =>
      rw [hu] at htrigger
      rw [Option.map_eq_none_iff.1 htrigger]
      exact Turn.say_blind s.messages _ t
    | some u =>
      rw [hu] at htrigger
      obtain ⟨v, hv, e⟩ := Option.map_eq_some_iff.1 htrigger
      rw [hv]
      exact ⟨e, rfl⟩
  | look => exact s.look_blind room t
  | exits => exact s.listExits_blind room t
  | unmatched verb object =>
    refine (Turn.say_blind s.messages _).congr ?_
    exact t.withoutId_withoutId

theorem perform_congr {t u : Turn} {p q : Player} (htu : t.withoutId = u.withoutId)
    (hpq : p.withoutId = q.withoutId) (room : Room) (r : Reaction) :
    (s.perform t p room r).1.withoutId = (s.perform u q room r).1.withoutId ∧
      (s.perform t p room r).2 = (s.perform u q room r).2 := by
  obtain ⟨ht, ht'⟩ := s.perform_blind t p room r
  obtain ⟨hu, hu'⟩ := s.perform_blind u q room r
  rw [htu, hpq] at ht ht'
  exact ⟨ht.symm.trans hu, ht'.symm.trans hu'⟩

/-- Acting upon a line is blind to identities. -/
theorem dispatch_blind : Turn.Blind s.dispatch := by
  intro t
  cases hp : t.player with
  | none =>
    have hp' : t.withoutId.player = none := by simp [Turn.withoutId, hp]
    simp only [dispatch, hp, hp']
    exact ⟨t.withoutId_withoutId, trivial⟩
  | some p =>
    have hp' : t.withoutId.player = some p.withoutId := by simp [Turn.withoutId, hp]
    simp only [dispatch, hp, hp']
    exact s.perform_congr (p := p.withoutId) (q := p)
      (by simp [Turn.withoutId, Player.withoutId]) rfl (roomOf t p) (s.react p (roomOf t p) _)

/-- Entering a room is blind to identities. -/
theorem enterRoom_withoutId (t : Turn) (room : Room) :
    (s.enterRoom t.withoutId room).withoutId = (s.enterRoom t room).withoutId := by
  cases hp : t.player with
  | none =>
    have hp' : t.withoutId.player = none := by simp [Turn.withoutId, hp]
    simp only [enterRoom, hp, hp', Turn.withoutId_withoutId]
  | some p =>
    have hp' : t.withoutId.player = some p.withoutId := by simp [Turn.withoutId, hp]
    simp only [enterRoom, hp, hp']
    have hdescribed : ((t.withoutId.note (.entered room)).reply (.text room.description)).withoutId =
        ((t.note (.entered room)).reply (.text room.description)).withoutId := by
      simp [Turn.withoutId, Turn.note, Turn.reply, Function.comp_def, Player.withoutId]
    cases room.entry? with
    | none => exact hdescribed
    | some a =>
      have htrigger := Turn.trigger_congr s.directions hdescribed (p := p.withoutId) (q := p) rfl a
      simp only [Option.getD]
      split <;> split <;> simp_all

theorem arrive_blind (t : Turn) (p : Player) (room : Option Room) :
    (s.arrive t.withoutId p.withoutId room).1.withoutId = (s.arrive t p room).1.withoutId ∧
      (s.arrive t.withoutId p.withoutId room).2 = (s.arrive t p room).2 := by
  obtain ⟨line, username, map, player, old, phrase, replies, ⟨items, position, status, arrival⟩,
    statusAtEntry, error, isComplete, notes⟩ := t
  cases room with
  | none =>
    cases arrival with
    | true =>
      refine (Turn.say_blind s.messages "nowhere").congr ?_
      simp [Turn.withoutId, Turn.log, Turn.note, Player.withoutId, Function.comp_def]
    | false =>
      exact ⟨by simp [arrive, Turn.withoutId, Turn.log, Turn.note, Player.withoutId,
        Function.comp_def], rfl⟩
  | some room =>
    cases arrival with
    | true =>
      exact ⟨s.enterRoom_withoutId ⟨line, username, map, player, room, phrase, replies,
        ⟨items, position, status, false⟩, statusAtEntry, error, isComplete, notes⟩ room, rfl⟩
    | false =>
      exact ⟨by simp [arrive, Turn.withoutId, Player.withoutId, Function.comp_def], rfl⟩

theorem arrive_congr {t u : Turn} {p q : Player} (htu : t.withoutId = u.withoutId)
    (hpq : p.withoutId = q.withoutId) (room : Option Room) :
    (s.arrive t p room).1.withoutId = (s.arrive u q room).1.withoutId ∧
      (s.arrive t p room).2 = (s.arrive u q room).2 := by
  obtain ⟨ht, ht'⟩ := s.arrive_blind t p room
  obtain ⟨hu, hu'⟩ := s.arrive_blind u q room
  rw [htu, hpq] at ht ht'
  exact ⟨ht.symm.trans hu, ht'.symm.trans hu'⟩

end Setting

/-! ### Turns that are the same but for the identity -/

/-- Two turns of one player are the same but for the identity of the player, which is given. -/
structure Turn.Twins (n m : Int) (t u : Turn) : Prop where
  same : t.withoutId = u.withoutId
  left : ∃ p, t.player = some p ∧ p.id = .int n
  right : ∃ q, u.player = some q ∧ q.id = .int m

namespace Turn.Twins

variable {n m : Int} {t u : Turn} (h : t.Twins n m u)
include h

theorem exists_players : ∃ p q, t.player = some p ∧ u.player = some q ∧ p.id = .int n ∧
    q.id = .int m ∧ p.withoutId = q.withoutId := by
  obtain ⟨p, hp, hn⟩ := h.left
  obtain ⟨q, hq, hm⟩ := h.right
  have hplayers : t.player.map (·.withoutId) = u.player.map (·.withoutId) :=
    congrArg (·.player) h.same
  rw [hp, hq] at hplayers
  exact ⟨p, q, hp, hq, hn, hm, Option.some.inj hplayers⟩

/-- Twins that act alike are twins. -/
theorem onward {t' u' : Turn} (ht : t.Onward t') (hu : u.Onward u')
    (hsame : t'.withoutId = u'.withoutId) : t'.Twins n m u' := by
  obtain ⟨p, hp, hn⟩ := h.left
  obtain ⟨q, hq, hm⟩ := h.right
  obtain ⟨p', hp', hpp'⟩ := ht.player p hp
  obtain ⟨q', hq', hqq'⟩ := hu.player q hq
  exact ⟨hsame, ⟨p', hp', hpp'.id.trans hn⟩, ⟨q', hq', hqq'.id.trans hm⟩⟩

/-- Twins stay so when the same is changed in both that is not the player. -/
theorem set {t' u' : Turn} (ht : t'.player = t.player) (hu : u'.player = u.player)
    (hsame : t'.withoutId = u'.withoutId) : t'.Twins n m u' :=
  ⟨hsame, by rw [ht]; exact h.left, by rw [hu]; exact h.right⟩

theorem say {messages : Value} (key : String) :
    (t.say messages key).1.Twins n m (u.say messages key).1 ∧
      (t.say messages key).2 = (u.say messages key).2 := by
  obtain ⟨hsame, hcrash⟩ := (Turn.say_blind messages key).congr h.same
  exact ⟨h.onward (t.say_onward _ _) (u.say_onward _ _) hsame, hcrash⟩

/-- Twins stay so when the same is left pending in both. -/
theorem setPending (todo : Pending) (ns ns' : List Note) :
    Turn.Twins n m { t with pending := todo, notes := ns }
      { u with pending := todo, notes := ns' } :=
  h.set rfl rfl (congrArg (fun v : Turn => { v with pending := todo }) h.same)

end Turn.Twins

namespace Run

/-- Two turns end in the same way but for identities. -/
def EndsSame (x y : Turn × Option Halt) : Prop := x.1.withoutId = y.1.withoutId ∧ x.2 = y.2

/-- Turns that end in the same way are halted by the same, if at all. -/
theorem EndsSame.exists_halt {x y : Turn × Option Halt} (h : EndsSame x y) :
    ∃ t u halt, x = (t, halt) ∧ y = (u, halt) ∧ t.withoutId = u.withoutId :=
  ⟨x.1, y.1, x.2, rfl, Prod.ext rfl h.2.symm, h.1⟩

/-- Two turns go on in the same way but for identities; unless they are halted, they are twins. -/
def GoesSame (ids : Option (Int × Int)) (x y : Turn × Option Halt) : Prop :=
  EndsSame x y ∧ (x.2 = none → ∃ n m, ids = some (n, m) ∧ x.1.Twins n m y.1)

variable {key : TurnKey} {ids : Option (Int × Int)} {n m : Int}

theorem pass_alike {x y : Turn × Option Crash} (h : x.1.Twins n m y.1) (hcrash : x.2 = y.2) :
    (pass x).Alike key GoesSame (some (n, m)) (pass y) := by
  refine .note _ _ (.done ⟨⟨h.same, congrArg (Option.map Halt.crash) hcrash⟩, fun _ => ?_⟩)
  exact ⟨n, m, rfl, h.set rfl rfl h.same⟩

theorem andThen_alike {r r' : Run} {f f' : Turn → Run} (h : r.Alike key GoesSame ids r')
    (hf : ∀ n m t u, t.Twins n m u → (f t).Alike key GoesSame (some (n, m)) (f' u)) :
    (r.andThen f).Alike key GoesSame ids (r'.andThen f') := by
  refine h.bind fun ids x y hxy => ?_
  obtain ⟨hends, htwins⟩ := hxy
  obtain ⟨t, u, halt, rfl, rfl, hsame⟩ := hends.exists_halt
  cases halt with
  | none =>
    obtain ⟨n, m, rfl, h⟩ := htwins rfl
    exact hf n m t u h
  | some e => exact .done ⟨⟨hsame, rfl⟩, fun h => by cases h⟩

/-- A step that is passed on, and goes on with the same player. -/
theorem pass_andThen_alike {x y : Turn × Option Crash} {f f' : Turn → Run}
    (h : x.1.Twins n m y.1) (hcrash : x.2 = y.2)
    (hf : ∀ t u, t.Twins n m u → (f t).Alike key GoesSame (some (n, m)) (f' u)) :
    ((pass x).andThen f).Alike key GoesSame (some (n, m)) ((pass y).andThen f') := by
  obtain ⟨t, crash⟩ := x
  obtain ⟨u, crash'⟩ := y
  obtain rfl : crash = crash' := hcrash
  refine .note _ _ ?_
  have h' : Turn.Twins n m { t with notes := [] } { u with notes := [] } := h.set rfl rfl h.same
  cases crash with
  | none => exact hf _ _ h'
  | some c => exact .done ⟨⟨h'.same, rfl⟩, fun h => by cases h⟩

end Run

namespace Setting

variable {s : Setting} {key : TurnKey} {n m : Int} {t u : Turn}

theorem enter_eq {p : Player} (hp : t.player = some p) :
    s.enter t = .ask (.findRoom p.x p.y p.map) fun answer =>
      match Script.roomFound p.x p.y p.map answer with
      | .error e =>
        .done ({ t with statusAtEntry := t.statusAtEntry.or (some p.status) }, some (.storage e))
      | .ok room =>
        Run.pass (s.arrive { t with statusAtEntry := t.statusAtEntry.or (some p.status) } p room) := by
  unfold enter
  split
  · next hnone => exact absurd (hnone.symm.trans hp) (by simp)
  · next q hq =>
    obtain rfl : q = p := Option.some.inj (hq.symm.trans hp)
    rfl

theorem enter_alike (h : t.Twins n m u) :
    (s.enter t).Alike key Run.GoesSame (some (n, m)) (s.enter u) := by
  obtain ⟨p, q, hp, hq, hn, hm, hpq⟩ := h.exists_players
  have hx : p.x = q.x := congrArg (·.x) hpq
  have hy : p.y = q.y := congrArg (·.y) hpq
  have hmap : p.map = q.map := congrArg (·.map) hpq
  have hstatus : p.status = q.status := congrArg (·.status) hpq
  have hentry : t.statusAtEntry = u.statusAtEntry := congrArg (·.statusAtEntry) h.same
  have hsame : Turn.withoutId { t with statusAtEntry := t.statusAtEntry.or (some p.status) } =
      Turn.withoutId { u with statusAtEntry := u.statusAtEntry.or (some q.status) } := by
    rw [hentry, hstatus]
    exact congrArg (fun v : Turn =>
      { v with statusAtEntry := u.statusAtEntry.or (some q.status) }) h.same
  -- both stores hold the same rooms, so they give the same answer
  rw [enter_eq hp, enter_eq hq, hx, hy, hmap]
  refine .findRoom fun answer => ?_
  cases Script.roomFound q.x q.y q.map answer with
  | error e => exact .done ⟨⟨hsame, rfl⟩, fun h => by cases h⟩
  | ok room =>
    obtain ⟨harrive, hcrash⟩ := s.arrive_congr hsame hpq room
    have htwins : Turn.Twins n m { t with statusAtEntry := t.statusAtEntry.or (some p.status) }
        { u with statusAtEntry := u.statusAtEntry.or (some q.status) } := h.set rfl rfl hsame
    exact Run.pass_alike (htwins.onward (s.arrive_onward _ _ _) (s.arrive_onward _ _ _) harrive) hcrash

theorem dispatch_alike (h : t.Twins n m u) :
    (Run.pass (s.dispatch t)).Alike key Run.GoesSame (some (n, m)) (Run.pass (s.dispatch u)) := by
  obtain ⟨hsame, hcrash⟩ := s.dispatch_blind.congr h.same
  exact Run.pass_alike (h.onward (s.dispatch_onward t) (s.dispatch_onward u) hsame) hcrash

/-- A change of the player is saved in both. -/
theorem savePlayer_alike {p q : Player} (hn : p.id = .int n) (hm : q.id = .int m) (c : Change) :
    (Script.savePlayer p c).Alike key (fun ids _ _ => ids = some (n, m)) (some (n, m))
      (Script.savePlayer q c) := by
  rw [Script.savePlayer, Script.savePlayer, hn, hm]
  exact .update fun answer => .note _ _ (.done rfl)

theorem persistItems_alike {p q : Player} (h : t.Twins n m u) (hn : p.id = .int n)
    (hm : q.id = .int m) (hpq : p.withoutId = q.withoutId) :
    (persistItems p t).Alike key (fun ids t u => ids = some (n, m) ∧ t.Twins n m u) (some (n, m))
      (persistItems q u) := by
  have hitems : p.items = q.items := congrArg (·.items) hpq
  have hpending : t.pending = u.pending := congrArg (·.pending) h.same
  rw [persistItems, persistItems, hpending, Script.saveItems, Script.saveItems, hitems]
  split
  · exact (savePlayer_alike hn hm _).bind fun ids _ _ hids => .done ⟨hids, h.setPending _ _ _⟩
  · exact .done ⟨rfl, h⟩

theorem persistPosition_alike {p q : Player} (h : t.Twins n m u) (hn : p.id = .int n)
    (hm : q.id = .int m) (hpq : p.withoutId = q.withoutId) :
    (persistPosition p t).Alike key (fun ids t u => ids = some (n, m) ∧ t.Twins n m u)
      (some (n, m)) (persistPosition q u) := by
  have hx : p.x = q.x := congrArg (·.x) hpq
  have hy : p.y = q.y := congrArg (·.y) hpq
  have hpending : t.pending = u.pending := congrArg (·.pending) h.same
  rw [persistPosition, persistPosition, hpending, Script.savePosition, Script.savePosition, hx, hy]
  split
  · exact (savePlayer_alike hn hm _).bind fun ids _ _ hids => .done ⟨hids, h.setPending _ _ _⟩
  · exact .done ⟨rfl, h⟩

theorem persist_alike (h : t.Twins n m u) :
    (persist t).Alike key (fun ids t u => ids = some (n, m) ∧ t.Twins n m u) (some (n, m))
      (persist u) := by
  obtain ⟨p, q, hp, hq, hn, hm, hpq⟩ := h.exists_players
  rw [persist, persist, hp, hq]
  refine (persistItems_alike h hn hm hpq).bind ?_
  rintro _ t u ⟨rfl, h⟩
  exact persistPosition_alike h hn hm hpq

theorem announce_alike (k : Nat) (h : t.Twins n m u) :
    (s.announce k t).Alike key Run.GoesSame (some (n, m)) (s.announce k u) := by
  have hdone : ∀ {n m t u}, t.Twins n m u →
      Script.Alike key Run.GoesSame (some (n, m)) (.done (t, none)) (.done (u, none)) :=
    fun h => .done ⟨⟨h.same, rfl⟩, fun _ => ⟨_, _, rfl, h⟩⟩
  induction k generalizing n m t u with
  | zero =>
    have hpending : t.pending = u.pending := congrArg (·.pending) h.same
    rw [announce, announce, hpending]
    split
    · exact Run.pass_alike (h.setPending _ _ _) rfl
    · exact hdone h
  | succ k ih =>
    have hpending : t.pending = u.pending := congrArg (·.pending) h.same
    rw [announce, announce, hpending]
    split
    · refine Run.andThen_alike (enter_alike h) fun n m t u h => ?_
      refine (persist_alike h).bind ?_
      rintro _ t u ⟨rfl, h⟩
      exact ih h
    · exact hdone h

/-- What is said about the status, in both. -/
theorem remind_twins {p q : Player} (h : t.Twins n m u) (hstatus : p.status = q.status) :
    (s.remind t p).1.Twins n m (s.remind u q).1 ∧ (s.remind t p).2 = (s.remind u q).2 := by
  rw [remind, remind, hstatus]
  split
  · exact ⟨h, rfl⟩
  · exact h.say _

theorem tellStatus_twins {p q : Player} (h : t.Twins n m u) (hstatus : p.status = q.status) :
    (s.tellStatus t p).1.Twins n m (s.tellStatus u q).1 ∧
      (s.tellStatus t p).2 = (s.tellStatus u q).2 := by
  rw [tellStatus, tellStatus, hstatus]
  split
  · exact ⟨h, rfl⟩
  · exact h.say _

theorem settleStatus_twins (h : t.Twins n m u) :
    (settleStatus t).Twins n m (settleStatus u) := by
  have hpending : t.pending = u.pending := congrArg (·.pending) h.same
  rw [settleStatus, settleStatus, hpending]
  exact h.setPending _ _ _

theorem announceStatus_alike (h : t.Twins n m u) :
    (s.announceStatus t).Alike key Run.GoesSame (some (n, m)) (s.announceStatus u) := by
  obtain ⟨p, q, hp, hq, hn, hm, hpq⟩ := h.exists_players
  have hstatus : p.status = q.status := congrArg (·.status) hpq
  have hentry : t.statusAtEntry = u.statusAtEntry := congrArg (·.statusAtEntry) h.same
  have hsettled : ∀ {t u}, Turn.Twins n m t u →
      Script.Alike key Run.GoesSame (some (n, m)) (.done (settleStatus t, none))
        (.done (settleStatus u, none)) :=
    fun h => .done ⟨⟨(settleStatus_twins h).same, rfl⟩, fun _ => ⟨n, m, rfl, settleStatus_twins h⟩⟩
  rw [announceStatus, announceStatus, hp, hq]
  dsimp only
  rw [hentry, hstatus]
  split
  · obtain ⟨hremind, hcrash⟩ := remind_twins (s := s) h hstatus
    exact Run.pass_andThen_alike hremind hcrash fun _ _ h => hsettled h
  · obtain ⟨htell, hcrash⟩ := tellStatus_twins (s := s) h hstatus
    refine Run.pass_andThen_alike htell hcrash fun t u h => .note _ _ ?_
    rw [Script.saveStatus, Script.saveStatus, hstatus]
    refine (savePlayer_alike hn hm _).bind ?_
    rintro _ _ _ rfl
    exact hsettled h

/-- Turns that are the same but for identities end so. -/
theorem conclude_alike {ids : Option (Int × Int)} (h : t.withoutId = u.withoutId) :
    (conclude t).Alike key (fun _ => Run.EndsSame) ids (conclude u) := by
  have hblind : Turn.Blind fun t => { t with room := none }.complete := by
    intro t
    have hsame : t.withoutId.isComplete = t.isComplete := rfl
    simp only [Turn.complete, hsame]
    split
    · exact ⟨congrArg (fun v : Turn => { v with room := none }) t.withoutId_withoutId, rfl⟩
    · exact ⟨congrArg (fun v : Turn => { v with room := none, isComplete := true })
        t.withoutId_withoutId, rfl⟩
  obtain ⟨hsame, hcrash⟩ := hblind.congr h
  exact .note _ _ (.done ⟨hsame, congrArg (Option.map Halt.crash) hcrash⟩)

theorem giveUp_alike {ids : Option (Int × Int)} (h : t.withoutId = u.withoutId)
    {e : StorageError} (ht : t.error = some e) (hu : u.error = some e) :
    (s.finish t).Alike key (fun _ => Run.EndsSame) ids (s.finish u) := by
  rw [finish, finish, ht, hu]
  exact conclude_alike (congrArg (fun v : Turn => { v with replies := [], error := some e }) h)

theorem finish_alike (h : t.Twins n m u) :
    (s.finish t).Alike key (fun _ => Run.EndsSame) (some (n, m)) (s.finish u) := by
  have herror : t.error = u.error := congrArg (·.error) h.same
  cases ht : t.error with
  | some e =>
    exact giveUp_alike h.same ht (herror.symm.trans ht)
  | none =>
    rw [finish, finish, ← herror, ht]
    refine (announceStatus_alike h).bind fun ids x y hxy => ?_
    obtain ⟨t, u, halt, rfl, rfl, hsame⟩ := hxy.1.exists_halt
    cases halt with
    | none => exact conclude_alike hsame
    | some e => exact .done ⟨hsame, rfl⟩

/-- Getting the player of a turn: both find the player, or both create one. -/
theorem identify_alike (line : String) (ids : Option (Int × Int)) :
    (s.identify (.start line key.username key.map)).Alike key Run.GoesSame ids
      (s.identify (.start line key.username key.map)) := by
  cases ids with
  | some ids =>
    obtain ⟨n, m⟩ := ids
    -- the records are the same but for their identities, and so are the players read from them
    refine .found fun r r' hsame hn hm => ?_
    have hread := Player.read_sameButId hsame
    have hid : Schema.identity r = .int n := by simp [Schema.identity, hn]
    have hid' : Schema.identity r' = .int m := by simp [Schema.identity, hm]
    cases hp : Player.read (.table r) with
    | invalid problems =>
      rw [hp] at hread
      simp only [Script.playerFound, hp, hread, Checked.map, Script.bind]
      exact .done ⟨⟨rfl, rfl⟩, fun h => by cases h⟩
    | valid p =>
      rw [hp, hid'] at hread
      obtain ⟨_, _, _, _, _, _, _, _, _, hpid, _⟩ := Player.read_eq_valid.1 hp
      simp only [Script.playerFound, hp, hread, Checked.map, Script.bind]
      have hsame' : Turn.withoutId { Turn.start line key.username key.map with player := some p } =
          Turn.withoutId { Turn.start line key.username key.map with
            player := some { p with id := .int m } } := rfl
      refine .done ⟨⟨hsame', rfl⟩, fun _ => ⟨n, m, rfl, ⟨hsame', ?_, ?_⟩⟩⟩
      · exact ⟨p, rfl, hpid.trans hid⟩
      · exact ⟨_, rfl, rfl⟩
  | none =>
    refine .missing ?_
    simp only [Script.playerFound, Script.bind]
    cases s.origin.start with
    | error d => exact .done ⟨⟨rfl, rfl⟩, fun h => by cases h⟩
    | ok place =>
      -- each store gives the new player its own next identity
      refine .insert rfl rfl fun n m => ?_
      have hcreated : ∀ n : Int, Script.playerCreated
          (Player.atPosition key.username key.map place.1 place.2)
          (.ok (Store.identified
            (Player.atPosition key.username key.map place.1 place.2).toRecord n)) =
          .ok { Player.atPosition key.username key.map place.1 place.2 with id := .int n } := by
        intro n
        simp [Script.playerCreated, Store.get?_identified]
      simp only [Turn.start, hcreated, Script.bind]
      refine .note _ _ (.done ⟨⟨rfl, rfl⟩, fun _ => ⟨n, m, rfl, ⟨rfl, ?_, ?_⟩⟩⟩)
      · exact ⟨_, rfl, rfl⟩
      · exact ⟨_, rfl, rfl⟩

/-- A turn asks a shared store and one in which its player is alone alike, and ends in the same way
but for identities. -/
theorem play_alike (line : String) (key : TurnKey) (ids : Option (Int × Int)) :
    (s.play (.start line key.username key.map)).Alike key (fun _ => Run.EndsSame) ids
      (s.play (.start line key.username key.map)) := by
  have hadvance : (s.advanceTurn (.start line key.username key.map)).Alike key Run.GoesSame ids
      (s.advanceTurn (.start line key.username key.map)) := by
    refine Run.andThen_alike (identify_alike line ids) fun n m t u h => ?_
    refine Run.andThen_alike (enter_alike h) fun n m t u h => ?_
    refine Run.andThen_alike (dispatch_alike h) fun n m t u h => ?_
    refine (persist_alike h).bind ?_
    rintro _ t u ⟨rfl, h⟩
    exact announce_alike maxRoomChain h
  refine hadvance.bind fun ids x y hxy => ?_
  obtain ⟨hends, htwins⟩ := hxy
  obtain ⟨t, u, halt, rfl, rfl, hsame⟩ := hends.exists_halt
  cases halt with
  | none =>
    obtain ⟨n, m, rfl, h⟩ := htwins rfl
    exact finish_alike h
  | some halt =>
    cases halt with
    | storage e =>
      exact giveUp_alike (congrArg (fun v : Turn => { v with error := some e }) hsame) rfl rfl
    | crash c => exact .done ⟨hsame, rfl⟩

end Setting

end TextAdventure
