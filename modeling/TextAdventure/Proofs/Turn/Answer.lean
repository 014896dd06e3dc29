import TextAdventure.Proofs.Language.Phrase
import TextAdventure.Proofs.Room.Record
import TextAdventure.Proofs.Turn.Finished
import TextAdventure.Proofs.Turn.Integrity
import TextAdventure.Proofs.Turn.Messages

/-!
# One answer to one line

A line that is acted upon is answered by exactly one reply, unless the player plays no more and does
not ask for a reset (`Setting.Answers`, `Setting.dispatch_answers`). The word for a reset is looked
for before the room is, and the room before the commands that the game itself knows. The player is
changed by a reset or by an effect of the room, and by nothing else; a line that joins two commands
does neither.

What to do is decided before anything is done, so the module has two parts. The first says what each
reaction does to a turn: `Usable.exists_perform_replies` that all but one of them reply once,
`perform_unchanged` which leave the player alone. The second says which reaction a line leads to.
-/

namespace TextAdventure

theorem Condition.exists_select? {items : Inventory} {conditions : List Condition}
    (h : conditions ≠ []) : ∃ c ∈ conditions, select? items conditions = some c := by
  have hsome : (select? items conditions).isSome := by
    rw [select?, firstOrLast?, Option.isSome_or, List.getLast?_isSome.2 h, Bool.or_true]
  obtain ⟨c, hc⟩ := Option.isSome_iff_exists.1 hsome
  exact ⟨c, mem_of_select? hc, hc⟩

namespace Setting

variable {s : Setting} {t : Turn} {p : Player}

/-! ### What the reactions do -/

section Reactions

variable {room : Room}

/-- A message that a turn may need is told as one reply. -/
theorem Usable.exists_say_replies (hs : s.Usable) (t : Turn) {key : String}
    (h : key ∈ messageKeys) : ∃ m, (t.say s.messages key).1.replies = t.replies ++ [m] := by
  obtain ⟨m, hm⟩ := hs.told key h
  exact ⟨m, by simp [Turn.say, hm, Turn.reply]⟩

/-- A reset has a place to lead to and a message to be told. -/
theorem Usable.exists_reset (hs : s.Usable) (everything : Bool) :
    ∃ place m, s.origin.place = .ok place ∧
      s.messages.entry (if everything then "reset_all" else "reset") = .ok m := by
  obtain ⟨x, y, horigin⟩ := hs.origin
  obtain ⟨m, hm⟩ := hs.told (if everything then "reset_all" else "reset")
    (by cases everything <;> decide)
  exact ⟨(x, y), m, by rw [horigin, Origin.place_pair], hm⟩

/-- What a reset does. -/
theorem reset_eq (hp : t.player = some p) {everything : Bool} {place : Int × Int} {m : Value}
    (hplace : s.origin.place = .ok place)
    (hm : s.messages.entry (if everything then "reset_all" else "reset") = .ok m) :
    (s.reset t everything).1.replies = t.replies ++ [m] ∧
      (s.reset t everything).1.player = some (p.resetTo place everything) ∧
      (s.reset t everything).1.pending =
        ⟨t.pending.items || everything, true, true, true⟩ := by
  simp [reset, hp, hplace, Turn.say, hm, Turn.log, Turn.note, Turn.reply]

theorem Usable.exists_listExits_replies (hs : s.Usable) :
    ∃ m, (s.listExits t room).1.replies = t.replies ++ [m] := by
  unfold Setting.listExits
  split
  · exact hs.exists_say_replies t (by decide)
  · obtain ⟨template, ht, hfill⟩ := hs.exits
    obtain ⟨m, hm⟩ := hfill (Text.join ", " (room.exits.map (·.name)))
    have hmessage : s.exitsMessage (room.exits.map (·.name)) = .ok m := by
      simp [exitsMessage, ht, bind, Except.bind, hm]
    exact ⟨.text m, by rw [hmessage]; rfl⟩

theorem trigger_eq {a : Attribute} {c : Condition} (hp : t.player = some p)
    (hc : Condition.select? p.items a.conditions = some c) :
    ∃ u, t.trigger s.directions p a = some u ∧ u.replies = t.replies ++ [.text c.message] ∧
      u.player = some ((c.effect.map fun e => e.apply s.directions p).getD p) ∧
      u.pending = (c.effect.map fun e => e.mark s.directions t.pending).getD t.pending := by
  refine ⟨_, by rw [Turn.trigger, hc]; rfl, ?_⟩
  cases heffect : c.effect <;> simp [Turn.applyCondition, Turn.note, Turn.reply, heffect, hp]

/-- Every reaction but one replies once. -/
theorem Usable.exists_perform_replies (hs : s.Usable) (hp : t.player = some p) {r : Reaction}
    (hr : r ≠ .ignored) : ∃ m, (s.perform t p room r).1.replies = t.replies ++ [m] := by
  cases r with
  | ignored => exact absurd rfl hr
  | notUnderstood => exact hs.exists_say_replies t (by decide)
  | reset everything =>
    obtain ⟨place, m, hplace, hm⟩ := hs.exists_reset everything
    exact ⟨m, (reset_eq hp hplace hm).1⟩
  | resetRefused => exact hs.exists_say_replies t (by decide)
  | triggers a =>
    simp only [Setting.perform]
    -- an attribute without conditions is answered too, as if nothing had matched
    cases hc : Condition.select? p.items a.conditions with
    | none =>
      rw [Turn.trigger, hc]
      exact hs.exists_say_replies t (by decide)
    | some c =>
      obtain ⟨u, hu, hreplies, -⟩ := trigger_eq (s := s) hp hc
      rw [hu]
      exact ⟨_, hreplies⟩
  | look =>
    simp only [Setting.perform, Setting.look]
    split
    · exact hs.exists_say_replies t (by decide)
    · exact ⟨_, rfl⟩
  | exits => exact hs.exists_listExits_replies
  | unmatched verb object => exact hs.exists_say_replies (t.log _) (by decide)

/-- A reaction that is no reset and applies no effect leaves the player alone. -/
theorem perform_unchanged {r : Reaction} (hreset : ∀ everything, r ≠ .reset everything)
    (heffect : ∀ a c, r = .triggers a → Condition.select? p.items a.conditions = some c →
      c.effect = none) :
    (s.perform t p room r).1.player = t.player ∧
      (s.perform t p room r).1.pending = t.pending := by
  have hsay : ∀ (t : Turn) (key : String), (t.say s.messages key).1.player = t.player ∧
      (t.say s.messages key).1.pending = t.pending := by
    intro t key
    rw [Turn.say_eq]
    exact ⟨rfl, rfl⟩
  cases r with
  | ignored => exact ⟨rfl, rfl⟩
  | notUnderstood => exact hsay t _
  | reset everything => exact absurd rfl (hreset everything)
  | resetRefused => exact hsay t _
  | triggers a =>
    simp only [perform]
    cases hc : Condition.select? p.items a.conditions with
    | none =>
      rw [Turn.trigger, hc]
      exact hsay t _
    | some c =>
      simp [Turn.trigger, hc, Turn.applyCondition, heffect a c rfl hc, Turn.note, Turn.reply]
  | look =>
    simp only [perform, look]
    split
    · exact hsay t _
    · exact ⟨rfl, rfl⟩
  | exits =>
    simp only [perform, listExits]
    split
    · exact hsay t _
    · split <;> exact ⟨rfl, rfl⟩
  | unmatched verb object => exact hsay (t.log _) _

end Reactions

/-! ### What a line leads to -/

variable (s) in
/-- A line is read as the word for a reset, with any object. -/
def NamesReset (line : String) : Prop :=
  ∃ q, s.vocabulary.parse? line = some q ∧ q.verb = s.vocabulary.wordFor .reset

variable (s) in
/-- A line is read as a command, other than a reset, that an attribute of the room answers to. -/
def Triggers (line : String) (room : Room) (a : Attribute) : Prop :=
  ∃ q, s.vocabulary.parse? line = some q ∧ q.verb ≠ s.vocabulary.wordFor .reset ∧
    Attribute.triggered? room.attributes (s.vocabulary.wordFor .go) (s.vocabulary.wordFor .get)
      q.verb q.object = some a

variable (s t p) in
/-- What becomes of a turn of a player when its line is acted upon. -/
structure Answers (u : Turn) : Prop where
  /-- A player who plays no more is not answered, except to a reset. -/
  silent : p.isFinished = true → ¬s.NamesReset t.line → u.replies = t.replies
  /-- All others are answered once. -/
  once : p.isFinished = false ∨ s.NamesReset t.line → ∃ m, u.replies = t.replies ++ [m]
  /-- The room has no say in a reset. -/
  resetFirst : s.NamesReset t.line → ∀ room,
    (s.dispatch { t with room }).1.replies = u.replies ∧
      (s.dispatch { t with room }).1.player = u.player ∧
      (s.dispatch { t with room }).1.pending = u.pending
  /-- A reset of nothing else or of everything is carried out. -/
  resets : ∀ q everything, s.vocabulary.parse? t.line = some q →
    q.verb = s.vocabulary.wordFor .reset → s.reactToReset q.object = .reset everything →
    ∃ place m, s.origin.place = .ok place ∧
      s.messages.entry (if everything then "reset_all" else "reset") = .ok m ∧
      u.replies = t.replies ++ [m] ∧ u.player = some (p.resetTo place everything)
  /-- An attribute of the room that answers to the command comes before all that the game itself
  knows: the one reply is that of the condition that applies to the player. -/
  roomFirst : p.isFinished = false → ∀ a, s.Triggers t.line (roomOf t p) a →
    ∃ c ∈ a.conditions, Condition.select? p.items a.conditions = some c ∧
      u.replies = t.replies ++ [.text c.message] ∧
      u.player = some ((c.effect.map fun e => e.apply s.directions p).getD p) ∧
      u.pending = (c.effect.map fun e => e.mark s.directions t.pending).getD t.pending
  /-- The player is changed by a reset or an effect of the room only. -/
  unchanged : ¬s.Resets t.line →
    (p.isFinished = false → ∀ a c, s.Triggers t.line (roomOf t p) a →
      Condition.select? p.items a.conditions = some c → c.effect = none) →
    u.player = t.player ∧ u.pending = t.pending
  /-- A line that joins commands changes nothing, whatever its other words are. -/
  compound : (∃ w ∈ s.vocabulary.tokens t.line, Vocabulary.isAmong w s.vocabulary.linkers) →
    u.player = t.player ∧ u.pending = t.pending

theorem exists_dispatch_eq (s : Setting) (hp : t.player = some p) :
    ∃ phrase notes, s.dispatch t = s.perform { t with phrase, notes } p (roomOf t p)
      (s.react p (roomOf t p) (s.vocabulary.parse? t.line)) :=
  ⟨_, _, by simp only [dispatch, hp]; rfl⟩

variable {line : String} {room : Room}

theorem reactToReset_cases (s : Setting) (object : String) :
    (∃ everything, s.reactToReset object = .reset everything ∧
        (object = "" ∨ Text.fold object = Text.fold s.vocabulary.everything)) ∨
      s.reactToReset object = .resetRefused := by
  unfold reactToReset
  split
  · next h => exact .inl ⟨_, rfl, .inl h⟩
  · split
    · next h => exact .inl ⟨_, rfl, .inr h⟩
    · exact .inr rfl

theorem reactInRoom_cases (s : Setting) (room : Room) (q : Phrase) :
    (∃ a, Attribute.triggered? room.attributes (s.vocabulary.wordFor .go)
        (s.vocabulary.wordFor .get) q.verb q.object = some a ∧
        s.reactInRoom room q = .triggers a) ∨
      Attribute.triggered? room.attributes (s.vocabulary.wordFor .go)
        (s.vocabulary.wordFor .get) q.verb q.object = none ∧
        (s.reactInRoom room q = .exits ∨ s.reactInRoom room q = .look ∨
          s.reactInRoom room q = .unmatched q.verb q.object) := by
  unfold reactInRoom
  split
  · next a h => exact .inl ⟨a, h, rfl⟩
  · next h =>
    refine .inr ⟨h, ?_⟩
    split
    · exact .inl rfl
    · split
      · exact .inr (.inl rfl)
      · exact .inr (.inr rfl)

/-- Only a player who plays no more is ignored, and not if a reset is asked for. -/
theorem react_eq_ignored_iff :
    s.react p room (s.vocabulary.parse? line) = .ignored ↔
      p.isFinished = true ∧ ¬s.NamesReset line := by
  have hreset : ∀ object, s.reactToReset object ≠ .ignored := by
    intro object
    rcases s.reactToReset_cases object with ⟨everything, h, -⟩ | h <;> simp [h]
  have hroom : ∀ q, s.reactInRoom room q ≠ .ignored := by
    intro q
    rcases s.reactInRoom_cases room q with ⟨a, -, h⟩ | ⟨-, h | h | h⟩ <;> simp [h]
  cases hq : s.vocabulary.parse? line with
  | none => simp [react, NamesReset, hq]
  | some q =>
    by_cases hverb : q.verb = s.vocabulary.wordFor .reset
    · simp [react, NamesReset, hq, hverb, hreset]
    · simp [react, NamesReset, hq, hverb, hroom]

theorem resets_of_react {everything : Bool}
    (h : s.react p room (s.vocabulary.parse? line) = .reset everything) : s.Resets line := by
  have hroom : ∀ q, s.reactInRoom room q ≠ .reset everything := by
    intro q
    rcases s.reactInRoom_cases room q with ⟨a, -, h⟩ | ⟨-, h | h | h⟩ <;> simp [h]
  cases hq : s.vocabulary.parse? line with
  | none =>
    rw [hq] at h
    cases hp : p.isFinished <;> simp [react, hp] at h
  | some q =>
    by_cases hverb : q.verb = s.vocabulary.wordFor .reset
    · have hobject : s.reactToReset q.object = .reset everything := by
        simpa [react, hq, hverb] using h
      rcases s.reactToReset_cases q.object with ⟨_, -, hobject'⟩ | hrefused
      · exact ⟨q, hq, hverb, hobject'⟩
      · simp [hrefused] at hobject
    · cases hp : p.isFinished <;> simp [react, hq, hverb, hp, hroom] at h

/-- An attribute of the room is triggered by a living player only. -/
theorem react_eq_triggers_iff {a : Attribute} :
    s.react p room (s.vocabulary.parse? line) = .triggers a ↔
      p.isFinished = false ∧ s.Triggers line room a := by
  have hreset : ∀ object, s.reactToReset object ≠ .triggers a := by
    intro object
    rcases s.reactToReset_cases object with ⟨everything, h, -⟩ | h <;> simp [h]
  have hroom : ∀ q, s.reactInRoom room q = .triggers a ↔
      Attribute.triggered? room.attributes (s.vocabulary.wordFor .go) (s.vocabulary.wordFor .get)
        q.verb q.object = some a := by
    intro q
    rcases s.reactInRoom_cases room q with ⟨b, htriggered, h⟩ | ⟨htriggered, h | h | h⟩ <;>
      simp [h, htriggered]
  cases hq : s.vocabulary.parse? line with
  | none => cases hp : p.isFinished <;> simp [react, Triggers, hq, hp]
  | some q =>
    by_cases hverb : q.verb = s.vocabulary.wordFor .reset
    · simp [react, Triggers, hq, hverb, hreset]
    · cases hp : p.isFinished <;> simp [react, Triggers, hq, hverb, hp, hroom]

theorem react_of_reset {q : Phrase} (hq : s.vocabulary.parse? line = some q)
    (hverb : q.verb = s.vocabulary.wordFor .reset) :
    s.react p room (s.vocabulary.parse? line) = s.reactToReset q.object := by
  simp [react, hq, hverb]

/-- What the word for a reset leads to does not depend on the room. -/
theorem Usable.perform_reset_congr (hs : s.Usable) (t u : Turn) (ht : t.player = some p)
    (hu : u.player = some p) (hreplies : u.replies = t.replies) (hpending : u.pending = t.pending)
    (room room' : Room) (object : String) :
    (s.perform u p room' (s.reactToReset object)).1.replies =
        (s.perform t p room (s.reactToReset object)).1.replies ∧
      (s.perform u p room' (s.reactToReset object)).1.player =
        (s.perform t p room (s.reactToReset object)).1.player ∧
      (s.perform u p room' (s.reactToReset object)).1.pending =
        (s.perform t p room (s.reactToReset object)).1.pending := by
  rcases s.reactToReset_cases object with ⟨everything, hreact, -⟩ | hreact
  · obtain ⟨place, m, hplace, hm⟩ := hs.exists_reset everything
    obtain ⟨htreplies, htplayer, htpending⟩ := reset_eq ht hplace hm
    obtain ⟨hureplies, huplayer, hupending⟩ := reset_eq hu hplace hm
    simp only [hreact, Setting.perform, htreplies, htplayer, htpending, hureplies, huplayer,
      hupending, hreplies, hpending, and_self]
  · obtain ⟨m, hm⟩ := hs.told "no_match" (by decide)
    simp [hreact, Setting.perform, Turn.say, hm, Turn.reply, hreplies, hpending, ht, hu]

/-- The room in which a player acts has cases for all its attributes, if it has been looked up. -/
theorem hasCases_roomOf (p : Player) (h : ∀ room, t.room = some room → room.HasCases) :
    (roomOf t p).HasCases := by
  unfold roomOf
  cases hroom : t.room with
  | none => exact fun a ha => absurd ha List.not_mem_nil
  | some room => exact h room hroom

/-- Without a reset or an effect of the room the player stays as before. -/
theorem dispatch_unchanged (hp : t.player = some p) (hline : ¬s.Resets t.line)
    (heffect : p.isFinished = false → ∀ a c, s.Triggers t.line (roomOf t p) a →
      Condition.select? p.items a.conditions = some c → c.effect = none) :
    (s.dispatch t).1.player = t.player ∧ (s.dispatch t).1.pending = t.pending := by
  obtain ⟨phrase, notes, hdispatch⟩ := exists_dispatch_eq s hp
  rw [hdispatch]
  refine perform_unchanged (fun everything h => hline (resets_of_react h)) fun a c h hc => ?_
  obtain ⟨halive, htriggers⟩ := react_eq_triggers_iff.1 h
  exact heffect halive a c htriggers hc

/-- Acting upon a line does not break off, and it answers the line as it should. -/
theorem dispatch_answers (hs : s.Usable) (hp : t.player = some p)
    (hroom : ∀ room, t.room = some room → room.HasCases) :
    (s.dispatch t).2 = none ∧ s.Answers t p (s.dispatch t).1 := by
  refine ⟨hs.dispatch t, ?_⟩
  obtain ⟨phrase, notes, hdispatch⟩ := exists_dispatch_eq s hp
  refine
    { silent := fun hfinished hline => ?_
      once := fun hanswered => ?_
      resetFirst := ?_
      resets := fun q everything hq hverb hreact => ?_
      roomFirst := fun halive a htriggers => ?_
      unchanged := dispatch_unchanged hp
      compound := fun hcompound => ?_ }
  · rw [hdispatch, react_eq_ignored_iff.2 ⟨hfinished, hline⟩]
    rfl
  · rw [hdispatch]
    refine hs.exists_perform_replies (t := { t with phrase, notes }) hp fun h => ?_
    obtain ⟨hfinished, hline⟩ := react_eq_ignored_iff.1 h
    exact hanswered.elim (by simp [hfinished]) hline
  · -- with another room the turn is another one, but the reaction is the same
    rintro ⟨q, hq, hverb⟩ room
    obtain ⟨phrase', notes', hdispatch'⟩ := exists_dispatch_eq s (t := { t with room }) hp
    rw [hdispatch, hdispatch', react_of_reset hq hverb, react_of_reset hq hverb]
    exact hs.perform_reset_congr { t with phrase, notes }
      { t with room, phrase := phrase', notes := notes' } hp hp rfl rfl _ _ _
  · obtain ⟨place, m, hplace, hm⟩ := hs.exists_reset everything
    rw [hdispatch, react_of_reset hq hverb, hreact]
    have hreset := reset_eq (t := { t with phrase, notes }) hp hplace hm
    exact ⟨place, m, hplace, hm, hreset.1, hreset.2.1⟩
  · obtain ⟨q, hq, hverb, htriggered⟩ := htriggers
    have hcases := hasCases_roomOf p hroom a (List.mem_of_find?_eq_some htriggered)
    obtain ⟨c, hmem, hc⟩ := Condition.exists_select? hcases
    obtain ⟨u, hu, heffect⟩ := trigger_eq (s := s) (t := { t with phrase, notes }) hp hc
    rw [hdispatch, react_eq_triggers_iff.2 ⟨halive, q, hq, hverb, htriggered⟩]
    refine ⟨c, hmem, hc, ?_⟩
    simpa only [perform, hu] using heffect
  · -- such a line is not read as any command, so neither a reset nor the room is asked for
    have hnone := Vocabulary.parse?_eq_none hcompound
    refine dispatch_unchanged hp ?_ ?_
    · rintro ⟨q, hq, -⟩
      simp [hnone] at hq
    · rintro - a c ⟨q, hq, -⟩
      simp [hnone] at hq

/-- A thing to be looked at, in a room with a description. -/
def lamp : Attribute := ⟨.command, "Look", none, [], [⟨[], "A lamp glows.", none⟩]⟩

/-- Looking around where there is a lamp. -/
def lookAtLamp : Turn :=
  { Turn.start "look!" "ann" defaultMap with
    player := some (.atPosition "ann" defaultMap 0 0)
    room := some ⟨.null, 0, 0, defaultMap, "hall", "A hall.", [lamp]⟩ }

/-- The lamp is seen, and not the hall. -/
theorem dispatch_answers_lamp :
    (dispatch ⟨Bundled.english, Bundled.englishMessages, [0, 0]⟩ lookAtLamp).2 = none ∧
      (dispatch ⟨Bundled.english, Bundled.englishMessages, [0, 0]⟩ lookAtLamp).1.replies =
        [.text "A lamp glows."] := by
  have hroom : ∀ room, lookAtLamp.room = some room → room.HasCases := by
    rintro _ ⟨⟩
    decide
  obtain ⟨hended, hanswers⟩ := dispatch_answers (usable_english Bundled.english 0 0) rfl hroom
  obtain ⟨c, hmem, -, hreplies, -⟩ := hanswers.roomFirst rfl lamp
    ⟨⟨"look!", "look", "", none, none⟩, by decide +kernel, by decide, by decide +kernel⟩
  obtain rfl := List.mem_singleton.1 hmem
  exact ⟨hended, hreplies⟩

end Setting

end TextAdventure
