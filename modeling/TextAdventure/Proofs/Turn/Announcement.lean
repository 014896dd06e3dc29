import TextAdventure.Proofs.Game.Saving

/-!
# What a turn says about the status

The status of a player may change many times in one turn: on acting, on every room that is entered, by
a reset. None of these changes is announced or saved by itself. The turn remembers the status at its
beginning, and only when everything else is over the two ends are compared: if they differ the change is
saved and told, and otherwise a player who plays no more is reminded (`Setting.announces_status`). So
what is said depends on the two ends alone, and changes that cancel out leave nothing behind.
-/

namespace TextAdventure

namespace Setting

/-- The key of the message with which a turn ends, by the status before it and the one after it. -/
def announcementKey (before now : Status) : Option String :=
  match before, now with
  | _, .alive => none
  | .dead, .dead => some "still_dead"
  | .win, .win => some "still_won"
  | _, .dead => some "dead"
  | _, .win => some "win"

theorem announcementKey_self (status : Status) :
    announcementKey status status = (statusKeys status).map (·.2) := by
  cases status <;> rfl

theorem announcementKey_of_ne {before now : Status} (h : before ≠ now) :
    announcementKey before now = (statusKeys now).map (·.1) := by
  cases before <;> cases now <;> first | rfl | exact absurd rfl h

variable {s : Setting}

/-- Says the message under a key, if there is one. -/
def sayAt (s : Setting) (t : Turn) (key : Option String) : Turn × Option Crash :=
  match key with
  | none => (t, none)
  | some key => t.say s.messages key

/-- What is told is the message under a key, or nothing. -/
def IsTold (s : Setting) (key : Option String) (told : List Value) : Prop :=
  match key with
  | none => told = []
  | some key => ∃ message, s.messages.entry key = .ok message ∧ told = [message]

theorem remind_eq_sayAt (t : Turn) (p : Player) :
    s.remind t p = s.sayAt t (announcementKey p.status p.status) := by
  rw [announcementKey_self, remind]
  cases statusKeys p.status <;> rfl

theorem tellStatus_eq_sayAt {before : Status} (t : Turn) {p : Player} (h : before ≠ p.status) :
    s.tellStatus t p = s.sayAt t (announcementKey before p.status) := by
  rw [announcementKey_of_ne h, tellStatus]
  cases statusKeys p.status <;> rfl

/-- What is said is added to the replies, and nothing else happens. -/
theorem isTold_of_sayAt {t u : Turn} {key : Option String} (h : s.sayAt t key = (u, none)) :
    ∃ told, s.IsTold key told ∧ u = { t with replies := t.replies ++ told } := by
  cases key with
  | none =>
    obtain ⟨rfl, -⟩ := Prod.mk.inj h
    exact ⟨[], rfl, by simp⟩
  | some key =>
    simp only [sayAt, Turn.say] at h
    split at h
    · next message hmessage =>
      obtain ⟨rfl, -⟩ := Prod.ext_iff.1 h
      exact ⟨[message], ⟨message, hmessage, rfl⟩, rfl⟩
    · cases h

/-- How a turn ends that began with the player `start` and has made some replies before its end: the
status is saved if it has changed, and told by the message for both ends. -/
structure Announces (s : Setting) (username map : String) (start : Player) (others : List Value)
    (h : History) (u : Turn) : Prop where
  error : u.error = none
  opens : ∃ opening rest, h = opening ++ rest ∧ s.Opens username map opening start ∧
    rest.Saves start.id
  told : ∃ p told, u.player = some p ∧
    h.changes.filter (·.isStatus) = (if p.status = start.status then [] else [.status p.status]) ∧
    s.IsTold (announcementKey start.status p.status) told ∧ u.replies = others ++ told

section Ending

variable {username map : String} {start p : Player} {past : History} {t : Turn}

/-- Up to its end a turn saves no status. -/
theorem Underway.filter_changes (h : s.Underway username map start past t p) :
    past.changes.filter (·.isStatus) = [] :=
  List.filter_eq_nil_iff.2 fun c hc => by simp [h.status c hc]

/-- Announcing and saving the status. -/
theorem announceStatus_announces (h : s.Underway username map start past t p) :
    (s.announceStatus t).Always
      (fun g x => match x with
        | (u, none) => s.Announces username map start t.replies g u
        | (_, some _) => ¬s.Usable) past := by
  obtain ⟨opening, rest, hpast, hopens, hsaves, -⟩ := h.opens
  unfold announceStatus
  split
  · next hnone => cases hnone.symm.trans h.player
  · next q hq =>
    obtain rfl : q = p := Option.some.inj (hq.symm.trans h.player)
    split
    · next hsame =>
      -- both ends are the same, whatever there was between them
      have hstatus : start.status = q.status :=
        Option.some.inj (h.statusAtEntry.symm.trans hsame)
      match hsaid : s.remind t q with
      | (u, some c) =>
        obtain ⟨rs, crash, hrs, husable⟩ := remind_eq s t q
        exact fun hs => by simpa [husable hs] using hsaid.symm.trans hrs
      | (u, none) =>
        obtain ⟨told, htold, rfl⟩ := isTold_of_sayAt ((remind_eq_sayAt t q).symm.trans hsaid)
        exact
          { error := h.error
            opens := ⟨opening, rest, by simp [hpast, h.notes], hopens, hsaves⟩
            told := ⟨q, told, h.player, by simp [h.notes, h.filter_changes, hstatus],
              by rwa [hstatus], rfl⟩ }
    · next hchanged =>
      have hne : start.status ≠ q.status := fun heq =>
        hchanged (h.statusAtEntry.trans (congrArg some heq))
      match hsaid : s.tellStatus t q with
      | (u, some c) =>
        obtain ⟨rs, crash, hrs, husable⟩ := tellStatus_eq s t q
        exact fun hs => by simpa [husable hs] using hsaid.symm.trans hrs
      | (u, none) =>
        obtain ⟨told, htold, rfl⟩ := isTold_of_sayAt ((tellStatus_eq_sayAt t hne).symm.trans hsaid)
        intro answer
        have hstatus : (Change.status q.status).isStatus = true := rfl
        exact
          { error := h.error
            opens := by
              refine ⟨opening, rest ++ .noted (.log (.statusChanged q.username t.statusAtEntry
                q.status)) :: .asked (.updatePlayer q.id (.status q.status)) answer ::
                (Script.saveNotes q (.status q.status) answer).map .noted, ?_, hopens, ?_⟩
              · simp [hpast, h.notes]
              · simp [hsaves, h.id_eq]
            told := ⟨q, told, h.player, by
              simp [h.notes, h.filter_changes, hne.symm, hstatus], htold, rfl⟩ }

/-- Completing the turn leaves what has been announced. -/
theorem Announces.conclude {others : List Value} {u : Turn}
    (h : s.Announces username map start others past u) (hcomplete : u.isComplete = false)
    (notes : List Note) :
    (conclude { u with notes }).Always
      (fun g x => x.2 = none ∧ s.Announces username map start others g x.1) past := by
  rw [conclude_eq (by exact hcomplete)]
  obtain ⟨opening, rest, hpast, hopens, hsaves⟩ := h.opens
  refine ⟨rfl, h.error, ⟨opening, rest ++ (notes ++ [Note.completed]).map .noted, ?_, hopens, ?_⟩, ?_⟩
  · rw [hpast, List.append_assoc]
  · simpa using hsaves
  · simpa using h.told

/-- Ending a turn that went well. -/
theorem finish_announces (h : s.Underway username map start past t p) (hsaved : Persisted t)
    (harrival : t.pending.arrival = false) :
    (s.finish t).Always
      (fun g x => match x with
        | (u, none) => s.Announces username map start t.replies g u
        | (_, some _) => ¬s.Usable) past := by
  unfold finish
  rw [h.error]
  have hsettled := announceStatus_course h hsaved harrival
  refine (((announceStatus_announces h).and hsettled).imp fun g x hx => ?_).bind
  match x, hx with
  | (_, some _), hx => exact hx.1
  | (u, none), ⟨hu, hsettled⟩ =>
    -- that the turn can still be completed is part of its course
    refine (hu.conclude hsettled.isComplete _).imp fun g' x hx => ?_
    obtain ⟨v, halt⟩ := x
    obtain rfl : halt = none := hx.1
    exact hx.2

end Ending

/-! ### The other replies -/

/-- The messages about a status. -/
def statusMessages : List String := ["dead", "still_dead", "win", "still_won"]

/-- Two tables of messages have the same ones under all keys but those about a status. -/
def OtherwiseSame (messages messages' : Value) : Prop :=
  ∀ key ∉ statusMessages, messages'.entry key = messages.entry key

section Others

variable {messages : Value} (h : OtherwiseSame s.messages messages)
include h

theorem say_withMessages (t : Turn) {key : String} (hkey : key ∉ statusMessages) :
    t.say messages key = t.say s.messages key := by
  rw [Turn.say, Turn.say, h key hkey]

theorem reset_withMessages (t : Turn) (everything : Bool) :
    { s with messages }.reset t everything = s.reset t everything := by
  unfold reset
  cases t.player with
  | none => rfl
  | some p =>
    dsimp only
    cases s.origin.place with
    | error d => rfl
    | ok place => exact say_withMessages h _ (by cases everything <;> decide)

theorem look_withMessages (t : Turn) (room : Room) :
    { s with messages }.look t room = s.look t room := by
  unfold look
  rw [say_withMessages h t (by decide)]

theorem listExits_withMessages (t : Turn) (room : Room) :
    { s with messages }.listExits t room = s.listExits t room := by
  unfold listExits exitsMessage
  rw [say_withMessages h t (by decide), h "exits" (by decide)]

theorem perform_withMessages (t : Turn) (p : Player) (room : Room) (r : Reaction) :
    { s with messages }.perform t p room r = s.perform t p room r := by
  cases r with
  | ignored => rfl
  | notUnderstood => exact say_withMessages h _ (by decide)
  | reset everything => exact reset_withMessages h t everything
  | resetRefused => exact say_withMessages h _ (by decide)
  | triggers a =>
    simp only [perform, say_withMessages h t (show "no_match" ∉ statusMessages by decide)]
    rfl
  | look => exact look_withMessages h t room
  | exits => exact listExits_withMessages h t room
  | unmatched verb object => exact say_withMessages h _ (by decide)

theorem dispatch_withMessages (t : Turn) : { s with messages }.dispatch t = s.dispatch t := by
  unfold dispatch
  cases t.player with
  | none => rfl
  | some p => exact perform_withMessages h _ p _ _

theorem arrive_withMessages (t : Turn) (p : Player) (room : Option Room) :
    { s with messages }.arrive t p room = s.arrive t p room := by
  cases room with
  | none =>
    unfold arrive
    dsimp only
    rw [say_withMessages h _ (by decide)]
  | some room => rfl

theorem enter_withMessages (t : Turn) : { s with messages }.enter t = s.enter t := by
  unfold enter
  cases t.player with
  | none => rfl
  | some p => simp only [arrive_withMessages h]

theorem announce_withMessages (n : Nat) (t : Turn) :
    { s with messages }.announce n t = s.announce n t := by
  induction n generalizing t with
  | zero => rfl
  | succ n ih => simp only [announce, enter_withMessages h, ih]

/-- Up to its end a turn has no use for the messages about a status. -/
theorem advanceTurn_withMessages (t : Turn) :
    { s with messages }.advanceTurn t = s.advanceTurn t := by
  simp only [advanceTurn, enter_withMessages h, dispatch_withMessages h, announce_withMessages h]
  rfl

end Others

/-! ### The whole turn -/

/-- In a turn in which nothing goes wrong the status is saved exactly if it is another one at the end
than at the start, and the last reply is the message for these two, if there is one. The replies before
it make no use of such messages, so that there is no more than one of them. What the store answers is
up to it, so other turns may well take place in between. Only with messages that cannot be used may the
turn break off. -/
theorem announces_status {σ : Type} (s : Setting) (b : Backend σ) (store : σ)
    (line username map : String)
    (hsound : ¬((s.play (.start line username map)).history b store).Fails) :
    ∃ u halt, ((s.play (.start line username map)).run b store).1 = (u, halt) ∧
      (s.Usable → halt = none) ∧
      (halt = none → ∃ start t,
        ((s.advanceTurn (.start line username map)).run b store).1 = (t, none) ∧
        s.Announces username map start t.replies
          ((s.play (.start line username map)).history b store) u ∧
        ∀ messages, OtherwiseSame s.messages messages →
          { s with messages }.advanceTurn (.start line username map) =
            s.advanceTurn (.start line username map)) := by
  have hcourse := (advanceTurn_course (s := s) line username map).of_run b store
  rw [List.nil_append] at hcourse
  obtain ⟨start, hmidway⟩ := hcourse
  -- the turn is cut where it has made all its other replies
  rw [play, Script.history_bind] at hsound
  rw [play, Script.history_bind, Script.run_bind]
  match ((s.advanceTurn (.start line username map)).run b store).1, hmidway with
  | (t, some (.storage e)), hmidway =>
    exact absurd (History.fails_append.2 (.inl hmidway.fails)) hsound
  | (t, some (.crash c)), husable =>
    exact ⟨t, some (.crash c), rfl, fun hs => absurd hs husable, nofun⟩
  | (t, none), ⟨⟨p, hunderway⟩, hsaved, harrival⟩ =>
    have hends := (finish_announces hunderway hsaved harrival).of_run b
      ((s.advanceTurn (.start line username map)).run b store).2.2
    match
      ((s.finish t).run b ((s.advanceTurn (.start line username map)).run b store).2.2).1, hends with
    | (u, some c), husable => exact ⟨u, some c, rfl, fun hs => absurd hs husable, nofun⟩
    | (u, none), hends =>
      exact ⟨u, none, rfl, fun _ => rfl, fun _ =>
        ⟨start, t, rfl, hends, fun _ h => advanceTurn_withMessages h _⟩⟩

/-- Ann jumps to her death, and lands where she wins. That she was dead in between is neither saved nor
told. -/
theorem announces_status_ann :
    let cliff : Room := ⟨.null, 0, 0, "default", "cliff", "A cliff.",
      [⟨.command, "jump", none, [],
        [⟨[], "You jump.", some ⟨some (.delta 1 0), [], some .dead⟩⟩]⟩]⟩
    let meadow : Room := ⟨.null, 1, 0, "default", "meadow", "A meadow.",
      [⟨.command, "enter", none, [], [⟨[], "You are home.", some ⟨none, [], some .win⟩⟩]⟩]⟩
    let ann := Player.atPosition "ann" "default" 0 0
    let store := Store.ofCollections
      [(roomCollection, [cliff.toRecord, meadow.toRecord]), (playerCollection, [ann.toRecord])]
    let s : Setting := ⟨Bundled.english, Bundled.englishMessages, [0, 0]⟩
    let play := s.play (.start "jump" "ann" "default")
    s.Usable ∧ ¬(play.history Store.backend store).Fails ∧
      ∃ (start : Player) (t u : Turn), (play.run Store.backend store).1 = (u, none) ∧
        s.Announces "ann" "default" start t.replies (play.history Store.backend store) u ∧
        t.replies = [.text "You jump.", .text "A meadow.", .text "You are home."] ∧
        u.replies = t.replies ++ [.text "You have won!"] := by
  intro cliff meadow ann store s play
  have hs : s.Usable := usable_english _ 0 0
  have hread : store.Readable := by
    refine ⟨fun r hr => ?_, fun r hr => ?_⟩
    · obtain rfl := List.mem_singleton.1 hr
      exact ⟨_, rfl⟩
    · obtain rfl | hr := List.mem_cons.1 hr
      · exact ⟨_, rfl⟩
      · obtain rfl := List.mem_singleton.1 hr
        exact ⟨_, rfl⟩
  have hothers : ((s.advanceTurn (.start "jump" "ann" "default")).run Store.backend store).1.1.replies =
      [.text "You jump.", .text "A meadow.", .text "You are home."] := by
    decide +kernel
  have hreplies : (play.run Store.backend store).1.1.replies =
      [.text "You jump.", .text "A meadow.", .text "You are home.", .text "You have won!"] := by
    decide +kernel
  -- what follows holds of any store, and it is not computed any more
  clear_value store
  have hsound : ¬(play.history Store.backend store).Fails :=
    History.not_fails (Script.answeredBy_history _ _ _) hread fun _ _ => (play_asks s _).history _ _
  obtain ⟨u, halt, hplay, hhalt, hannounces⟩ :=
    announces_status s Store.backend store "jump" "ann" "default" hsound
  obtain rfl := hhalt hs
  obtain ⟨start, t, hadvance, hends, -⟩ := hannounces rfl
  rw [hadvance] at hothers
  rw [hplay] at hreplies
  exact ⟨hs, hsound, start, t, u, hplay, hends, hothers, hreplies.trans (by rw [hothers]; rfl)⟩

end Setting

end TextAdventure
