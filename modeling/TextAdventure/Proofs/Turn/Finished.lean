import TextAdventure.Proofs.Turn.Protocol
import TextAdventure.Proofs.Turn.Queries

/-!
# Players who play no more

A player who is dead or has won is only reminded of it, unless the line is a reset. The turn of such
a player looks up the room and asks nothing else, so that nothing is saved, and the replies depend
on the line and the status alone (`Setting.resume_finished`).
-/

namespace TextAdventure

namespace History

/-- Nothing is asked but rooms. -/
def OnlyLooks (h : History) : Prop := ∀ q ∈ h.queries, q.isRoomLookup = true

@[simp] theorem onlyLooks_append {g h : History} :
    OnlyLooks (g ++ h) ↔ OnlyLooks g ∧ OnlyLooks h := by
  simp [OnlyLooks, or_imp, forall_and]

@[simp] theorem onlyLooks_notes (ns : List Note) : OnlyLooks (ns.map .noted) := by
  simp [OnlyLooks]

@[simp] theorem onlyLooks_nil : OnlyLooks [] := onlyLooks_notes []

@[simp] theorem onlyLooks_asked_cons {q : Query} {answer : q.Answer} {h : History} :
    OnlyLooks (.asked q answer :: h) ↔ q.isRoomLookup = true ∧ OnlyLooks h := by
  simp [OnlyLooks]

@[simp] theorem onlyLooks_noted_cons {n : Note} {h : History} :
    OnlyLooks (.noted n :: h) ↔ OnlyLooks h := by
  simp [OnlyLooks]

end History

namespace Setting

variable (s : Setting)

/-- A line asks for a reset that is carried out. -/
def Resets (line : String) : Prop :=
  ∃ p, s.vocabulary.parse? line = some p ∧ p.verb = s.vocabulary.wordFor .reset ∧
    (p.object = "" ∨ Text.fold p.object = Text.fold s.vocabulary.everything)

instance (line : String) : Decidable (s.Resets line) :=
  decidable_of_iff
    ((s.vocabulary.parse? line).any fun p => decide (p.verb = s.vocabulary.wordFor .reset ∧
      (p.object = "" ∨ Text.fold p.object = Text.fold s.vocabulary.everything)) = true)
    (by simp [Resets, Option.any_eq_true])

/-- The keys of what a player who plays no more is told before the reminder: a reset of something
that cannot be reset is refused. -/
def refusalKeys (line : String) : List String :=
  match s.vocabulary.parse? line with
  | some p => if p.verb = s.vocabulary.wordFor .reset then ["no_match"] else []
  | none => []

/-- The keys of all that a player who plays no more is told. -/
def finishedKeys (line : String) (status : Status) : List String :=
  s.refusalKeys line ++ (statusKeys status).toList.map (·.2)

/-- What becomes of a turn when its player has been looked up, to its end. -/
def resume (t : Turn) (found : Except StorageError (Option Player)) : Run :=
  ((s.meet t found).andThen fun t =>
    (s.enter t).andThen fun t =>
      (Run.pass (s.dispatch t)).andThen fun t =>
        (persist t).bind fun t => s.announce maxRoomChain t).bind fun
    | (t, none) => s.finish t
    | (t, some (.storage e)) => s.finish { t with error := some e }
    | (t, some (.crash c)) => .done (t, some (.crash c))

/-- A turn looks up its player and goes on with what was found. -/
theorem play_eq_ask (t : Turn) :
    s.play t = .ask (.findPlayer t.username t.map)
      fun answer => s.resume t (Script.playerFound t.username answer) := by
  rw [play, advanceTurn, identify_eq]
  rfl

variable {s} {line : String} {p : Player}

/-- A player who plays no more is ignored or refused, unless the line is a reset. -/
theorem react_finished (hp : p.isFinished = true) (hline : ¬s.Resets line) (room : Room) :
    s.react p room (s.vocabulary.readLine line).phrase? = .ignored ∧ s.refusalKeys line = [] ∨
      s.react p room (s.vocabulary.readLine line).phrase? = .resetRefused ∧
        s.refusalKeys line = ["no_match"] := by
  have hparse : s.vocabulary.parse? line = (s.vocabulary.readLine line).phrase? := rfl
  rw [refusalKeys, hparse]
  cases hphrase : (s.vocabulary.readLine line).phrase? with
  | none => exact .inl ⟨by simp [react, hp], rfl⟩
  | some q =>
    by_cases hverb : q.verb = s.vocabulary.wordFor .reset
    · have hobject : ¬(q.object = "" ∨ Text.fold q.object = Text.fold s.vocabulary.everything) :=
        fun h => hline ⟨q, hparse.trans hphrase, hverb, h⟩
      rw [not_or] at hobject
      exact .inr ⟨by simp [react, reactToReset, hverb, hobject], by simp [hverb]⟩
    · exact .inl ⟨by simp [react, hp, hverb], by simp [hverb]⟩

/-- A turn at rest: its player has not changed, nothing is pending, and the replies are the messages
with some keys. -/
structure Resting (s : Setting) (line : String) (p : Player) (keys : List String) (t : Turn) :
    Prop where
  line : t.line = line
  player : t.player = some p
  pending : t.pending = .none
  statusAtEntry : t.statusAtEntry = some p.status
  error : t.error = none
  isComplete : t.isComplete = false
  replies : t.replies.map Except.ok = keys.map s.messages.entry

/-- The end of a part of a turn at rest: the turn is still at rest, or it was halted after a query
that went wrong, or for want of one of some messages. Nothing but rooms was looked up. -/
def Rests (s : Setting) (needed : List String) (R : Turn → Prop) (h : History)
    (x : Turn × Option Halt) : Prop :=
  h.OnlyLooks ∧
    match x with
    | (t, none) => R t
    | (_, some (.storage _)) => h.Fails
    | (_, some (.crash _)) => ∃ key ∈ needed, ∀ m, s.messages.entry key ≠ .ok m

section Parts

variable {keys needed : List String} {past : History} {t : Turn}

theorem Rests.andThen {R R' : Turn → Prop} {r : Run} {next : Turn → Run}
    (hr : r.Always (s.Rests needed R) past)
    (hnext : ∀ g t, g.OnlyLooks → R t → (next t).Always (s.Rests needed R') g) :
    (r.andThen next).Always (s.Rests needed R') past := by
  refine hr.andThen (fun g t ht => hnext g t ht.1 ht.2) fun g t halt ht => ?_
  cases halt with
  | storage e => exact ht
  | crash c => exact ht

namespace Resting

/-- A message is told, or it is missing. -/
theorem say (ht : s.Resting line p keys t) {key : String} (hkey : key ∈ needed)
    (hpast : past.OnlyLooks) :
    (Run.pass (t.say s.messages key)).Always (s.Rests needed (s.Resting line p (keys ++ [key])))
      past := by
  unfold Turn.say
  split
  · next m hm =>
    exact ⟨by simpa using hpast, { ht with replies := by simp [Turn.reply, ht.replies, hm] }⟩
  · next d hd => exact ⟨by simpa using hpast, key, hkey, by simp [hd]⟩

/-- The room is looked up, and the player stays there. -/
theorem enter
    (ht : s.Resting line p keys { t with statusAtEntry := t.statusAtEntry.or (some p.status) })
    (hpast : past.OnlyLooks) :
    (s.enter t).Always (s.Rests needed (s.Resting line p keys)) past := by
  have harrival : t.pending.arrival = false := congrArg Pending.arrival ht.pending
  unfold Setting.enter
  split
  · next hnone => exact absurd (hnone.symm.trans ht.player) (by simp)
  · next q hq =>
    obtain rfl : q = p := Option.some.inj (hq.symm.trans ht.player)
    intro answer
    match hroom : Script.roomFound q.x q.y q.map answer with
    | .error e =>
      simp only [Script.bind, hroom]
      exact ⟨by simp [hpast, Query.isRoomLookup], by simp [fails_of_roomFound hroom]⟩
    | .ok none =>
      simp only [Script.bind, hroom, arrive, Turn.log, Turn.note, harrival, Bool.false_eq_true,
        if_false]
      exact ⟨by simp [hpast, Query.isRoomLookup], { ht with }⟩
    | .ok (some room) =>
      simp only [Script.bind, hroom, arrive, harrival, Bool.false_eq_true, if_false]
      exact ⟨by simp [hpast, Query.isRoomLookup], { ht with }⟩

/-- The line is acted upon: it is ignored or refused. -/
theorem dispatch (ht : s.Resting line p keys t) (hp : p.isFinished = true)
    (hline : ¬s.Resets line) (hneeded : ∀ key ∈ s.refusalKeys line, key ∈ needed)
    (hpast : past.OnlyLooks) :
    (Run.pass (s.dispatch t)).Always
      (s.Rests needed (s.Resting line p (keys ++ s.refusalKeys line))) past := by
  unfold Setting.dispatch
  split
  · next hnone => exact absurd (hnone.symm.trans ht.player) (by simp)
  · next q hq =>
    obtain rfl : q = p := Option.some.inj (hq.symm.trans ht.player)
    rw [ht.line]
    dsimp only
    rcases react_finished hp hline (roomOf t q) with ⟨hreact, hkeys⟩ | ⟨hreact, hkeys⟩
    · rw [hreact, hkeys, List.append_nil]
      exact ⟨by simpa using hpast, { ht with line := rfl }⟩
    · rw [hreact, hkeys]
      refine say ?_ (hneeded _ (by simp [hkeys])) hpast
      exact { ht with line := rfl, player := ht.player }

theorem persist_eq (ht : s.Resting line p keys t) : persist t = .done t := by
  have hitems : t.pending.items = false := congrArg Pending.items ht.pending
  have hposition : t.pending.position = false := congrArg Pending.position ht.pending
  simp [persist, ht.player, persistItems, persistPosition, hitems, hposition, Script.bind]

theorem announce_eq (ht : s.Resting line p keys t) (n : Nat) :
    s.announce n t = .done (t, none) := by
  have harrival : t.pending.arrival = false := congrArg Pending.arrival ht.pending
  cases n <;> simp [announce, harrival]

/-- The player is reminded of the status, and the turn is completed. -/
theorem finish (ht : s.Resting line p keys t)
    (hneeded : ∀ key ∈ (statusKeys p.status).toList.map (·.2), key ∈ needed)
    (hpast : past.OnlyLooks) :
    (s.finish t).Always
      (s.Rests needed fun u => u.error = none ∧ u.replies.map Except.ok =
        (keys ++ (statusKeys p.status).toList.map (·.2)).map s.messages.entry) past := by
  have hremind : (Run.pass (s.remind t p)).Always
      (s.Rests needed (s.Resting line p (keys ++ (statusKeys p.status).toList.map (·.2))))
      past := by
    unfold remind
    cases hkeys : statusKeys p.status with
    | none => exact ⟨by simpa using hpast, by simpa using { ht with }⟩
    | some told =>
      simp only [Option.toList_some, List.map_cons, List.map_nil]
      exact ht.say (hneeded _ (by simp [hkeys])) hpast
  unfold Setting.finish
  rw [ht.error]
  refine Rests.andThen (R := s.Resting line p (keys ++ (statusKeys p.status).toList.map (·.2))) ?_
    fun g u hlooks hu => ?_
  · unfold announceStatus
    split
    · next hnone => exact absurd (hnone.symm.trans ht.player) (by simp)
    · next q hq =>
      obtain rfl : q = p := Option.some.inj (hq.symm.trans ht.player)
      rw [if_pos ht.statusAtEntry]
      refine Rests.andThen hremind fun g u hlooks hu => ⟨hlooks, ?_⟩
      exact { hu with pending := by simp [settleStatus, hu.pending, Pending.none] }
  · rw [conclude_eq (by exact hu.isComplete)]
    exact ⟨History.onlyLooks_append.2 ⟨hlooks, History.onlyLooks_notes _⟩, hu.error, hu.replies⟩

end Resting

end Parts

/-- A turn has ended without an error, and its replies are the messages with some keys. -/
def Tells (s : Setting) (keys : List String) (x : Turn × Option Halt) : Prop :=
  ∃ u, x = (u, none) ∧ u.error = none ∧ u.replies.map Except.ok = keys.map s.messages.entry

/-- A turn that is given up asks nothing more. -/
theorem finish_onlyLooks {past : History} (hpast : past.OnlyLooks) (t : Turn) (e : StorageError) :
    (s.finish { t with error := some e }).Always
      (fun h _ => h.OnlyLooks ∧ (past.Fails → h.Fails)) past :=
  ⟨History.onlyLooks_append.2 ⟨hpast, History.onlyLooks_notes _⟩,
    fun hfails => History.fails_append.2 (.inl hfails)⟩

/-- The turn of a player who plays no more, once the player has been looked up: it looks up the room
and asks nothing else. If that goes well and no message is missing, the replies are a refusal, if a
reset is refused, and the reminder. -/
theorem resume_finished (hp : p.isFinished = true) (hline : ¬s.Resets line)
    (username map : String) :
    (s.resume (.start line username map) (.ok (some p))).Always
      (fun h x => h.OnlyLooks ∧
        (¬h.Fails → (∀ key ∈ s.finishedKeys line p.status, ∃ m, s.messages.entry key = .ok m) →
          s.Tells (s.finishedKeys line p.status) x)) [] := by
  have hneeded : ∀ {key}, key ∈ s.finishedKeys line p.status ↔
      key ∈ s.refusalKeys line ∨ key ∈ (statusKeys p.status).toList.map (·.2) := List.mem_append
  -- up to its end the turn stays at rest
  let met : Turn := { Turn.start line username map with player := some p }
  have hmet : s.Resting line p []
      { met with statusAtEntry := met.statusAtEntry.or (some p.status) } :=
    ⟨rfl, rfl, rfl, rfl, rfl, rfl, rfl⟩
  have hadvanced : ((s.enter met).andThen fun t =>
      (Run.pass (s.dispatch t)).andThen fun t =>
        (persist t).bind fun t => s.announce maxRoomChain t).Always
      (s.Rests (s.finishedKeys line p.status) (s.Resting line p (s.refusalKeys line))) [] := by
    refine Rests.andThen (Resting.enter hmet (by simp)) fun g t hlooks ht => ?_
    refine Rests.andThen (ht.dispatch hp hline (fun key hkey => hneeded.2 (.inl hkey)) hlooks)
      fun g t hlooks ht => ?_
    rw [ht.persist_eq]
    show (s.announce maxRoomChain t).Always _ g
    rw [ht.announce_eq]
    exact ⟨hlooks, ht⟩
  refine (hadvanced.imp fun g x hx => ?_).bind
  match x, hx with
  | (_, some (.crash c)), ⟨hlooks, key, hkey, hmissing⟩ =>
    refine ⟨hlooks, fun _ htold => ?_⟩
    obtain ⟨m, hm⟩ := htold key hkey
    exact absurd hm (hmissing m)
  | (t, some (.storage e)), ⟨hlooks, hfails⟩ =>
    exact (finish_onlyLooks hlooks t e).imp fun h _ hh =>
      ⟨hh.1, fun hsound => absurd (hh.2 hfails) hsound⟩
  | (t, none), ⟨hlooks, ht⟩ =>
    refine (ht.finish (fun key hkey => hneeded.2 (.inr hkey)) hlooks).imp fun h y hy => ?_
    refine ⟨hy.1, fun hsound htold => ?_⟩
    match y, hy.2 with
    | (u, none), ⟨herror, hreplies⟩ => exact ⟨u, rfl, herror, hreplies⟩
    | (_, some (.storage _)), hfails => exact absurd hfails hsound
    | (_, some (.crash _)), ⟨key, hkey, hmissing⟩ =>
      obtain ⟨m, hm⟩ := htold key hkey
      exact absurd hm (hmissing m)

/-- If the player cannot be looked up, nothing more is asked. -/
theorem resume_error (t : Turn) (e : StorageError) :
    (s.resume t (.error e)).Always (fun h _ => h.OnlyLooks) [] := by
  have hfinish := finish_onlyLooks (s := s) History.onlyLooks_nil t e
  exact hfinish.imp (x := s.finish { t with error := some e }) fun _ _ hh => hh.1

end Setting

end TextAdventure
