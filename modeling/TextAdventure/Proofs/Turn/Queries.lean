import TextAdventure.Proofs.Script.History
import TextAdventure.Turn.Play

/-!
# How much a turn asks

`Script.Asks A n` says that a script asks at most `n` queries, whatever the answers are, and that
each of them is of a kind `A`. A turn first looks up its player, and never again: what it does depends
on the player that is found, and not on the form of the record (`Setting.exists_play_eq`). It asks at
most thirty queries, and what it inserts is the record of a player (`Setting.play_asks`).
-/

namespace TextAdventure

namespace Script

variable {α β : Type} {A : Query → Prop}

/-- At most a number of queries are asked, all of one kind. -/
def Asks (A : Query → Prop) : Nat → Script α → Prop
  | _, .done _ => True
  | n, .note _ next => next.Asks A n
  | 0, .ask .. => False
  | n + 1, .ask q next => A q ∧ ∀ answer, (next answer).Asks A n

namespace Asks

theorem mono {m n : Nat} {x : Script α} (h : x.Asks A m) (hmn : m ≤ n) : x.Asks A n := by
  induction x generalizing m n with
  | done a => trivial
  | note ns next ih => exact ih h hmn
  | ask q next ih =>
    obtain ⟨m, rfl⟩ | rfl : (∃ k, m = k + 1) ∨ m = 0 := by cases m <;> simp
    · obtain ⟨n, rfl⟩ : ∃ k, n = k + 1 := ⟨n - 1, by omega⟩
      exact ⟨h.1, fun answer => ih answer (h.2 answer) (by omega)⟩
    · exact h.elim

theorem imp {B : Query → Prop} {n : Nat} {x : Script α} (h : x.Asks A n) (hAB : ∀ q, A q → B q) :
    x.Asks B n := by
  induction x generalizing n with
  | done a => trivial
  | note ns next ih => exact ih h
  | ask q next ih =>
    obtain ⟨n, rfl⟩ | rfl : (∃ k, n = k + 1) ∨ n = 0 := by cases n <;> simp
    · exact ⟨hAB q h.1, fun answer => ih answer (h.2 answer)⟩
    · exact h.elim

theorem bind {m n : Nat} {x : Script α} {f : α → Script β} (hx : x.Asks A m)
    (hf : ∀ a, (f a).Asks A n) : (x.bind f).Asks A (m + n) := by
  induction x generalizing m with
  | done a => exact (hf a).mono (by omega)
  | note ns next ih => exact ih hx
  | ask q next ih =>
    obtain ⟨m, rfl⟩ | rfl : (∃ k, m = k + 1) ∨ m = 0 := by cases m <;> simp
    · rw [Nat.succ_add_eq_add_succ]
      exact ⟨hx.1, fun answer => ih answer (hx.2 answer)⟩
    · exact hx.elim

theorem andThen {m n : Nat} {r : Run} {next : Turn → Run} (hr : r.Asks A m)
    (hnext : ∀ t, (next t).Asks A n) : (r.andThen next).Asks A (m + n) :=
  hr.bind fun
    | (t, none) => hnext t
    | (_, some _) => trivial

/-- Going on to the next query asks no more. -/
theorem advance {n : Nat} {x : Script α} (h : x.Asks A n) : x.advance.2.Asks A n := by
  induction x with
  | done a => exact h
  | note ns next ih => exact ih h
  | ask q next => exact h

/-- All that is asked along a run is of that kind. -/
theorem history {σ : Type} {n : Nat} {x : Script α} (h : x.Asks A n) (b : Backend σ) (s : σ)
    {q : Query} {answer : q.Answer} (hq : .asked q answer ∈ x.history b s) : A q := by
  induction x generalizing n s with
  | done a => exact absurd hq List.not_mem_nil
  | note ns next ih =>
    rcases List.mem_append.1 hq with hq | hq
    · obtain ⟨_, -, e⟩ := List.mem_map.1 hq
      cases e
    · exact ih h s hq
  | ask r next ih =>
    obtain ⟨n, rfl⟩ | rfl : (∃ k, n = k + 1) ∨ n = 0 := by cases n <;> simp
    · rcases List.mem_cons.1 hq with e | hq
      · cases e
        exact h.1
      · exact ih _ (h.2 _) _ hq
    · exact h.elim

end Asks

end Script

namespace Query

/-- What is inserted is the record of a player. -/
def InsertsPlayer (q : Query) : Prop := ∀ record, q = .insertPlayer record →
  ∃ p : Player, record = p.toRecord

/-- What is asked after the player has been looked up. -/
def Follows : Query → Prop
  | .findPlayer .. => False
  | .insertPlayer record => ∃ p : Player, record = p.toRecord
  | .findRoom .. | .updatePlayer .. => True

theorem Follows.insertsPlayer {q : Query} (h : q.Follows) : q.InsertsPlayer := by
  rintro record rfl
  exact h

end Query

open Script Query

namespace Script

theorem createPlayer_asks (username map : String) (place : Int × Int) :
    (createPlayer username map place).Asks Follows 1 := by
  refine ⟨⟨_, rfl⟩, fun answer => ?_⟩
  dsimp only
  split <;> trivial

theorem findRoom_asks (x y : Int) (map : String) :
    (findRoom x y map).Asks Follows 1 :=
  ⟨trivial, fun _ => trivial⟩

theorem savePlayer_asks (p : Player) (change : Change) :
    (savePlayer p change).Asks Follows 1 :=
  ⟨trivial, fun _ => trivial⟩

end Script

theorem Run.pass_asks (step : Turn × Option Crash) : (Run.pass step).Asks Follows 0 :=
  trivial

namespace Setting

variable (s : Setting)

/-- What becomes of a turn when its player has been looked up. -/
def meet (t : Turn) : Except StorageError (Option Player) → Run
  | .error e => .done (t, some (.storage e))
  | .ok (some p) => .done ({ t with player := some p }, none)
  | .ok none =>
    match s.origin.start with
    | .error d => .done (t, some (.crash (.defect d)))
    | .ok place =>
      (createPlayer t.username t.map place).bind fun
        | .error e => .done (t, some (.storage e))
        | .ok p =>
          .done ({ t with player := some p, pending := { t.pending with arrival := true } }, none)

theorem identify_eq (t : Turn) :
    s.identify t = (Script.findPlayer t.username t.map).bind (s.meet t) := rfl

theorem meet_asks (t : Turn) (found : Except StorageError (Option Player)) :
    (s.meet t found).Asks Follows 1 := by
  unfold meet
  split
  · trivial
  · trivial
  · split
    · trivial
    · refine (createPlayer_asks _ _ _).bind (n := 0) fun created => ?_
      split <;> trivial

theorem enter_asks (t : Turn) : (s.enter t).Asks Follows 1 := by
  unfold enter
  split
  · trivial
  · refine (findRoom_asks _ _ _).bind (n := 0) fun found => ?_
    split <;> trivial

theorem persistItems_asks (p : Player) (t : Turn) : (persistItems p t).Asks Follows 1 := by
  unfold persistItems
  split
  · exact (savePlayer_asks _ _).bind (n := 0) fun _ => trivial
  · trivial

theorem persistPosition_asks (p : Player) (t : Turn) :
    (persistPosition p t).Asks Follows 1 := by
  unfold persistPosition
  split
  · exact (savePlayer_asks _ _).bind (n := 0) fun _ => trivial
  · trivial

theorem persist_asks (t : Turn) : (persist t).Asks Follows 2 := by
  unfold persist
  split
  · trivial
  · exact (persistItems_asks _ t).bind (persistPosition_asks _)

theorem announce_asks (n : Nat) (t : Turn) : (s.announce n t).Asks Follows (3 * n) := by
  induction n generalizing t with
  | zero =>
    unfold announce
    split <;> trivial
  | succ n ih =>
    unfold announce
    split
    · refine ((s.enter_asks t).andThen fun t => (persist_asks t).bind ih).mono ?_
      omega
    · trivial

theorem announceStatus_asks (t : Turn) : (s.announceStatus t).Asks Follows 1 := by
  unfold announceStatus
  split
  · trivial
  · split
    · refine Asks.mono (Asks.andThen (n := 0) (Run.pass_asks _) fun t => ?_) (Nat.zero_le 1)
      trivial
    · exact (Run.pass_asks _).andThen (n := 1) fun t =>
        (savePlayer_asks _ _).bind (n := 0) fun _ => trivial

theorem finish_asks (t : Turn) : (s.finish t).Asks Follows 1 := by
  unfold finish
  split
  · trivial
  · exact (s.announceStatus_asks t).andThen (n := 0) fun _ => Run.pass_asks _

/-- A turn begins with the look-up of its player, and what follows depends on the player found. -/
theorem exists_play_eq (t : Turn) : ∃ next : Except StorageError (Option Player) → Run,
    s.play t = .ask (.findPlayer t.username t.map)
      (fun answer => next (playerFound t.username answer)) ∧
    ∀ found, (next found).Asks Follows 29 := by
  obtain ⟨finish, hplay, hfinish⟩ : ∃ finish : Turn × Option Halt → Run,
      s.play t = (s.advanceTurn t).bind finish ∧ ∀ x, (finish x).Asks Follows 1 := by
    refine ⟨_, rfl, fun x => ?_⟩
    split
    · exact s.finish_asks _
    · exact s.finish_asks _
    · trivial
  refine ⟨fun found =>
    ((s.meet t found).andThen fun t =>
      (s.enter t).andThen fun t =>
        (Run.pass (s.dispatch t)).andThen fun t =>
          (persist t).bind fun t => s.announce maxRoomChain t).bind finish, ?_, fun found => ?_⟩
  · rw [hplay, advanceTurn, identify_eq]
    rfl
  · refine Asks.bind (m := 28) (n := 1) ?_ hfinish
    refine (s.meet_asks t found).andThen (n := 27) fun t => ?_
    refine (s.enter_asks t).andThen (n := 26) fun t => ?_
    refine (Run.pass_asks _).andThen (n := 26) fun t => ?_
    exact (persist_asks t).bind fun t => s.announce_asks maxRoomChain t

/-- A turn asks at most thirty queries, and inserts records of players only. -/
theorem play_asks (t : Turn) : (s.play t).Asks InsertsPlayer 30 := by
  obtain ⟨next, hplay, hnext⟩ := s.exists_play_eq t
  rw [hplay]
  exact ⟨nofun, fun answer => (hnext _).imp fun _ hq => hq.insertsPlayer⟩

end Setting

end TextAdventure
