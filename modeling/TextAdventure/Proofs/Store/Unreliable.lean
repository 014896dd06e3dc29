import TextAdventure.Store.Memory

/-!
# Unreliable stores

A store in memory whose calls may go wrong, each in its own way: a call may fail, an update may miss
its record, and a record may be stored without an identity. Whether a call that went wrong was done
all the same is open, too; a look-up that does not fail tells what is there. The outcomes of the
calls are given beforehand (`Unreliable.outcomes`), so that what holds for all of them holds for
every pattern of failures.
-/

namespace TextAdventure

/-- What comes of one call to a store. -/
inductive Outcome where
  | works
  /-- The call fails, after it was done or without. -/
  | fails (reason : String) (done : Bool)
  /-- An update misses, or an insertion gives no identity, after it was done or without. -/
  | denies (done : Bool)
  deriving DecidableEq, Repr

namespace Outcome

/-- Whether the call is done. -/
def isDone : Outcome → Bool
  | .works => true
  | .fails _ done | .denies done => done

/-- What is answered, given the answer of a call that works. -/
def report : Outcome → (q : Query) → q.Answer → q.Answer
  | .fails reason _, .findPlayer .., _ => .error (.refused reason)
  | .fails reason _, .insertPlayer _, _ => .error (.refused reason)
  | .fails reason _, .findRoom .., _ => .error (.refused reason)
  | .fails reason _, .updatePlayer .., _ => .error (.refused reason)
  | .denies _, .insertPlayer record, _ => .ok record
  | .denies _, .updatePlayer .., _ => .ok false
  | _, _, answer => answer

end Outcome

/-- A store in memory, and what will come of the calls to it; if nothing is said, a call works. -/
structure Unreliable where
  memory : Store
  outcomes : List Outcome
  deriving DecidableEq, Repr

namespace Unreliable

/-- What comes of the next call. -/
def outcome (u : Unreliable) : Outcome := u.outcomes.head?.getD .works

/-- Answers a query. -/
def answer (q : Query) (u : Unreliable) : q.Answer × Unreliable :=
  let (answer, memory) := Store.answer q u.memory
  (u.outcome.report q answer,
    { memory := if u.outcome.isDone then memory else u.memory, outcomes := u.outcomes.tail })

/-- The unreliable store as something that answers queries. -/
def backend : Backend Unreliable := ⟨answer⟩

/-- A call is done, or it leaves the store as it was. -/
theorem memory_answer (q : Query) (u : Unreliable) :
    (backend.answer q u).2.memory = u.memory ∨
      (backend.answer q u).2.memory = (Store.answer q u.memory).2 := by
  cases hdone : u.outcome.isDone with
  | false => exact .inl (by simp [backend, answer, hdone])
  | true => exact .inr (by simp [backend, answer, hdone])

/-- A player who is looked up is found if there, or the look-up fails. -/
theorem answer_findPlayer (username map : String) (u : Unreliable) :
    (backend.answer (.findPlayer username map) u).1 =
        .ok (u.memory.find? playerCollection (Query.playerSelector username map)) ∨
      ∃ e, (backend.answer (.findPlayer username map) u).1 = .error e := by
  cases hout : u.outcome with
  | works => exact .inl (by simp [backend, answer, hout, Outcome.report, Store.answer])
  | denies done => exact .inl (by simp [backend, answer, hout, Outcome.report, Store.answer])
  | fails reason done =>
    exact .inr ⟨.refused reason, by simp [backend, answer, hout, Outcome.report]⟩

/-- A room that is looked up is found if there, or the look-up fails. -/
theorem answer_findRoom (x y : Int) (map : String) (u : Unreliable) :
    (backend.answer (.findRoom x y map) u).1 =
        .ok (u.memory.find? roomCollection (Query.roomSelector x y map)) ∨
      ∃ e, (backend.answer (.findRoom x y map) u).1 = .error e := by
  cases hout : u.outcome with
  | works => exact .inl (by simp [backend, answer, hout, Outcome.report, Store.answer])
  | denies done => exact .inl (by simp [backend, answer, hout, Outcome.report, Store.answer])
  | fails reason done =>
    exact .inr ⟨.refused reason, by simp [backend, answer, hout, Outcome.report]⟩

/-- If an insertion gives an identity, it was done. -/
theorem answer_insertPlayer {record stored : Fields} {u : Unreliable}
    (hrecord : record.get? "_id" = none) (hid : stored.get? "_id" ≠ none)
    (hstored : (backend.answer (.insertPlayer record) u).1 = .ok stored) :
    (backend.answer (.insertPlayer record) u).2.memory =
        (u.memory.insert playerCollection record).2 ∧
      stored = (u.memory.insert playerCollection record).1 := by
  cases hout : u.outcome with
  | works =>
    simp only [backend, answer, hout, Outcome.report, Store.answer, Except.ok.injEq] at hstored
    exact ⟨by simp [backend, answer, hout, Outcome.isDone, Store.answer], hstored.symm⟩
  | denies done =>
    simp only [backend, answer, hout, Outcome.report, Except.ok.injEq] at hstored
    exact absurd (hstored ▸ hrecord) hid
  | fails reason done => simp [backend, answer, hout, Outcome.report] at hstored

end Unreliable

end TextAdventure
