import TextAdventure.Proofs.Store.Collection
import TextAdventure.Proofs.Store.Unreliable
import TextAdventure.Proofs.Turn.Course

/-!
# Stores that save or do not

An unreliable store whose updates have outcomes of their own: each works, finds no record, or fails,
and unless it works it writes nothing (`Fickle`). So what comes of the updates can be varied while all
other calls go as they went.

Along a history in which only the own record of a player is updated, the changes that were saved
(`History.saved`) are those that are made to the record (`History.replay_fickle`).
-/

namespace TextAdventure

/-- What comes of one update. -/
inductive SaveOutcome where
  | works
  /-- No record is found. -/
  | misses
  | fails (reason : String)
  deriving DecidableEq, Repr

/-- A store, and what will come of its updates; if nothing is said, an update works. -/
structure Fickle where
  /-- The store, and what will come of the other calls. -/
  rest : Unreliable
  saves : List SaveOutcome
  deriving DecidableEq, Repr

namespace Fickle

/-- Changes a player, if the update works. -/
def update (id : Value) (change : Change) (f : Fickle) : Except StorageError Bool × Fickle :=
  match f.saves.head?.getD .works with
  | .works =>
    let (found, memory) :=
      f.rest.memory.update playerCollection (Query.identitySelector id) change.fields
    (.ok found, { rest := { f.rest with memory }, saves := f.saves.tail })
  | .misses => (.ok false, { f with saves := f.saves.tail })
  | .fails reason => (.error (.refused reason), { f with saves := f.saves.tail })

/-- Answers a query. -/
def answer : (q : Query) → Fickle → q.Answer × Fickle
  | .updatePlayer id change, f => f.update id change
  | .findPlayer username map, f =>
    let (answer, rest) := Unreliable.answer (.findPlayer username map) f.rest
    (answer, { f with rest })
  | .insertPlayer record, f =>
    let (answer, rest) := Unreliable.answer (.insertPlayer record) f.rest
    (answer, { f with rest })
  | .findRoom x y map, f =>
    let (answer, rest) := Unreliable.answer (.findRoom x y map) f.rest
    (answer, { f with rest })

/-- The fickle store as something that answers queries. -/
def backend : Backend Fickle := ⟨answer⟩

/-- The players and what was given to them as identities. -/
def memory (f : Fickle) : Store := f.rest.memory

theorem memory_findPlayer (username map : String) (f : Fickle) :
    (backend.answer (.findPlayer username map) f).2.memory = f.memory := by
  simp only [memory, backend, answer, Unreliable.answer, Store.answer, ite_self]

theorem memory_findRoom (x y : Int) (map : String) (f : Fickle) :
    (backend.answer (.findRoom x y map) f).2.memory = f.memory := by
  simp only [memory, backend, answer, Unreliable.answer, Store.answer, ite_self]

/-- A record is inserted, or the store is left as it was. -/
theorem memory_insertPlayer (record : Fields) (f : Fickle) :
    (backend.answer (.insertPlayer record) f).2.memory = f.memory ∨
      (backend.answer (.insertPlayer record) f).2.memory =
        (f.memory.insert playerCollection record).2 :=
  f.rest.memory_answer (.insertPlayer record)

/-- A player who is looked up is found if there. -/
theorem eq_of_findPlayer (f : Fickle) {username map : String} {found : Option Fields}
    (h : .ok found = (backend.answer (.findPlayer username map) f).1) :
    found = f.memory.own? ⟨username, map⟩ := by
  obtain hfound | ⟨e, hfails⟩ := f.rest.answer_findPlayer username map
  · exact Except.ok.inj (h.trans hfound)
  · cases h.trans hfails

/-- If an insertion gives an identity, it was done. -/
theorem eq_of_insertPlayer {f : Fickle} {r stored : Fields} (hr : r.get? "_id" = none)
    (hid : stored.get? "_id" ≠ none) (h : .ok stored = (backend.answer (.insertPlayer r) f).1) :
    (backend.answer (.insertPlayer r) f).2.memory = (f.memory.insert playerCollection r).2 ∧
      stored = Store.identified r f.memory.nextId :=
  Unreliable.answer_insertPlayer (u := f.rest) hr hid h.symm

/-! ### Stores that differ in what was saved -/

/-- Two stores answer alike, but for what was saved: they have the same rooms, give the same
identities next, and the same will come of all calls but updates. -/
structure AnswersLike (f f' : Fickle) : Prop where
  rooms : f'.memory.records roomCollection = f.memory.records roomCollection
  nextId : f'.memory.nextId = f.memory.nextId
  outcomes : f'.rest.outcomes = f.rest.outcomes

namespace AnswersLike

variable {f f' : Fickle}

theorem outcome (h : f.AnswersLike f') : f'.rest.outcome = f.rest.outcome := by
  rw [Unreliable.outcome, Unreliable.outcome, h.outcomes]

theorem symm (h : f.AnswersLike f') : f'.AnswersLike f :=
  ⟨h.rooms.symm, h.nextId.symm, h.outcomes.symm⟩

theorem trans {f'' : Fickle} (h : f.AnswersLike f') (h' : f'.AnswersLike f'') :
    f.AnswersLike f'' :=
  ⟨h'.rooms.trans h.rooms, h'.nextId.trans h.nextId, h'.outcomes.trans h.outcomes⟩

/-- An update does not tell in what other calls bring. -/
theorem update (f : Fickle) (id : Value) (change : Change) :
    f.AnswersLike (f.update id change).2 := by
  unfold Fickle.update
  split
  · exact ⟨Store.records_answer_of_ne (by decide) (.updatePlayer id change) f.rest.memory,
      Store.nextId_update _ _ _, rfl⟩
  · exact ⟨rfl, rfl, rfl⟩
  · exact ⟨rfl, rfl, rfl⟩

/-- Rooms are found in both or in neither. -/
theorem findRoom (h : f.AnswersLike f') (x y : Int) (map : String) :
    (backend.answer (.findRoom x y map) f').1 = (backend.answer (.findRoom x y map) f).1 ∧
      (backend.answer (.findRoom x y map) f).2.AnswersLike
        (backend.answer (.findRoom x y map) f').2 := by
  have hfind : f'.rest.memory.find? roomCollection (Query.roomSelector x y map) =
      f.rest.memory.find? roomCollection (Query.roomSelector x y map) := Store.find?_congr h.rooms _
  have hsame : ∀ g : Fickle, (backend.answer (.findRoom x y map) g).2 =
      { g with rest := { g.rest with outcomes := g.rest.outcomes.tail } } := by
    intro g
    simp only [backend, answer, Unreliable.answer, Store.answer, ite_self]
  refine ⟨?_, ?_⟩
  · simp only [backend, answer, Unreliable.answer, Store.answer, hfind, h.outcome]
  · rw [hsame f, hsame f']
    exact ⟨h.rooms, h.nextId, congrArg List.tail h.outcomes⟩

/-- A record that is inserted is stored alike in both. -/
theorem insertPlayer (h : f.AnswersLike f') (record : Fields) :
    (backend.answer (.insertPlayer record) f').1 = (backend.answer (.insertPlayer record) f).1 ∧
      (backend.answer (.insertPlayer record) f).2.AnswersLike
        (backend.answer (.insertPlayer record) f').2 := by
  have hnext : f'.rest.memory.nextId = f.rest.memory.nextId := h.nextId
  refine ⟨?_, ?_⟩
  · simp only [backend, answer, Unreliable.answer, Store.answer, Store.insert, hnext, h.outcome]
  · have hrooms : ∀ s : Store, (s.insert playerCollection record).2.records roomCollection =
        s.records roomCollection := fun s => Store.records_insert_of_ne (by decide) s record
    have hcount : ∀ s : Store, (s.insert playerCollection record).2.nextId = s.nextId + 1 :=
      fun _ => rfl
    refine ⟨?_, ?_, congrArg List.tail h.outcomes⟩
    · simp only [memory, backend, answer, Unreliable.answer, Store.answer, h.outcome]
      split
      · rw [hrooms, hrooms]
        exact h.rooms
      · exact h.rooms
    · simp only [memory, backend, answer, Unreliable.answer, Store.answer, h.outcome]
      split
      · rw [hcount, hcount, hnext]
      · exact hnext

end AnswersLike

end Fickle

/-! ### What was saved -/

namespace History

/-- The changes that were saved, in order. -/
def saved (h : History) : List Change :=
  h.filterMap fun
    | .asked (.updatePlayer _ change) answer =>
      if Script.isSaved answer then some change else none
    | _ => none

@[simp] theorem saved_append (g h : History) : saved (g ++ h) = saved g ++ saved h :=
  List.filterMap_append

theorem saved_update_cons (id : Value) (c : Change)
    (answer : (Query.updatePlayer id c).Answer) (h : History) :
    saved (.asked (.updatePlayer id c) answer :: h) =
      if Script.isSaved answer then c :: saved h else saved h := by
  simp only [saved, List.filterMap_cons]
  cases Script.isSaved answer <;> rfl

end History

namespace Fickle

variable {f : Fickle} {key : TurnKey} {r : Fields} {id : Value}

/-- An update under the identity of the own record of a player changes that record if it is answered
so, and nothing otherwise. -/
theorem own?_update (hids : f.memory.OwnIds) (hr : f.memory.own? key = some r)
    (hid : r.get? "_id" = some id) (c : Change) :
    (f.update id c).2.memory.OwnIds ∧
      (f.update id c).2.memory.own? key =
        some (if Script.isSaved (f.update id c).1 then r.update c.fields else r) := by
  unfold update
  split
  · obtain ⟨hfound, hown, -⟩ := hids.update_own hr hid c
    refine ⟨hids.update _ c, Eq.trans hown ?_⟩
    simp only [Script.isSaved]
    rw [← hfound]
    rfl
  · exact ⟨hids, hr⟩
  · exact ⟨hids, hr⟩

end Fickle

/-- Along a history in which only the player's own record is updated, the record is changed by what was
saved. -/
theorem History.replay_fickle {h : History} {id : Value} {key : TurnKey} {r : Fields}
    (hsaves : h.Saves id) {f : Fickle} (hanswered : h.AnsweredBy Fickle.backend f)
    (hids : f.memory.OwnIds) (hr : f.memory.own? key = some r) (hid : r.get? "_id" = some id) :
    (h.replay Fickle.backend f).memory.own? key = some (Change.makeAll h.saved r) := by
  induction h generalizing f r with
  | nil => exact hr
  | cons e h ih =>
    have hsaves' : Saves id h := fun q answer hm => hsaves q answer (List.mem_cons_of_mem _ hm)
    cases e with
    | noted n => exact ih hsaves' hanswered hids hr hid
    | asked q answer =>
      obtain ⟨rfl, hanswered⟩ := hanswered
      obtain ⟨x, y, map, rfl⟩ | ⟨c, rfl⟩ := hsaves q _ List.mem_cons_self
      · have hmemory := f.memory_findRoom x y map
        exact ih hsaves' hanswered (by rwa [hmemory]) (by rwa [hmemory]) hid
      · obtain ⟨hids', hown⟩ := Fickle.own?_update hids hr hid c
        rw [saved_update_cons]
        by_cases hsaved : Script.isSaved (f.update id c).1 = true
        · rw [if_pos hsaved] at hown
          have hrest := ih hsaves' hanswered hids' hown
            ((Change.get?_update_of_not_saved (by decide) c r).trans hid)
          exact hrest.trans (by rw [if_pos (by exact hsaved), Change.makeAll_cons])
        · rw [if_neg hsaved] at hown
          exact (ih hsaves' hanswered hids' hown hid).trans (by rw [if_neg (by exact hsaved)])

end TextAdventure
