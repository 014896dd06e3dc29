import TextAdventure.Proofs.Game.Steps
import TextAdventure.Proofs.Store.Collection
import TextAdventure.Proofs.Store.Unreliable
import TextAdventure.Proofs.Turn.Phase

/-!
# What a turn does to the players

What one query of a turn does to the collection of players, over a store whose calls may go wrong.
The query keeps the collection sound, touches nobody else, and changes a player who plays no more
only if the line is a reset (`Setting.Tends`); and the phase that the turn has come to goes on
telling what the store holds about the player (`Turn.Phase.Fits`). `Turn.Phase.Fits.answer` proves
this of every query that a turn may ask in its phase.
-/

namespace TextAdventure

/-- What is known about the player of a turn in a phase. -/
def Turn.Phase.Fits (key : TurnKey) (st : Store) : Turn.Phase → Prop
  | .begun | .over => True
  | .missing => st.own? key = none
  | .playing id status =>
    ∃ r, st.own? key = some r ∧ r.get? "_id" = some id ∧ r.status? = .valid status

namespace Setting

/-- What a turn may do to the collection of players. -/
structure Tends (s : Setting) (t : Turn) (st st' : Store) : Prop where
  tags : st.tags <+: st'.tags
  others : ∀ key ≠ t.key, st'.own? key = st.own? key
  proper : (∀ r ∈ st.records playerCollection, r.IsProper) →
    ∀ r ∈ st'.records playerCollection, r.IsProper
  /-- A player who plays no more is changed by a reset only. -/
  kept : ¬s.Resets t.line → ∀ r status, st.own? t.key = some r → r.status? = .valid status →
    status ≠ .alive → st'.own? t.key = some r

variable {s : Setting} {t : Turn} {st : Store}

namespace Tends

theorem refl (s : Setting) (t : Turn) (st : Store) : s.Tends t st st where
  tags := List.prefix_rfl
  others := fun _ _ => rfl
  proper := id
  kept := fun _ _ _ hr _ _ => hr

theorem trans {st' st'' : Store} (h : s.Tends t st st') (h' : s.Tends t st' st'') :
    s.Tends t st st'' where
  tags := h.tags.trans h'.tags
  others := fun key hkey => (h'.others key hkey).trans (h.others key hkey)
  proper := h'.proper ∘ h.proper
  kept := fun hline r status hr hstatus halive =>
    h'.kept hline r status (h.kept hline r status hr hstatus halive) hstatus halive

/-- Adding a player who is not there. -/
theorem insert (hnone : st.own? t.key = none) (x y : Int) :
    s.Tends t st (st.insert playerCollection
      (Player.atPosition t.username t.map x y).toRecord).2 := by
  have hplayers := Store.records_insert st playerCollection
    (Player.atPosition t.username t.map x y).toRecord
  refine
    { tags := by rw [Store.tags_insert]; exact List.prefix_append _ _
      others := (Store.own?_added hnone hplayers ?_).2
      proper := fun hproper r hr => ?_
      kept := fun _ r status hr => ?_ }
  · exact Fields.matches_player.2 ⟨rfl, rfl⟩
  · rw [hplayers] at hr
    rcases List.mem_append.1 hr with hr | hr
    · exact hproper r hr
    · rw [List.mem_singleton.1 hr]
      exact Fields.isProper_identified _ _
  · rw [hnone] at hr
    cases hr

/-- Saving a change of the player, who still plays or is reset. -/
theorem update (hst : st.Keyed) {r : Fields} (hr : st.own? t.key = some r) {id : Value}
    (hid : r.get? "_id" = some id) {status : Status} (hstatus : r.status? = .valid status)
    (hallowed : status = .alive ∨ s.Resets t.line) (c : Change) :
    s.Tends t st
      (st.update playerCollection (Query.identitySelector id) c.fields).2 := by
  refine
    { tags := Store.tags_update st _ c ▸ List.prefix_rfl
      others := (hst.update_own hr hid c).2
      proper := fun hproper r hr => ?_
      kept := fun hline r' status' hr' hstatus' halive => ?_ }
  · rcases Store.mem_records_update hr with hr | ⟨q, hq, rfl⟩
    · exact hproper r hr
    · exact (hproper q hq).update c
  · -- the status that is known is the one that is read
    obtain rfl : r = r' := Option.some.inj (hr.symm.trans hr')
    rw [hstatus] at hstatus'
    cases hstatus'
    exact absurd (hallowed.resolve_right hline) halive

end Tends

end Setting

namespace Turn.Phase

variable {s : Setting} {t : Turn} {ph : Turn.Phase} {q : Query}

/-- A query that may be asked, if it is done, keeps the collection sound and does what a turn
may do. -/
theorem Fits.done {st : Store} (h : ph.Fits t.key st) (hst : st.Keyed)
    (hq : ph.Allows t.key (s.Resets t.line) q) :
    (Store.answer q st).2.Keyed ∧ s.Tends t st (Store.answer q st).2 := by
  cases q with
  | findPlayer username map => exact ⟨hst, .refl s t st⟩
  | findRoom x y map => exact ⟨hst, .refl s t st⟩
  | insertPlayer record =>
    cases ph with
    | missing =>
      obtain ⟨x, y, rfl⟩ := hq
      exact ⟨hst.insert h, .insert h x y⟩
    | _ => exact hq.elim
  | updatePlayer id c =>
    cases ph with
    | playing id' status =>
      obtain ⟨rfl, hallowed⟩ := hq
      obtain ⟨r, hr, hid, hstatus⟩ := h
      exact ⟨hst.update _ c, .update hst hr hid hstatus hallowed c⟩
    | _ => exact hq.elim

/-- A look-up of the player leads to what the store holds, or fails. -/
theorem fits_findPlayer {u : Unreliable} (hst : u.memory.Keyed) (key : TurnKey) :
    (Phase.begun.next (.findPlayer key.username key.map)
      (Unreliable.backend.answer (.findPlayer key.username key.map) u).1).Fits key u.memory := by
  rcases u.answer_findPlayer key.username key.map with hanswer | ⟨e, hanswer⟩
  · rw [hanswer]
    cases hown : u.memory.own? key with
    | none =>
      have hfind : u.memory.find? playerCollection
        (Query.playerSelector key.username key.map) = none := hown
      simp only [next, hfind, Script.playerFound]
      exact hown
    | some r =>
      have hfind : u.memory.find? playerCollection
        (Query.playerSelector key.username key.map) = some r := hown
      simp only [next, hfind, Script.playerFound]
      cases hread : Player.read (.table r) with
      | invalid problems => trivial
      | valid p =>
        have hids := hst.lastingIds.toOwnIds
        exact ⟨r, hown, hids.get?_id hown hread, Fields.status?_of_read hread⟩
  · rw [hanswer]
    trivial

/-- An insertion leads to the record that was stored, or fails. -/
theorem fits_insertPlayer {u : Unreliable} {key : TurnKey} (hnone : u.memory.own? key = none)
    (x y : Int) :
    (Phase.missing.next (.insertPlayer (Player.atPosition key.username key.map x y).toRecord)
      (Unreliable.backend.answer
        (.insertPlayer (Player.atPosition key.username key.map x y).toRecord) u).1).Fits key
      (Unreliable.backend.answer
        (.insertPlayer (Player.atPosition key.username key.map x y).toRecord) u).2.memory := by
  cases hanswer : (Unreliable.backend.answer
    (.insertPlayer (Player.atPosition key.username key.map x y).toRecord) u).1 with
  | error e => trivial
  | ok stored =>
    simp only [next]
    split
    · trivial
    · trivial
    · next id _ hid =>
      obtain ⟨hmemory, rfl⟩ := Unreliable.answer_insertPlayer rfl (by simp [hid]) hanswer
      rw [hmemory]
      have hown := (Store.own?_added hnone (Store.records_insert u.memory playerCollection
        (Player.atPosition key.username key.map x y).toRecord)
        (Fields.matches_player.2 ⟨rfl, rfl⟩)).1
      exact ⟨_, hown, hid, rfl⟩

/-- A change of the player that is saved leaves the identity, and the status unless it is one. -/
theorem fits_updatePlayer {u : Unreliable} (hst : u.memory.Keyed) {key : TurnKey} {id : Value}
    {status : Status} (h : (Phase.playing id status).Fits key u.memory) (c : Change) :
    ((Phase.playing id status).next (.updatePlayer id c)
      (Unreliable.backend.answer (.updatePlayer id c) u).1).Fits key
      (Unreliable.backend.answer (.updatePlayer id c) u).2.memory := by
  cases hc : c.isStatus with
  | true => simp [next, hc, Fits]
  | false =>
    simp only [next, hc, Bool.false_eq_true, if_false]
    rcases u.memory_answer (.updatePlayer id c) with hmemory | hmemory
    · rwa [hmemory]
    · obtain ⟨r, hr, hid, hstatus⟩ := h
      rw [hmemory]
      rcases (hst.update_own hr hid c).1 with hown | hown
      · exact ⟨r, hown, hid, hstatus⟩
      · refine ⟨r.update c.fields, hown, ?_, ?_⟩
        · rw [Change.get?_update_of_not_saved (by decide), hid]
        · rw [Fields.status?_update hc, hstatus]

/-- What is known about the player is known after the query as well. -/
theorem Fits.next {u : Unreliable} (h : ph.Fits t.key u.memory) (hst : u.memory.Keyed)
    (hq : ph.Allows t.key (s.Resets t.line) q) :
    (ph.next q (Unreliable.backend.answer q u).1).Fits t.key
      (Unreliable.backend.answer q u).2.memory := by
  cases q with
  | findPlayer username map =>
    cases ph with
    | begun =>
      obtain ⟨rfl, rfl⟩ := hq
      have hmemory : (Unreliable.backend.answer (.findPlayer t.key.username t.key.map) u).2.memory =
          u.memory := by
        rcases u.memory_answer (.findPlayer t.key.username t.key.map) with e | e <;> exact e
      rw [hmemory]
      exact fits_findPlayer hst t.key
    | _ => exact hq.elim
  | findRoom x y map =>
    cases ph with
    | playing id status =>
      have hmemory : (Unreliable.backend.answer (.findRoom x y map) u).2.memory = u.memory := by
        rcases u.memory_answer (.findRoom x y map) with e | e <;> exact e
      rwa [hmemory]
    | _ => exact hq.elim
  | insertPlayer record =>
    cases ph with
    | missing =>
      obtain ⟨x, y, rfl⟩ := hq
      exact fits_insertPlayer h x y
    | _ => exact hq.elim
  | updatePlayer id c =>
    cases ph with
    | playing id' status =>
      obtain ⟨rfl, -⟩ := hq
      exact fits_updatePlayer hst h c
    | _ => exact hq.elim

/-- Over an unreliable store, a query that may be asked keeps the collection sound, does what a turn
may do, and leads to a phase that tells what the store holds. -/
theorem Fits.answer {u : Unreliable} (h : ph.Fits t.key u.memory) (hst : u.memory.Keyed)
    (hq : ph.Allows t.key (s.Resets t.line) q) :
    (Unreliable.backend.answer q u).2.memory.Keyed ∧
      (ph.next q (Unreliable.backend.answer q u).1).Fits t.key
        (Unreliable.backend.answer q u).2.memory ∧
      s.Tends t u.memory (Unreliable.backend.answer q u).2.memory := by
  obtain ⟨hkeyed, htends⟩ := h.done hst hq
  rcases Unreliable.memory_answer q u with hmemory | hmemory
  · refine ⟨by rwa [hmemory], h.next hst hq, ?_⟩
    rw [hmemory]
    exact .refl s t _
  · refine ⟨by rwa [hmemory], h.next hst hq, ?_⟩
    rwa [hmemory]

end Turn.Phase

end TextAdventure
