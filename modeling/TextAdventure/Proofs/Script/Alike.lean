import TextAdventure.Proofs.Script.History
import TextAdventure.Proofs.Store.Own

/-!
# Scripts that ask alike

Two scripts of one player are alike (`Script.Alike`) if they ask for the same things, up to the
identities that the player has in the stores they ask: one in a store that is shared with others,
the other in a store where the player is alone. A query is answered alike by a store and its mirror,
the scripts go on alike, and the store remains mirrored (`Script.Alike.answer`).
-/

namespace TextAdventure

namespace Script

variable {α β : Type} {key : TurnKey} {ids : Option (Int × Int)}

/-- Two scripts of a player ask alike. The identities are those of the player's own records, if there
are any; a result may be related to another by means of them. -/
inductive Alike (key : TurnKey) (R : Option (Int × Int) → α → α → Prop) :
    Option (Int × Int) → Script α → Script α → Prop
  | done {ids : Option (Int × Int)} {a a' : α} (h : R ids a a') : Alike key R ids (.done a) (.done a')
  | note {ids : Option (Int × Int)} (ns ns' : List Note) {x x' : Script α}
    (h : Alike key R ids x x') : Alike key R ids (.note ns x) (.note ns' x')
  | findRoom {ids : Option (Int × Int)} {x y : Int} {map : String}
    {k k' : Except StorageError (Option Fields) → Script α}
    (h : ∀ answer, Alike key R ids (k answer) (k' answer)) :
    Alike key R ids (.ask (.findRoom x y map) k) (.ask (.findRoom x y map) k')
  | update {n m : Int} {c : Change} {k k' : Except StorageError Bool → Script α}
    (h : ∀ answer, Alike key R (some (n, m)) (k answer) (k' answer)) :
    Alike key R (some (n, m)) (.ask (.updatePlayer (.int n) c) k) (.ask (.updatePlayer (.int m) c) k')
  | found {n m : Int} {k k' : Except StorageError (Option Fields) → Script α}
    (h : ∀ r r' : Fields, r.SameButId r' → r.get? "_id" = some (.int n) →
      r'.get? "_id" = some (.int m) →
      Alike key R (some (n, m)) (k (.ok (some r))) (k' (.ok (some r')))) :
    Alike key R (some (n, m)) (.ask (.findPlayer key.username key.map) k)
      (.ask (.findPlayer key.username key.map) k')
  | missing {k k' : Except StorageError (Option Fields) → Script α}
    (h : Alike key R none (k (.ok none)) (k' (.ok none))) :
    Alike key R none (.ask (.findPlayer key.username key.map) k)
      (.ask (.findPlayer key.username key.map) k')
  | insert {p : Player} {k k' : Except StorageError Fields → Script α}
    (husername : p.username = key.username) (hmap : p.map = key.map)
    (h : ∀ n m : Int, Alike key R (some (n, m)) (k (.ok (Store.identified p.toRecord n)))
      (k' (.ok (Store.identified p.toRecord m)))) :
    Alike key R none (.ask (.insertPlayer p.toRecord) k) (.ask (.insertPlayer p.toRecord) k')

namespace Alike

variable {R : Option (Int × Int) → α → α → Prop} {R' : Option (Int × Int) → β → β → Prop}

theorem bind {x x' : Script α} {f f' : α → Script β} (h : Alike key R ids x x')
    (hf : ∀ ids a a', R ids a a' → Alike key R' ids (f a) (f' a')) :
    Alike key R' ids (x.bind f) (x'.bind f') := by
  induction h with
  | done h => exact hf _ _ _ h
  | note ns ns' _ ih => exact .note ns ns' ih
  | findRoom _ ih => exact .findRoom ih
  | update _ ih => exact .update ih
  | found _ ih => exact .found ih
  | missing _ ih => exact .missing ih
  | insert husername hmap _ ih => exact .insert husername hmap ih

theorem advance {x x' : Script α} (h : Alike key R ids x x') :
    Alike key R ids x.advance.2 x'.advance.2 := by
  induction h with
  | done h => exact .done h
  | note ns ns' _ ih => exact ih
  | findRoom h => exact .findRoom h
  | update h => exact .update h
  | found h => exact .found h
  | missing h => exact .missing h
  | insert husername hmap h => exact .insert husername hmap h

/-- A script that is like one that asks, asks too. Both are answered alike by a store and its mirror,
and go on alike; nothing of other players is touched. -/
theorem answer {q : Query} {k : q.Answer → Script α} {x' : Script α}
    (h : Alike key R ids (.ask q k) x') {s alone : Store} (hs : s.Identified)
    (hmirror : s.Mirrors key alone ids) :
    ∃ (q' : Query) (k' : q'.Answer → Script α) (ids' : Option (Int × Int)), x' = .ask q' k' ∧
      Alike key R ids' (k (Store.answer q s).1) (k' (Store.answer q' alone).1) ∧
      (Store.answer q s).2.Mirrors key (Store.answer q' alone).2 ids' ∧
      (Store.answer q s).2.Identified ∧ s.Spares key (Store.answer q s).2 := by
  cases h with
  | @findRoom _ x y map k k' h =>
    have hfind : alone.find? roomCollection (Query.roomSelector x y map) =
        s.find? roomCollection (Query.roomSelector x y map) := Store.find?_congr hmirror.rooms_eq _
    refine ⟨.findRoom x y map, k', ids, rfl, ?_, hmirror, hs, .refl key s⟩
    simp only [Store.answer, hfind]
    exact h _
  | @update n m c k k' h =>
    cases hmirror with
    | @own r r' _ _ rooms hown halone hsame hn hm =>
      obtain ⟨s', hupdate, hs', hspares, hown'⟩ := hs.update_spares hown hn c
      have hmatch : r'.matches (Query.identitySelector (.int m)) = true := by
        simp [Fields.matches_identity hm]
      have halone' : alone.update playerCollection (Query.identitySelector (.int m)) c.fields =
          (true, alone.withRecords playerCollection [r'.update c.fields]) := by
        rw [Store.update, halone]
        simp [updateFirst, hmatch]
      have hid : ∀ r : Fields, (r.update c.fields).get? "_id" = r.get? "_id" :=
        Change.get?_update_of_not_saved (by decide) c
      refine ⟨.updatePlayer (.int m) c, k', some (n, m), rfl, ?_⟩
      simp only [Store.answer, hupdate, halone']
      refine ⟨h _, .own ?_ hown' (Store.records_withRecords _ _ _) (hsame.update c)
        ((hid r).trans hn) ((hid r').trans hm), hs', hspares⟩
      rw [Store.records_withRecords_of_ne (by decide), rooms, hspares.rooms]
  | @found n m k k' h =>
    refine ⟨.findPlayer key.username key.map, k', some (n, m), rfl, ?_, hmirror, hs, .refl key s⟩
    cases hmirror with
    | @own r r' _ _ rooms hown halone hsame hn hm =>
      have hown' := Store.Mirrors.own?_alone hown halone hsame
      rw [Store.own?] at hown hown'
      simp only [Store.answer, hown, hown']
      exact h r r' hsame hn hm
  | @missing k k' h =>
    refine ⟨.findPlayer key.username key.map, k', none, rfl, ?_, hmirror, hs, .refl key s⟩
    cases hmirror with
    | missing rooms hown halone =>
      have hown' : alone.own? key = none := by
        rw [Store.own?, Store.find?, halone, List.find?_nil]
      rw [Store.own?] at hown hown'
      simp only [Store.answer, hown, hown']
      exact h
  | @insert p k k' husername hmap h =>
    cases hmirror with
    | missing rooms hown halone =>
      obtain ⟨hs', hspares, hown'⟩ := hs.insert_spares hown husername hmap
      refine ⟨.insertPlayer p.toRecord, k', some (s.nextId, alone.nextId), rfl, h _ _,
        .own ?_ hown' ?_ (Store.identified_sameButId p _ _) (Store.get?_identified p _)
          (Store.get?_identified p _), hs', hspares⟩
      · have hrooms : (alone.insert playerCollection p.toRecord).2.records roomCollection =
            alone.records roomCollection := Store.records_insert_of_ne (by decide) _ _
        exact hrooms.trans (rooms.trans hspares.rooms.symm)
      · have hplayers := Store.records_insert alone playerCollection p.toRecord
        rw [halone] at hplayers
        exact hplayers

end Alike

end Script

end TextAdventure
