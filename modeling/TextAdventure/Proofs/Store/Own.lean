import TextAdventure.Game.Slots
import TextAdventure.Proofs.Store.Identity

/-!
# The own record of a player

The record of a player is the first one with the player's name and map. Changing or adding it leaves
the own records of all others alone. A store in which a player is alone answers the queries of that
player like a shared store does, except for identities: `Store.Mirrors` relates the two.
-/

namespace TextAdventure

/-- Records that are the same but for the identity. -/
def Fields.SameButId (r r' : Fields) : Prop :=
  ∀ key : Value, key ≠ .text "_id" → r'.lookup? key = r.lookup? key

namespace Fields

theorem lookup?_put_self (fields : Fields) (name : String) (value : Value) :
    (fields.put name value).lookup? (.text name) = some value :=
  get?_put_self fields name value

theorem lookup?_put (fields : Fields) (name : String) (value key : Value) :
    (fields.put name value).lookup? key =
      if key = .text name then some value else fields.lookup? key := by
  split
  · next h => rw [h, lookup?_put_self]
  · next h => exact lookup?_put_of_ne h fields value

namespace SameButId

variable {r r' : Fields} (h : r.SameButId r')
include h

theorem get? {name : String} (hname : name ≠ "_id") : r'.get? name = r.get? name :=
  h _ fun e => hname (Value.text.inj e)

theorem put (name : String) (value : Value) : (r.put name value).SameButId (r'.put name value) := by
  intro key hkey
  simp only [lookup?_put, h key hkey]

/-- A change keeps records the same. -/
theorem update (c : Change) : (r.update c.fields).SameButId (r'.update c.fields) := by
  cases c with
  | items inv => exact h.put "items" _
  | position x y => exact (h.put "x" (.int x)).put "y" _
  | status s => exact h.put "status" _

theorem matches_player {username map : String} :
    r'.matches (Query.playerSelector username map) =
      r.matches (Query.playerSelector username map) := by
  rw [Bool.eq_iff_iff, Fields.matches_player, Fields.matches_player, h.get? (by decide),
    h.get? (by decide)]

end SameButId

end Fields

namespace Checked

theorem map_seq {α β γ : Type} (g : β → γ) (f : Checked (α → β)) (x : Checked α) :
    g <$> (f <*> x) = ((g ∘ ·) <$> f) <*> x := by
  show (f.seq x).map g = (f.map _).seq x
  cases f <;> cases x <;> rfl

theorem map_map {α β γ : Type} (g : β → γ) (f : α → β) (x : Checked α) :
    g <$> (f <$> x) = (g ∘ f) <$> x := by
  show (x.map f).map g = x.map _
  cases x <;> rfl

theorem map_eq {α β : Type} (f : α → β) (x : Checked α) : x.map f = f <$> x := rfl

end Checked

/-- Records that are the same but for the identity are read as players that are so. -/
theorem Player.read_sameButId {r r' : Fields} (h : r.SameButId r') :
    Player.read (.table r') =
      (Player.read (.table r)).map fun p => { p with id := Schema.identity r' } := by
  have hrequired : ∀ {α : Type} (read : Value → Checked α) (name : String), name ≠ "_id" →
      Schema.required read name r' = Schema.required read name r := by
    intro α read name hname
    rw [Schema.required, Schema.required, h.get? hname]
  have hoptional : ∀ {α : Type} (read : Value → Checked α) (default : α) (name : String),
      name ≠ "_id" → Schema.optional read default name r' = Schema.optional read default name r := by
    intro α read default name hname
    rw [Schema.optional, Schema.optional, h.get? hname]
  have hobject : ∀ (f : Fields → Checked (Player × Option Room)) (r : Fields),
      Schema.object f (.table r) = f r := fun _ _ => rfl
  simp only [Player.read, Player.readWithRoom, hobject, Checked.map_eq, Checked.map_seq,
    Checked.map_map]
  rw [hrequired _ "username" (by decide), hoptional _ _ "map" (by decide),
    hoptional _ _ "x" (by decide), hoptional _ _ "y" (by decide),
    hoptional _ _ "status" (by decide), hoptional _ _ "items" (by decide),
    hoptional _ _ "room" (by decide)]
  rfl

/-- A record has one name and one map. -/
theorem Fields.matches_player_unique {r : Fields} {key other : TurnKey}
    (h : r.matches (Query.playerSelector key.username key.map) = true)
    (h' : r.matches (Query.playerSelector other.username other.map) = true) : key = other := by
  obtain ⟨husername, hmap⟩ := Fields.matches_player.1 h
  obtain ⟨husername', hmap'⟩ := Fields.matches_player.1 h'
  obtain ⟨u, m⟩ := key
  obtain ⟨u', m'⟩ := other
  simp_all

namespace Store

theorem identified_toRecord (p : Player) (n : Int) :
    identified p.toRecord n = p.toRecord.put "_id" (.int n) := rfl

theorem get?_identified (p : Player) (n : Int) :
    (identified p.toRecord n).get? "_id" = some (.int n) := by
  rw [identified_toRecord, Fields.get?_put_self]

/-- New records of a player are the same but for the identity. -/
theorem identified_sameButId (p : Player) (n m : Int) :
    (identified p.toRecord n).SameButId (identified p.toRecord m) := by
  intro key hkey
  simp only [identified_toRecord, Fields.lookup?_put_of_ne hkey]

/-- The own record of a player: the first one with the name and the map. -/
def own? (s : Store) (key : TurnKey) : Option Fields :=
  s.find? playerCollection (Query.playerSelector key.username key.map)

/-- A record of the collection of players that is nobody's own. -/
def Unowned (s : Store) (r : Fields) : Prop :=
  r ∈ s.records playerCollection ∧ ∀ key, s.own? key ≠ some r

/-- What a query of a player leaves alone. -/
structure Spares (key : TurnKey) (s s' : Store) : Prop where
  rooms : s'.records roomCollection = s.records roomCollection
  own : ∀ other ≠ key, s'.own? other = s.own? other
  unowned : ∀ r, s'.Unowned r ↔ s.Unowned r

theorem Spares.refl (key : TurnKey) (s : Store) : s.Spares key s where
  rooms := rfl
  own := fun _ _ => rfl
  unowned := fun _ => Iff.rfl

variable {s : Store} {key : TurnKey}

theorem own?_eq_some {r : Fields} (h : s.own? key = some r) :
    r.matches (Query.playerSelector key.username key.map) = true ∧
      ∃ pre post, s.records playerCollection = pre ++ r :: post ∧
        ∀ q ∈ pre, q.matches (Query.playerSelector key.username key.map) = false := by
  obtain ⟨hmatch, pre, post, hr, hpre⟩ := List.find?_eq_some_iff_append.1 h
  exact ⟨hmatch, pre, post, hr, fun q hq => by simpa using hpre q hq⟩

/-- A record that takes the place of the own record of a player, under the same names, is the own
record then, and nobody else's. -/
theorem own?_replaced {s' : Store} {pre post : List Fields} {r r' : Fields}
    (hmatch : r.matches (Query.playerSelector key.username key.map) = true)
    (hplayers : s.records playerCollection = pre ++ r :: post)
    (hpre : ∀ q ∈ pre, q.matches (Query.playerSelector key.username key.map) = false)
    (hplayers' : s'.records playerCollection = pre ++ r' :: post)
    (husername : r'.get? "username" = r.get? "username") (hmap : r'.get? "map" = r.get? "map") :
    s'.own? key = some r' ∧ ∀ other ≠ key, s'.own? other = s.own? other := by
  have hmatch' : r'.matches (Query.playerSelector key.username key.map) = true := by
    rw [Fields.matches_player, husername, hmap]
    exact Fields.matches_player.1 hmatch
  refine ⟨List.find?_eq_some_iff_append.2 ⟨hmatch', pre, post, hplayers', fun q hq => ?_⟩,
    fun other hother => ?_⟩
  · simpa using hpre q hq
  · have hno : r.matches (Query.playerSelector other.username other.map) = false :=
      Bool.eq_false_iff.2 fun h => hother (Fields.matches_player_unique h hmatch)
    have hno' : r'.matches (Query.playerSelector other.username other.map) = false :=
      Bool.eq_false_iff.2 fun h => hother (Fields.matches_player_unique h hmatch')
    simp only [own?, find?, hplayers, hplayers', List.find?_append, List.find?_cons, hno, hno']

/-- A record that is added for a player who has none is the own record then, and nobody else's. -/
theorem own?_added {s' : Store} {r' : Fields} (hnone : s.own? key = none)
    (hplayers' : s'.records playerCollection = s.records playerCollection ++ [r'])
    (hmatch : r'.matches (Query.playerSelector key.username key.map) = true) :
    s'.own? key = some r' ∧ ∀ other ≠ key, s'.own? other = s.own? other := by
  refine ⟨List.find?_eq_some_iff_append.2 ⟨hmatch, _, [], hplayers', fun q hq => ?_⟩,
    fun other hother => ?_⟩
  · simpa using List.find?_eq_none.1 hnone q hq
  · have hno : r'.matches (Query.playerSelector other.username other.map) = false :=
      Bool.eq_false_iff.2 fun h => hother (Fields.matches_player_unique h hmatch)
    simp only [own?, find?, hplayers', List.find?_append, List.find?_cons, hno, List.find?_nil,
      Option.or_none]

/-- If the own record of a player stands between others, a record that is nobody's own is one of
those, and no one else's. -/
theorem unowned_iff (hs : s.Identified) {pre post : List Fields} {r : Fields}
    (hplayers : s.records playerCollection = pre ++ r :: post) (hown : s.own? key = some r)
    (q : Fields) : s.Unowned q ↔ q ∈ pre ++ post ∧ ∀ other ≠ key, s.own? other ≠ some q := by
  have hdistinct := hs.distinct
  rw [hplayers] at hdistinct
  obtain ⟨-, hpost, hcross⟩ := List.pairwise_append.1 hdistinct
  refine ⟨fun ⟨hq, hno⟩ => ⟨?_, fun other _ => hno other⟩, fun ⟨hq, hno⟩ => ⟨?_, fun other => ?_⟩⟩
  · -- the own record is somebody's, so the record stands beside it
    rw [hplayers, List.mem_append, List.mem_cons] at hq
    rcases hq with hq | rfl | hq
    · exact List.mem_append_left post hq
    · exact absurd hown (hno key)
    · exact List.mem_append_right pre hq
  · rw [hplayers]
    simp only [List.mem_append, List.mem_cons] at hq ⊢
    exact hq.imp_right .inr
  · by_cases hother : other = key
    · subst hother
      rw [hown]
      -- no other record has the identity of the own one
      rintro hqr
      obtain rfl := Option.some.inj hqr
      rcases List.mem_append.1 hq with hq | hq
      · exact hcross r hq r List.mem_cons_self rfl
      · exact (List.pairwise_cons.1 hpost).1 r hq rfl
    · exact hno other hother

namespace Identified

variable (hs : s.Identified)
include hs

/-- A change of the own record of a player spares all others. -/
theorem update_spares {r : Fields} (hr : s.own? key = some r) {n : Int}
    (hn : r.get? "_id" = some (.int n)) (c : Change) :
    ∃ s', s.update playerCollection (Query.identitySelector (.int n)) c.fields = (true, s') ∧
      s'.Identified ∧ s.Spares key s' ∧ s'.own? key = some (r.update c.fields) := by
  obtain ⟨hmatch, pre, post, hplayers, hpre⟩ := own?_eq_some hr
  let s' := s.withRecords playerCollection (pre ++ r.update c.fields :: post)
  have hplayers' : s'.records playerCollection = pre ++ r.update c.fields :: post :=
    records_withRecords _ _ _
  have hname : ∀ name ∉ Change.savedNames, (r.update c.fields).get? name = r.get? name :=
    fun _ hname => Change.get?_update_of_not_saved hname c r
  have hs' : s'.Identified :=
    hs.replace hplayers hplayers' (hname "_id" (by decide)) rfl
  obtain ⟨hown', hother⟩ := own?_replaced hmatch hplayers hpre hplayers'
    (hname "username" (by decide)) (hname "map" (by decide))
  -- the changed record is nobody else's, as the record before, so the others have lost nothing
  refine ⟨s', hs.update_own hplayers hn c.fields, hs',
    ⟨records_withRecords_of_ne (by decide) _ _, hother, fun q => ?_⟩, hown'⟩
  rw [unowned_iff hs' hplayers' hown', unowned_iff hs hplayers hr]
  exact and_congr_right' (forall₂_congr fun other h => by rw [hother other h])

/-- Adding the record of a player who has none spares all others. -/
theorem insert_spares (hnone : s.own? key = none) {p : Player} (husername : p.username = key.username)
    (hmap : p.map = key.map) :
    (s.insert playerCollection p.toRecord).2.Identified ∧
      s.Spares key (s.insert playerCollection p.toRecord).2 ∧
      (s.insert playerCollection p.toRecord).2.own? key =
        some (identified p.toRecord s.nextId) := by
  have hplayers : (s.insert playerCollection p.toRecord).2.records playerCollection =
      s.records playerCollection ++ [identified p.toRecord s.nextId] := records_insert _ _ _
  have hnames : (identified p.toRecord s.nextId).get? "username" = some (.text p.username) ∧
      (identified p.toRecord s.nextId).get? "map" = some (.text p.map) := ⟨rfl, rfl⟩
  have hmatch : (identified p.toRecord s.nextId).matches
      (Query.playerSelector key.username key.map) = true := by
    rw [Fields.matches_player, hnames.1, hnames.2, husername, hmap]
    exact ⟨rfl, rfl⟩
  obtain ⟨hown, hother⟩ := own?_added hnone hplayers hmatch
  refine ⟨hs.insert rfl, ⟨records_insert_of_ne (by decide) _ _, hother, fun q => ?_⟩, hown⟩
  rw [unowned_iff (hs.insert rfl) hplayers hown, List.append_nil]
  refine and_congr_right' ⟨fun h other => ?_, fun h other hne => ?_⟩
  · by_cases hkey : other = key
    · rw [hkey, hnone]
      exact fun e => nomatch e
    · rw [← hother other hkey]
      exact h other hkey
  · rw [hother other hne]
    exact h other

end Identified

/-! ### Players alone -/

/-- A store in which a player is alone mirrors a shared one: the rooms are the same, and so is the own
record of the player but for the identities, which are given, or it is in neither. -/
inductive Mirrors (key : TurnKey) (s alone : Store) : Option (Int × Int) → Prop
  | missing (rooms : alone.records roomCollection = s.records roomCollection)
    (hs : s.own? key = none) (halone : alone.records playerCollection = []) :
    Mirrors key s alone none
  | own {r r' : Fields} {n m : Int}
    (rooms : alone.records roomCollection = s.records roomCollection)
    (hs : s.own? key = some r) (halone : alone.records playerCollection = [r'])
    (hsame : r.SameButId r') (hn : r.get? "_id" = some (.int n))
    (hm : r'.get? "_id" = some (.int m)) :
    Mirrors key s alone (some (n, m))

namespace Mirrors

variable {alone : Store} {ids : Option (Int × Int)}

theorem rooms_eq (h : s.Mirrors key alone ids) :
    alone.records roomCollection = s.records roomCollection := by
  cases h <;> assumption

/-- In its mirror the own record of a player is the only one. -/
theorem own?_alone {r r' : Fields} (hs : s.own? key = some r)
    (halone : alone.records playerCollection = [r']) (hsame : r.SameButId r') :
    alone.own? key = some r' := by
  have hmatch := hsame.matches_player.trans (own?_eq_some hs).1
  rw [own?, find?, halone, List.find?_cons, hmatch]

/-- What spares the own record of a player keeps the mirror of it. -/
theorem of_spares (h : s.Mirrors key alone ids) {other : TurnKey} {s' : Store}
    (hspares : s.Spares other s') (hne : key ≠ other) : s'.Mirrors key alone ids := by
  cases h with
  | missing rooms hs halone =>
    exact .missing (rooms.trans hspares.rooms.symm) ((hspares.own key hne).trans hs) halone
  | own rooms hs halone hsame hn hm =>
    exact .own (rooms.trans hspares.rooms.symm) ((hspares.own key hne).trans hs) halone hsame hn hm

/-- The store that holds the own record only is a mirror. -/
theorem exists_of_own (hs : s.Identified)
    (hrooms : alone.records roomCollection = s.records roomCollection)
    (hplayers : alone.records playerCollection = (s.own? key).toList) :
    ∃ ids, s.Mirrors key alone ids := by
  cases hown : s.own? key with
  | none => exact ⟨none, .missing hrooms hown (by rw [hplayers, hown]; rfl)⟩
  | some r =>
    obtain ⟨n, -, hn⟩ := hs.identity r (List.mem_of_find?_eq_some hown)
    exact ⟨some (n, n), .own hrooms hown (by rw [hplayers, hown]; rfl) (fun _ _ => rfl) hn hn⟩

/-- In the end the own records are the same but for identities. -/
theorem own?_rel (h : s.Mirrors key alone ids) :
    Option.Rel Fields.SameButId (s.own? key) (alone.own? key) := by
  cases h with
  | missing rooms hs halone =>
    rw [hs, own?, find?, halone]
    exact .none
  | own rooms hs halone hsame hn hm =>
    rw [hs, own?_alone hs halone hsame]
    exact .some hsame

end Mirrors

end Store

end TextAdventure
