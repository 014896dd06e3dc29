import TextAdventure.Proofs.Store.Own

/-!
# The collection of players

The tag of a record holds what no turn ever changes: the identity and the two names. In a sound
collection (`Store.Keyed`) the tags tell the players apart: no two records have equal identities or
belong to the same player, and the identities that are to be given are not in use. A collection
stays sound if nobody is inserted who is there already (`Store.Keyed.insert`) and whatever is saved
(`Store.Keyed.update`), and what is saved under the identity of a record reaches no other one
(`Store.Keyed.update_own`).
-/

namespace TextAdventure

namespace Fields

/-- What never changes about the record of a player. -/
structure Tag where
  id : Option Value
  username : Option Value
  map : Option Value

/-- The tag of a record. -/
def tag (r : Fields) : Tag := ⟨r.get? "_id", r.get? "username", r.get? "map"⟩

/-- The status that a record gives its player, as it is read. -/
def status? (r : Fields) : Checked Status :=
  Schema.optional (Schema.choice Status.words) .alive "status" r

/-- A record is one of a player, and lists the items in increasing order, each once. -/
def IsProper (r : Fields) : Prop :=
  ∃ p names, Player.read (.table r) = .valid p ∧ r.get? "items" = some (.ofTexts names) ∧
    names.Pairwise (· < ·)

namespace Tag

/-- The tag is one of a player. -/
def IsOf (l : Tag) (key : TurnKey) : Prop :=
  l.username = some (.text key.username) ∧ l.map = some (.text key.map)

/-- The identities are equal as selectors see them, in one order or the other. -/
def SharesId (l m : Tag) : Prop :=
  ∃ id id', l.id = some id ∧ m.id = some id' ∧ (id.equals id' = true ∨ id'.equals id = true)

theorem SharesId.symm {l m : Tag} (h : l.SharesId m) : m.SharesId l := by
  obtain ⟨id, id', hid, hid', hequals⟩ := h
  exact ⟨id', id, hid', hid, hequals.symm⟩

/-- Only the identities matter. -/
theorem sharesId_int {l m : Tag} {n : Int} (hm : m.id = some (.int n)) :
    l.SharesId m ↔ l.SharesId ⟨some (.int n), none, none⟩ := by
  simp only [SharesId, hm]

theorem sharesId_int_iff {l : Tag} {m n : Int} (hl : l.id = some (.int m)) :
    l.SharesId ⟨some (.int n), none, none⟩ ↔ m = n := by
  constructor
  · rintro ⟨id, id', hid, hid', hequals⟩
    obtain rfl := Option.some.inj (hl.symm.trans hid)
    obtain rfl := Option.some.inj hid'
    simp only [Value.equals_int_int, decide_eq_true_eq] at hequals
    omega
  · rintro rfl
    exact ⟨_, _, hl, rfl, .inl (by simp [Value.equals_int_int])⟩

end Tag

theorem matches_player_iff {r : Fields} {key : TurnKey} :
    r.matches (Query.playerSelector key.username key.map) = true ↔ r.tag.IsOf key :=
  matches_player

theorem matches_identity_iff {r : Fields} {id : Value} :
    r.matches (Query.identitySelector id) = true ↔
      ∃ id', r.get? "_id" = some id' ∧ id'.equals id = true := by
  simp only [Fields.matches, Query.identitySelector, List.all_cons, List.all_nil, Bool.and_true,
    lookup?_text]
  cases r.get? "_id" <;> simp

/-- A change that is saved leaves the tag alone. -/
@[simp] theorem tag_update (r : Fields) (c : Change) : (r.update c.fields).tag = r.tag := by
  simp only [tag, Change.get?_update_of_not_saved (show "_id" ∉ Change.savedNames by decide),
    Change.get?_update_of_not_saved (show "username" ∉ Change.savedNames by decide),
    Change.get?_update_of_not_saved (show "map" ∉ Change.savedNames by decide)]

/-- The tag of a record that is given an identity. -/
theorem tag_identified {r : Fields} (h : r.get? "_id" = none) (n : Int) :
    (Store.identified r n).tag = ⟨some (.int n), r.get? "username", r.get? "map"⟩ := by
  have hstored : Store.identified r n = r.put "_id" (.int n) := by
    simp [Store.identified, putNew, has, h]
  rw [hstored, tag, get?_put_self, get?_put_of_ne (by decide), get?_put_of_ne (by decide)]

theorem IsProper.update {r : Fields} (h : r.IsProper) (c : Change) :
    (r.update c.fields).IsProper := by
  obtain ⟨p, names, hread, hitems, hsorted⟩ := h
  cases c with
  | items inv =>
    exact ⟨_, inv.names, Player.read_update hread _, get?_put_self r "items" _, inv.sorted⟩
  | position x y =>
    refine ⟨_, names, Player.read_update hread _, ?_, hsorted⟩
    rw [Change.get?_update (by simp [Change.fieldNames]), hitems]
  | status st =>
    refine ⟨_, names, Player.read_update hread _, ?_, hsorted⟩
    rw [Change.get?_update (by simp [Change.fieldNames]), hitems]

theorem isProper_identified (p : Player) (n : Int) : (Store.identified p.toRecord n).IsProper :=
  ⟨_, p.items.names, Player.read_identified p n, rfl, p.items.sorted⟩

theorem status?_update {r : Fields} {c : Change} (h : c.isStatus = false) :
    (r.update c.fields).status? = r.status? := by
  rw [status?, status?, Schema.optional, Schema.optional, Change.get?_update]
  cases c <;> simp_all [Change.fieldNames, Change.isStatus]

theorem status?_of_read {r : Fields} {p : Player} (h : Player.read (.table r) = .valid p) :
    r.status? = .valid p.status := by
  obtain ⟨_, _, _, _, _, _, hstatus, _⟩ := Player.read_eq_valid.1 h
  exact hstatus

end Fields

/-- If no record fits, nothing is changed. -/
theorem updateFirst_eq_false {selector changes : Fields} {records : List Fields}
    (h : ∀ r ∈ records, r.matches selector = false) :
    updateFirst selector changes records = (records, false) := by
  induction records with
  | nil => rfl
  | cons r records ih =>
    have hr := h r List.mem_cons_self
    have hrest := ih fun r hr => h r (List.mem_cons_of_mem _ hr)
    simp [updateFirst, hr, hrest]

namespace Store

/-- The tags of the players, in the order of their records. -/
def tags (s : Store) : List Fields.Tag := (s.records playerCollection).map Fields.tag

/-- The players are told apart by identities and names, and so are those to come. -/
structure Keyed (s : Store) : Prop where
  identity : ∀ l ∈ s.tags, l.id ≠ none
  distinct : s.tags.Pairwise fun l m => ¬l.SharesId m
  single : s.tags.Pairwise fun l m => ∀ key, ¬(l.IsOf key ∧ m.IsOf key)
  fresh : ∀ l ∈ s.tags, ∀ n, s.nextId ≤ n → ¬l.SharesId ⟨some (.int n), none, none⟩

/-- Each player has an identity that no other one has. -/
structure OwnIds (s : Store) : Prop where
  identity : ∀ l ∈ s.tags, l.id ≠ none
  distinct : s.tags.Pairwise fun l m => ¬l.SharesId m

/-- No player has an identity that is still to be given either. -/
structure LastingIds (s : Store) : Prop extends OwnIds s where
  fresh : ∀ l ∈ s.tags, ∀ n, s.nextId ≤ n → ¬l.SharesId ⟨some (.int n), none, none⟩

variable {s : Store} {key : TurnKey}

theorem own?_eq_none : s.own? key = none ↔ ∀ l ∈ s.tags, ¬l.IsOf key := by
  simp [own?, find?, tags, ← Fields.matches_player_iff]

/-- Saving a change leaves the tags alone. -/
theorem tags_update (s : Store) (selector : Fields) (c : Change) :
    (s.update playerCollection selector c.fields).2.tags = s.tags := by
  have hkeep : ∀ records : List Fields,
      (updateFirst selector c.fields records).1.map Fields.tag = records.map Fields.tag := by
    intro records
    induction records with
    | nil => rfl
    | cons r records ih =>
      unfold updateFirst
      split
      · simp
      · simp [ih]
  unfold update
  dsimp only
  split
  · rw [tags, records_withRecords, hkeep, tags]
  · rfl

/-- A record after a change is one from before, changed or not. -/
theorem mem_records_update {s : Store} {selector : Fields} {c : Change} {r : Fields}
    (h : r ∈ (s.update playerCollection selector c.fields).2.records playerCollection) :
    r ∈ s.records playerCollection ∨ ∃ q ∈ s.records playerCollection, r = q.update c.fields := by
  unfold update at h
  dsimp only at h
  split at h
  · rw [records_withRecords] at h
    exact mem_updateFirst h
  · exact .inl h

theorem nextId_update (s : Store) (selector : Fields) (c : Change) :
    (s.update playerCollection selector c.fields).2.nextId = s.nextId := by
  unfold update
  dsimp only
  split <;> rfl

/-- The tag of a record that is inserted without an identity comes last. -/
theorem tags_insert_new (s : Store) {record : Fields} (h : record.get? "_id" = none) :
    (s.insert playerCollection record).2.tags =
      s.tags ++ [⟨some (.int s.nextId), record.get? "username", record.get? "map"⟩] := by
  rw [tags, records_insert, List.map_append, tags, List.map_singleton, Fields.tag_identified h]

/-- The tag of a new player comes last. -/
theorem tags_insert (s : Store) (p : Player) :
    (s.insert playerCollection p.toRecord).2.tags =
      s.tags ++ [⟨some (.int s.nextId), some (.text p.username), some (.text p.map)⟩] :=
  tags_insert_new s rfl

/-- Among players whose identities differ, what is saved under the identity of one of them reaches
that record, unless the identity equals nothing, and no other. -/
theorem update_eq_of_distinct (hdistinct : s.tags.Pairwise fun l m => ¬l.SharesId m)
    {pre post : List Fields} {r : Fields} (hplayers : s.records playerCollection = pre ++ r :: post)
    {id : Value} (hid : r.get? "_id" = some id) (changes : Fields) :
    s.update playerCollection (Query.identitySelector id) changes =
      if id.equals id then
        (true, s.withRecords playerCollection (pre ++ r.update changes :: post))
      else (false, s) := by
  rw [tags, hplayers, List.map_append, List.map_cons, List.pairwise_append] at hdistinct
  obtain ⟨-, hpost, hcross⟩ := hdistinct
  have hbefore : ∀ q ∈ pre, q.matches (Query.identitySelector id) = false := by
    refine fun q hq => Bool.eq_false_iff.2 fun hequals => ?_
    obtain ⟨id', hid', hequals⟩ := Fields.matches_identity_iff.1 hequals
    exact hcross q.tag (List.mem_map_of_mem hq) r.tag List.mem_cons_self
      ⟨id', id, hid', hid, .inl hequals⟩
  have hmatches : r.matches (Query.identitySelector id) = id.equals id := by
    rw [Bool.eq_iff_iff, Fields.matches_identity_iff]
    simp [hid]
  by_cases hself : id.equals id = true
  · rw [update, hplayers, updateFirst_append hbefore (hmatches.trans hself), if_pos hself]
    rfl
  · -- an identity that does not equal itself equals no other one either
    have hafter : ∀ q ∈ post, q.matches (Query.identitySelector id) = false := by
      refine fun q hq => Bool.eq_false_iff.2 fun hequals => ?_
      obtain ⟨id', hid', hequals⟩ := Fields.matches_identity_iff.1 hequals
      exact (List.pairwise_cons.1 hpost).1 q.tag (List.mem_map_of_mem hq)
        ⟨id, id', hid, hid', .inr hequals⟩
    have hnone : ∀ q ∈ s.records playerCollection,
        q.matches (Query.identitySelector id) = false := by
      rw [hplayers]
      intro q hq
      rcases List.mem_append.1 hq with hq | hq
      · exact hbefore q hq
      · rcases List.mem_cons.1 hq with rfl | hq
        · exact hmatches.trans (Bool.eq_false_iff.2 hself)
        · exact hafter q hq
    rw [update, updateFirst_eq_false hnone, if_neg hself]
    rfl

namespace OwnIds

theorem of_tags (h : s.OwnIds) {s' : Store} (htags : s'.tags = s.tags) : s'.OwnIds := by
  refine ⟨?_, ?_⟩
  · rw [htags]
    exact h.identity
  · rw [htags]
    exact h.distinct

/-- Saving a change, whosever it is, leaves the identities alone. -/
theorem update (h : s.OwnIds) (selector : Fields) (c : Change) :
    (s.update playerCollection selector c.fields).2.OwnIds :=
  h.of_tags (tags_update s selector c)

/-- A record that is inserted without an identity gets one of its own, unless the number that comes
next is in use. -/
theorem insert (h : s.OwnIds) {record : Fields} (hnone : record.get? "_id" = none)
    (hfresh : ∀ l ∈ s.tags, ¬l.SharesId ⟨some (.int s.nextId), none, none⟩) :
    (s.insert playerCollection record).2.OwnIds := by
  have htags := tags_insert_new s hnone
  generalize hnew : (⟨some (.int s.nextId), record.get? "username", record.get? "map"⟩ :
    Fields.Tag) = new at htags
  have hid : new.id = some (.int s.nextId) := hnew ▸ rfl
  refine ⟨?_, ?_⟩
  · rw [htags]
    intro l hl
    rcases List.mem_append.1 hl with hl | hl
    · exact h.identity l hl
    · rw [List.mem_singleton.1 hl, hid]
      exact nofun
  · rw [htags]
    refine List.pairwise_append.2 ⟨h.distinct, List.pairwise_singleton _ _, fun l hl m hm => ?_⟩
    rw [List.mem_singleton.1 hm, Fields.Tag.sharesId_int hid]
    exact hfresh l hl

/-- A change that is saved under the identity of the own record of a player reaches no other record;
it reaches the own one unless the identity equals nothing. -/
theorem update_own (h : s.OwnIds) {r : Fields} (hr : s.own? key = some r) {id : Value}
    (hid : r.get? "_id" = some id) (c : Change) :
    let u := s.update playerCollection (Query.identitySelector id) c.fields
    u.1 = id.equals id ∧ u.2.own? key = some (if id.equals id then r.update c.fields else r) ∧
      ∀ other ≠ key, u.2.own? other = s.own? other := by
  intro u
  obtain ⟨hmatch, pre, post, hplayers, hpre⟩ := own?_eq_some hr
  have hupdate : u = _ := update_eq_of_distinct h.distinct hplayers hid c.fields
  by_cases hself : id.equals id = true
  · rw [if_pos hself] at hupdate
    have hplayers' : u.2.records playerCollection = pre ++ r.update c.fields :: post := by
      rw [hupdate, records_withRecords]
    obtain ⟨hown, hothers⟩ := own?_replaced hmatch hplayers hpre hplayers'
      (Change.get?_update_of_not_saved (by decide) c r)
      (Change.get?_update_of_not_saved (by decide) c r)
    exact ⟨by rw [hupdate, hself], by rw [hown, if_pos hself], hothers⟩
  · rw [if_neg hself] at hupdate
    rw [hupdate, if_neg hself]
    exact ⟨(Bool.eq_false_iff.2 hself).symm, hr, fun _ _ => rfl⟩

/-- A player is read with the identity of the own record. -/
theorem get?_id (h : s.OwnIds) {r : Fields} (hr : s.own? key = some r) {p : Player}
    (hread : Player.read (.table r) = .valid p) : r.get? "_id" = some p.id := by
  have htag : r.tag ∈ s.tags := List.mem_map_of_mem (List.mem_of_find?_eq_some hr)
  obtain ⟨id, hid⟩ := Option.ne_none_iff_exists'.1 (h.identity r.tag htag)
  have hget : r.get? "_id" = some id := hid
  obtain ⟨_, _, _, _, _, _, _, _, _, hpid, _⟩ := Player.read_eq_valid.1 hread
  rw [hpid, Schema.identity, hget]
  rfl

/-- The record that is inserted for a player who has none is the own record then. -/
theorem insert_own (h : s.OwnIds) (hnone : s.own? key = none)
    (hfresh : ∀ l ∈ s.tags, ¬l.SharesId ⟨some (.int s.nextId), none, none⟩) {p : Player}
    (husername : p.username = key.username) (hmap : p.map = key.map) :
    (s.insert playerCollection p.toRecord).2.OwnIds ∧
      (s.insert playerCollection p.toRecord).2.own? key = some (identified p.toRecord s.nextId) := by
  have hmatch : (identified p.toRecord s.nextId).matches
      (Query.playerSelector key.username key.map) = true := by
    rw [Fields.matches_player, ← husername, ← hmap]
    exact ⟨rfl, rfl⟩
  exact ⟨h.insert rfl hfresh, (own?_added hnone (records_insert _ _ _) hmatch).1⟩

end OwnIds

theorem LastingIds.of_tags (h : s.LastingIds) {s' : Store} (htags : s'.tags = s.tags)
    (hnext : s.nextId ≤ s'.nextId) : s'.LastingIds := by
  refine ⟨h.toOwnIds.of_tags htags, ?_⟩
  rw [htags]
  exact fun l hl n hn => h.fresh l hl n (Int.le_trans hnext hn)

/-- A record that is inserted without an identity gets one of its own, and so will the next. -/
theorem LastingIds.insert (h : s.LastingIds) (collection : String) {record : Fields}
    (hnone : record.get? "_id" = none) : (s.insert collection record).2.LastingIds := by
  have hnext : (s.insert collection record).2.nextId = s.nextId + 1 := rfl
  by_cases hcollection : playerCollection = collection
  · subst hcollection
    refine ⟨h.toOwnIds.insert hnone fun l hl => h.fresh l hl s.nextId (Int.le_refl _), ?_⟩
    rw [tags_insert_new s hnone, hnext]
    intro l hl n hn
    rcases List.mem_append.1 hl with hl | hl
    · exact h.fresh l hl n (by omega)
    · rw [List.mem_singleton.1 hl, Fields.Tag.sharesId_int_iff rfl]
      omega
  · have htags : (s.insert collection record).2.tags = s.tags := by
      rw [tags, records_insert_of_ne hcollection, tags]
    exact h.of_tags htags (by omega)

namespace Keyed

theorem lastingIds (h : s.Keyed) : s.LastingIds := ⟨⟨h.identity, h.distinct⟩, h.fresh⟩

theorem of_tags (h : s.Keyed) {s' : Store} (htags : s'.tags = s.tags)
    (hnext : s'.nextId = s.nextId) : s'.Keyed := by
  have hids := h.lastingIds.of_tags htags (Int.le_of_eq hnext.symm)
  refine ⟨hids.identity, hids.distinct, ?_, hids.fresh⟩
  rw [htags]
  exact h.single

/-- Saving a change, whosever it is, keeps the players apart. -/
theorem update (h : s.Keyed) (selector : Fields) (c : Change) :
    (s.update playerCollection selector c.fields).2.Keyed :=
  h.of_tags (tags_update s selector c) (nextId_update s selector c)

/-- A player who had no record is told apart from all others. -/
theorem insert (h : s.Keyed) {p : Player} (hnone : s.own? ⟨p.username, p.map⟩ = none) :
    (s.insert playerCollection p.toRecord).2.Keyed := by
  have hnew : p.toRecord.get? "_id" = none := rfl
  have hids := h.lastingIds.insert playerCollection hnew
  refine ⟨hids.identity, hids.distinct, ?_, hids.fresh⟩
  rw [tags_insert]
  refine List.pairwise_append.2
    ⟨h.single, List.pairwise_singleton _ _, fun l hl m hm other hboth => ?_⟩
  obtain ⟨hof, husername, hmap⟩ := hboth
  rw [List.mem_singleton.1 hm] at husername hmap
  obtain rfl : other = ⟨p.username, p.map⟩ := by
    obtain ⟨u, m⟩ := other
    simp_all
  exact own?_eq_none.1 hnone l hl hof

/-- A change that is saved under the identity of the own record of a player reaches no other record;
it reaches the own one unless the identity equals nothing. -/
theorem update_own (h : s.Keyed) {r : Fields} (hr : s.own? key = some r) {id : Value}
    (hid : r.get? "_id" = some id) (c : Change) :
    let s' := (s.update playerCollection (Query.identitySelector id) c.fields).2
    (s'.own? key = some r ∨ s'.own? key = some (r.update c.fields)) ∧
      ∀ other ≠ key, s'.own? other = s.own? other := by
  intro s'
  obtain ⟨-, hown, hothers⟩ := h.lastingIds.toOwnIds.update_own hr hid c
  refine ⟨?_, hothers⟩
  by_cases hself : id.equals id = true
  · exact .inr (by rwa [if_pos hself] at hown)
  · exact .inl (by rwa [if_neg hself] at hown)

end Keyed

end Store

end TextAdventure
