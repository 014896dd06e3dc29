import TextAdventure.Store.Memory

/-!
# Records of players

What reading a player depends on, and what saving a change does to the record: reading the record
afterwards gives the player with the change made (`Player.read_update`), and fields that are not
changed stay as they are (`Change.lookup?_update`). Of several changes made one after another, every
field keeps the last (`Change.makeAll_changedBy`). The record that a new player is stored as reads
as that player with the identity given by the store (`Player.read_identified`).
-/

namespace TextAdventure

namespace Fields

/-- Putting a value under a name leaves all other keys alone. -/
theorem lookup?_put_of_ne {key : Value} {name : String} (h : key ≠ .text name) (fields : Fields)
    (value : Value) : (fields.put name value).lookup? key = fields.lookup? key := by
  have hkey : key.agrees (.text name) = false := by
    cases key <;> simp_all [Value.agrees, Value.isOneWith, Value.equals]
  induction fields with
  | nil => simp [put, insert, lookup?, hkey]
  | cons e fields ih =>
    obtain ⟨k, v⟩ := e
    simp only [put, insert]
    split
    · next hk =>
      rw [Value.agrees_text_left] at hk
      simp [lookup?, hk, hkey]
    · rw [← put]
      simp only [lookup?, List.find?_cons] at ih ⊢
      split
      · rfl
      · exact ih

theorem lookup?_text (fields : Fields) (name : String) :
    fields.lookup? (.text name) = fields.get? name := rfl

end Fields

/-! ### Changes of a player -/

namespace Change

/-- A player with a change made. -/
def applyTo (p : Player) : Change → Player
  | .items inv => { p with items := inv }
  | .position x y => { p with x, y }
  | .status s => { p with status := s }

/-- Whether a change is one of the status. -/
def isStatus : Change → Bool
  | .status _ => true
  | _ => false

@[simp] theorem applyTo_id (p : Player) (c : Change) : (c.applyTo p).id = p.id := by
  cases c <;> rfl

@[simp] theorem foldl_applyTo_id (cs : List Change) (p : Player) :
    (cs.foldl applyTo p).id = p.id := by
  induction cs generalizing p with
  | nil => rfl
  | cons c cs ih => rw [List.foldl_cons, ih, applyTo_id]

/-- Changes of other things leave the status as it is. -/
theorem foldl_applyTo_status {cs : List Change} (h : ∀ c ∈ cs, c.isStatus = false) (p : Player) :
    (cs.foldl applyTo p).status = p.status := by
  induction cs generalizing p with
  | nil => rfl
  | cons c cs ih =>
    rw [List.foldl_cons, ih fun c hc => h c (List.mem_cons_of_mem _ hc)]
    have := h c List.mem_cons_self
    cases c <;> first | rfl | simp [isStatus] at this

/-- A change sets the fields that it names, and no others. -/
theorem lookup?_update {c : Change} {key : Value} (h : ∀ name ∈ c.fieldNames, key ≠ .text name)
    (r : Fields) : (r.update c.fields).lookup? key = r.lookup? key := by
  cases c with
  | items inv => exact Fields.lookup?_put_of_ne (h _ (by simp [fieldNames])) r _
  | position x y =>
    exact (Fields.lookup?_put_of_ne (h _ (by simp [fieldNames])) _ _).trans
      (Fields.lookup?_put_of_ne (h _ (by simp [fieldNames])) r _)
  | status s => exact Fields.lookup?_put_of_ne (h _ (by simp [fieldNames])) r _

theorem get?_update {c : Change} {name : String} (h : name ∉ c.fieldNames) (r : Fields) :
    (r.update c.fields).get? name = r.get? name :=
  lookup?_update (fun _ hother e => h (by rwa [Value.text.inj e])) r

/-- A record with changes made one after another. -/
def makeAll (cs : List Change) (r : Fields) : Fields := cs.foldl (fun r c => r.update c.fields) r

@[simp] theorem makeAll_cons (c : Change) (cs : List Change) (r : Fields) :
    makeAll (c :: cs) r = makeAll cs (r.update c.fields) := rfl

/-- The fields that are saved after a player was created. -/
def savedNames : List String := ["x", "y", "status", "items"]

theorem mem_savedNames {c : Change} {name : String} (h : name ∈ c.fieldNames) :
    name ∈ savedNames := by
  cases c with
  | items inv =>
    rw [List.mem_singleton.1 h]
    decide
  | position x y =>
    simp only [fieldNames, List.mem_cons, List.not_mem_nil, or_false] at h
    rcases h with rfl | rfl <;> decide
  | status s =>
    rw [List.mem_singleton.1 h]
    decide

/-- A field that is never saved again stays as it is when a change is saved. -/
theorem get?_update_of_not_saved {name : String} (h : name ∉ savedNames) (c : Change) (r : Fields) :
    (r.update c.fields).get? name = r.get? name :=
  get?_update (fun hname => h (mem_savedNames hname)) r

/-- A field that no change sets stays as it is. -/
theorem lookup?_makeAll_of_not_set {changes : List Change} {key : Value}
    (h : ∀ c ∈ changes, ∀ name ∈ c.fieldNames, key ≠ .text name) (r : Fields) :
    (makeAll changes r).lookup? key = r.lookup? key := by
  induction changes generalizing r with
  | nil => rfl
  | cons c changes ih =>
    rw [makeAll_cons, ih fun d hd => h d (List.mem_cons_of_mem _ hd),
      lookup?_update (h c List.mem_cons_self)]

/-- Fields that are never saved again stay as they are. -/
theorem lookup?_makeAll {key : Value} (h : ∀ name ∈ savedNames, key ≠ .text name)
    (cs : List Change) (r : Fields) : (makeAll cs r).lookup? key = r.lookup? key :=
  lookup?_makeAll_of_not_set (fun _ _ name hname => h name (mem_savedNames hname)) r

theorem get?_makeAll {name : String} (h : name ∉ savedNames) (cs : List Change) (r : Fields) :
    (makeAll cs r).get? name = r.get? name :=
  lookup?_makeAll (fun _ hother e => h (by rwa [Value.text.inj e])) cs r

/-- A field that a change sets is as the change has set it. -/
theorem get?_update_self {c : Change} {name : String} (h : name ∈ c.fieldNames)
    (r : Fields) : (r.update c.fields).get? name = c.fields.get? name := by
  cases c with
  | items inv =>
    obtain rfl := List.mem_singleton.1 h
    exact Fields.get?_put_self r "items" _
  | position x y =>
    simp only [fieldNames, List.mem_cons, List.not_mem_nil, or_false] at h
    rcases h with rfl | rfl
    · exact (Fields.get?_put_of_ne (by decide) _ _).trans (Fields.get?_put_self r "x" _)
    · exact Fields.get?_put_self (r.put "x" (.int x)) "y" _
  | status st =>
    obtain rfl := List.mem_singleton.1 h
    exact Fields.get?_put_self r "status" _

end Change

/-- A record is different from what it was only in what some changes have set, and there it is as the
last of them has set it. -/
structure Fields.ChangedBy (changes : List Change) (r r' : Fields) : Prop where
  only : ∀ key : Value, (∀ c ∈ changes, ∀ name ∈ c.fieldNames, key ≠ .text name) →
    r'.lookup? key = r.lookup? key
  last : ∀ pre c post, changes = pre ++ c :: post → ∀ name ∈ c.fieldNames,
    (∀ d ∈ post, name ∉ d.fieldNames) → r'.get? name = c.fields.get? name

/-- Changes that are made one after another change a record accordingly. -/
theorem Change.makeAll_changedBy (changes : List Change) (r : Fields) :
    r.ChangedBy changes (makeAll changes r) where
  only := fun _ h => lookup?_makeAll_of_not_set h r
  last := by
    rintro pre c post rfl name hname hpost
    have hkey : ∀ d ∈ post, ∀ other ∈ d.fieldNames, Value.text name ≠ .text other :=
      fun d hd other hother e => hpost d hd (Value.text.inj e ▸ hother)
    rw [makeAll, List.foldl_append, List.foldl_cons]
    exact (lookup?_makeAll_of_not_set hkey _).trans (get?_update_self hname _)

/-! ### Reading -/

theorem Inventory.mem_ofList {items : List String} {item : String} :
    item ∈ ofList items ↔ item ∈ items := by
  have hfold : ∀ (items : List String) (inv : Inventory),
      item ∈ items.foldl insert inv ↔ item ∈ items ∨ item ∈ inv := by
    intro items
    induction items with
    | nil => simp
    | cons i items ih =>
      intro inv
      rw [List.foldl_cons, ih, mem_insert, List.mem_cons, or_left_comm, or_assoc]
  exact (hfold items empty).trans (by simp)

/-- An inventory is that of its names. -/
@[simp] theorem Inventory.ofList_names (inv : Inventory) : ofList inv.names = inv :=
  ext_mem fun _ => mem_ofList

/-- Texts are read as they are written. -/
theorem Schema.set_ofTexts (names : List String) :
    set text (.ofTexts names) = .valid names := by
  have hall : ∀ (names : List String) (i : Nat),
      Checked.all (fun i _ => Step.index i) text i (names.map .text) = .valid names := by
    intro names
    induction names with
    | nil => intro i; rfl
    | cons name names ih =>
      intro i
      rw [List.map_cons, Checked.all, ih]
      rfl
  exact hall names 0

theorem Checked.seq_eq_valid {α β : Type} {f : Checked (α → β)} {x : Checked α} {b : β} :
    f <*> x = .valid b ↔ ∃ g a, f = .valid g ∧ x = .valid a ∧ g a = b := by
  show f.seq x = .valid b ↔ _
  cases f <;> cases x <;> simp [Checked.seq]

theorem Checked.map_eq_valid {α β : Type} {f : α → β} {x : Checked α} {b : β} :
    f <$> x = .valid b ↔ ∃ a, x = .valid a ∧ f a = b := by
  show x.map f = .valid b ↔ _
  cases x <;> simp [Checked.map]

namespace Player

/-- What the reading of a player brings, field by field. -/
theorem read_eq_valid {r : Fields} {p : Player} :
    read (.table r) = .valid p ↔
      ∃ items room, Schema.required Schema.text "username" r = .valid p.username ∧
        Schema.optional Schema.text defaultMap "map" r = .valid p.map ∧
        Schema.optional Schema.whole 0 "x" r = .valid p.x ∧
        Schema.optional Schema.whole 0 "y" r = .valid p.y ∧
        Schema.optional (Schema.choice Status.words) .alive "status" r = .valid p.status ∧
        Schema.optional (Schema.set Schema.text) [] "items" r = .valid items ∧
        Schema.optional (Schema.nullable Room.read) none "room" r = .valid room ∧
        p.id = Schema.identity r ∧ p.items = .ofList items := by
  have hread : read (.table r) = (readWithRoom (.table r)).map (·.1) := rfl
  have hmap : ∀ x : Checked (Player × Option Room), x.map (·.1) = .valid p ↔
      ∃ room, x = .valid (p, room) := by
    intro x
    cases x <;> simp [Checked.map, Prod.ext_iff, eq_comm]
  rw [hread, hmap]
  have hobject : ∀ f : Fields → Checked (Player × Option Room), Schema.object f (.table r) = f r :=
    fun _ => rfl
  simp only [readWithRoom, hobject, Checked.seq_eq_valid, Checked.map_eq_valid]
  constructor
  · rintro ⟨_, _, _, ⟨_, _, ⟨_, _, ⟨_, _, ⟨_, _, ⟨_, _, ⟨_, hu, rfl⟩, hm, rfl⟩, hx, rfl⟩, hy, rfl⟩,
      hs, rfl⟩, hi, rfl⟩, hroom, hp⟩
    obtain ⟨rfl, rfl⟩ := Prod.ext_iff.1 hp
    exact ⟨_, _, hu, hm, hx, hy, hs, hi, hroom, rfl, rfl⟩
  · rintro ⟨items, room, hu, hm, hx, hy, hs, hi, hroom, hid, hitems⟩
    refine ⟨room, _, _, ⟨_, _, ⟨_, _, ⟨_, _, ⟨_, _, ⟨_, _, ⟨_, hu, rfl⟩, hm, rfl⟩, hx, rfl⟩, hy, rfl⟩,
      hs, rfl⟩, hi, rfl⟩, hroom, ?_⟩
    rw [← hid, ← hitems]

/-- Fields that a change does not set are read as before. -/
theorem optional_update {α : Type} {read : Value → Checked α} {default a : α} {name : String}
    {c : Change} {r : Fields} (hname : name ∉ c.fieldNames)
    (h : Schema.optional read default name r = .valid a) :
    Schema.optional read default name (r.update c.fields) = .valid a := by
  rwa [Schema.optional, Change.get?_update hname]

theorem optional_of_get? {α : Type} {read : Value → Checked α} {default a : α} {name : String}
    {v : Value} {r : Fields} (h : r.get? name = some v) (hv : read v = .valid a) :
    Schema.optional read default name r = .valid a := by
  simp [Schema.optional, h, hv, Checked.under]

/-- Reading a record after a change gives the player with the change made. -/
theorem read_update {r : Fields} {p : Player} (h : read (.table r) = .valid p) (c : Change) :
    read (.table (r.update c.fields)) = .valid (c.applyTo p) := by
  obtain ⟨items, room, husername, hmap, hx, hy, hstatus, hitems, hroom, hid, hinv⟩ :=
    read_eq_valid.1 h
  have husername' :
      Schema.required Schema.text "username" (r.update c.fields) = .valid p.username := by
    rwa [Schema.required, Change.get?_update_of_not_saved (by decide)]
  have hid' : Schema.identity (r.update c.fields) = p.id := by
    rw [hid, Schema.identity, Change.get?_update_of_not_saved (by decide),
      Change.get?_update_of_not_saved (by decide)]
    rfl
  have hnever : ∀ name ∉ Change.savedNames, name ∉ c.fieldNames :=
    fun _ hname h => hname (Change.mem_savedNames h)
  have hmap' := optional_update (hnever "map" (by decide)) hmap
  have hroom' := optional_update (hnever "room" (by decide)) hroom
  rw [read_eq_valid]
  cases c with
  | items inv =>
    refine ⟨inv.names, room, husername', hmap', optional_update (by simp [Change.fieldNames]) hx,
      optional_update (by simp [Change.fieldNames]) hy,
      optional_update (by simp [Change.fieldNames]) hstatus, ?_, hroom', hid'.symm,
      (Inventory.ofList_names inv).symm⟩
    exact optional_of_get? (Fields.get?_put_self r "items" _) (Schema.set_ofTexts inv.names)
  | position x y =>
    have hput : ((r.put "x" (.int x)).put "y" (.int y)).get? "x" = some (.int x) := by
      rw [Fields.get?_put_of_ne (by decide), Fields.get?_put_self]
    refine ⟨items, room, husername', hmap', optional_of_get? hput rfl,
      optional_of_get? (Fields.get?_put_self (r.put "x" (.int x)) "y" _) rfl,
      optional_update (by simp [Change.fieldNames]) hstatus,
      optional_update (by simp [Change.fieldNames]) hitems, hroom', hid'.symm, hinv⟩
  | status s =>
    refine ⟨items, room, husername', hmap', optional_update (by simp [Change.fieldNames]) hx,
      optional_update (by simp [Change.fieldNames]) hy, ?_,
      optional_update (by simp [Change.fieldNames]) hitems, hroom', hid'.symm, hinv⟩
    exact optional_of_get? (Fields.get?_put_self r "status" _)
      (by simp [Schema.choice, Change.applyTo])

/-- Reading a record after some changes gives the player with all of them made. -/
theorem read_makeAll {r : Fields} {p : Player} (h : read (.table r) = .valid p)
    (cs : List Change) :
    read (.table (Change.makeAll cs r)) = .valid (cs.foldl Change.applyTo p) := by
  induction cs generalizing r p with
  | nil => exact h
  | cons c cs ih => exact ih (read_update h c)

/-- The record of a new player is read with the identity that the store gave. -/
theorem read_identified (p : Player) (n : Int) :
    read (.table (Store.identified p.toRecord n)) = .valid { p with id := .int n } := by
  have hstored : Store.identified p.toRecord n = p.toRecord ++ [(.text "_id", .int n)] := by
    simp [Store.identified, Fields.putNew, Fields.has, toRecord, Fields.get?_cons, Fields.put,
      Fields.insert, Value.agrees, Value.isOneWith, Value.equals]
  rw [hstored, read_eq_valid]
  refine ⟨p.items.names, none, rfl, rfl, rfl, rfl, ?_, ?_, rfl, rfl,
    (Inventory.ofList_names p.items).symm⟩
  · exact optional_of_get? (v := .text p.status.word) rfl (by simp [Schema.choice])
  · exact optional_of_get? (v := .ofTexts p.items.names) rfl (Schema.set_ofTexts _)

end Player

end TextAdventure
