import TextAdventure.Proofs.Store.PlayerRecord

/-!
# Rooms that are written and read again

A record leaves out whatever is absent, and reading puts the absence back: for moves, effects,
conditions, attributes and rooms, one inside the other, what was written is what is read. There is
one lemma for each of them, and the next one rests on it. The one thing that a reader asks for and a
writer does not see to is that an attribute has a case (`Room.HasCases`); rooms that were read have
it (`Room.hasCases_of_read`).
-/

namespace TextAdventure

/-! ### Lists and fields -/

/-- A list whose members are read as what they were written for is read so. -/
theorem Checked.all_map {α β : Type} {step : Nat → α → Step} {check : α → Checked β}
    {write : β → α} {items : List β} (h : ∀ b ∈ items, check (write b) = .valid b) (i : Nat) :
    all step check i (items.map write) = .valid items := by
  induction items generalizing i with
  | nil => rfl
  | cons b items ih =>
    rw [List.map_cons, all, h b List.mem_cons_self, ih fun b hb => h b (List.mem_cons_of_mem _ hb)]
    rfl

/-- What a check brings of a list comes from its members. -/
theorem Checked.exists_of_all {α β : Type} {step : Nat → α → Step} {check : α → Checked β}
    {values : List α} {items : List β} {i : Nat} (h : all step check i values = .valid items)
    {b : β} (hb : b ∈ items) : ∃ v ∈ values, check v = .valid b := by
  induction values generalizing i items with
  | nil =>
    cases h
    simp at hb
  | cons v values ih =>
    simp only [all, seq_eq_valid, map_eq_valid] at h
    obtain ⟨_, rest, ⟨first, hfirst, rfl⟩, hrest, rfl⟩ := h
    rcases List.mem_cons.1 hb with rfl | hb
    · refine ⟨v, List.mem_cons_self, ?_⟩
      cases hv : check v with
      | valid => simpa [under, hv] using hfirst
      | invalid => simp [under, hv] at hfirst
    · obtain ⟨u, hu, hread⟩ := ih hrest hb
      exact ⟨u, List.mem_cons_of_mem _ hu, hread⟩

theorem Checked.under_eq_valid {α : Type} {step : Step} {x : Checked α} {a : α} :
    x.under step = .valid a ↔ x = .valid a := by
  cases x <;> simp [under]

/-- A check that stands to the right of an object only lets it pass. -/
theorem Checked.seqLeft_eq_valid {α β : Type} {x : Checked α} {y : Checked β} {a : α} :
    x <* y = .valid a ↔ x = .valid a ∧ ∃ b, y = .valid b := by
  show (x.map (Function.const β)).seq y = .valid a ↔ _
  cases x <;> cases y <;> simp [map, seq]

namespace Schema

variable {α : Type} {read : Value → Checked α} {r : Fields} {name : String}

/-- A list is read as what it was written for, if its members are. -/
theorem list_map {write : α → Value} {items : List α} (h : ∀ a ∈ items, read (write a) = .valid a) :
    list read (.list (items.map write)) = .valid items :=
  Checked.all_map h 0

theorem list_ofTexts (texts : List String) : list text (.ofTexts texts) = .valid texts :=
  list_map fun _ _ => rfl

theorem nonEmptyList_map {write : α → Value} {items : List α}
    (h : ∀ a ∈ items, read (write a) = .valid a) (hne : items ≠ []) :
    nonEmptyList read (.list (items.map write)) = .valid items := by
  obtain ⟨a, items, rfl⟩ := List.exists_cons_of_ne_nil hne
  exact list_map h

/-- A list that must have a member has one. -/
theorem ne_nil_of_nonEmptyList {v : Value} {items : List α}
    (h : nonEmptyList read v = .valid items) : items ≠ [] := by
  unfold nonEmptyList at h
  split at h
  · cases h
  · next hne =>
    unfold list at h
    split at h
    · next values hrow =>
      cases values with
      | nil => exact absurd hrow hne
      | cons v values =>
        simp only [Checked.all, Checked.seq_eq_valid, Checked.map_eq_valid] at h
        obtain ⟨_, rest, ⟨first, _, rfl⟩, _, rfl⟩ := h
        exact List.cons_ne_nil _ _
    · cases h

theorem object_table (read : Fields → Checked α) (r : Fields) : object read (.table r) = read r :=
  rfl

theorem exists_of_optional {default a : α} (h : optional read default name r = .valid a)
    (hne : a ≠ default) : ∃ v, read v = .valid a := by
  unfold optional at h
  split at h
  · exact ⟨_, Checked.under_eq_valid.1 h⟩
  · exact absurd (Checked.valid.inj h).symm hne

theorem exists_of_required {a : α} (h : required read name r = .valid a) :
    ∃ v, read v = .valid a := by
  unfold required at h
  split at h
  · exact ⟨_, Checked.under_eq_valid.1 h⟩
  · exact nomatch h

/-- What is in a list that may be left out was read. -/
theorem exists_of_mem_list {items : List α} (h : optional (list read) [] name r = .valid items)
    {a : α} (ha : a ∈ items) : ∃ v, read v = .valid a := by
  obtain ⟨v, hv⟩ := exists_of_optional h (List.ne_nil_of_mem ha)
  unfold list at hv
  split at hv
  · obtain ⟨u, -, hu⟩ := Checked.exists_of_all hv ha
    exact ⟨u, hu⟩
  · exact nomatch hv

theorem required_of_get? {v : Value} {a : α} (h : r.get? name = some v) (hv : read v = .valid a) :
    required read name r = .valid a := by
  simp [required, h, hv, Checked.under]

/-- A field that may be left out is read as what it was written for. -/
theorem optional_nullable {w : α → Value} {field : Option α}
    (h : r.get? name = field.map w) (hread : ∀ a, field = some a → read (w a) = .valid a)
    (hnull : ∀ a, w a ≠ .null) : optional (nullable read) none name r = .valid field := by
  cases field with
  | none => simp [optional, h]
  | some a =>
    have hsome : nullable read (w a) = some <$> read (w a) := by
      unfold nullable
      split
      · next hw => exact absurd hw (hnull a)
      · rfl
    rw [optional, h, Option.map_some]
    simp only [hsome, hread a rfl]
    rfl

end Schema

/-! ### From moves to attributes -/

/-- A move is read as what it was written for: a pair stays a pair, and a word stays a word. -/
@[simp] theorem Move.read_toValue (m : Move) : read m.toValue = .valid m := by
  cases m <;> rfl

theorem Effect.read_toRecord (e : Effect) : read (.table e.toRecord) = .valid e := by
  obtain ⟨move, items, status⟩ := e
  simp only [read, Schema.object_table, Checked.seqLeft_eq_valid, Checked.seq_eq_valid,
    Checked.map_eq_valid]
  refine ⟨⟨_, status, ⟨_, items, ⟨move, ?move, rfl⟩, ?items, rfl⟩, ?status, rfl⟩, (), ?names⟩
  case move =>
    exact Schema.optional_nullable (w := Move.toValue)
      (by cases move <;> cases status <;> rfl) (fun m _ => m.read_toValue) fun m => by
        cases m <;> exact nofun
  case items =>
    exact Player.optional_of_get? (v := .ofTexts items) (by cases move <;> rfl)
      (Schema.list_ofTexts items)
  case status =>
    exact Schema.optional_nullable (w := fun s => .text s.word)
      (by cases move <;> cases status <;> rfl) (fun s _ => by simp [Schema.choice]) fun _ => nofun
  case names => cases move <;> cases status <;> rfl

theorem Condition.read_toRecord (c : Condition) : read (.table c.toRecord) = .valid c := by
  obtain ⟨needs, message, effect⟩ := c
  simp only [read, Schema.object_table, Checked.seqLeft_eq_valid, Checked.seq_eq_valid,
    Checked.map_eq_valid]
  refine ⟨⟨_, effect, ⟨_, message, ⟨needs, ?needs, rfl⟩, rfl, rfl⟩, ?effect, rfl⟩, (), ?names⟩
  case needs =>
    exact Player.optional_of_get? (v := .ofTexts needs) rfl (Schema.list_ofTexts needs)
  case effect =>
    have hget : Fields.get? (Condition.toRecord ⟨needs, message, effect⟩) "effect" =
        effect.map fun e => .table e.toRecord := by
      cases effect <;> rfl
    exact Schema.optional_nullable hget (fun e _ => e.read_toRecord) fun _ => nofun
  case names => cases effect <;> rfl

/-- An attribute with a case is read as what it was written for. -/
theorem Attribute.read_toRecord {a : Attribute} (h : a.conditions ≠ []) :
    read (.table a.toRecord) = .valid a := by
  obtain ⟨kind, name, item, aliases, conditions⟩ := a
  simp only [read, Schema.object_table, Checked.seqLeft_eq_valid, Checked.seq_eq_valid,
    Checked.map_eq_valid]
  refine ⟨⟨_, conditions, ⟨_, aliases, ⟨_, item, ⟨_, name, ⟨kind, ?kind, rfl⟩, rfl, rfl⟩, ?item,
    rfl⟩, ?aliases, rfl⟩, ?conditions, rfl⟩, (), ?names⟩
  case kind => cases kind <;> rfl
  case item =>
    exact Schema.optional_nullable (w := .text) (by cases item <;> rfl) (fun _ _ => rfl)
      fun _ => nofun
  case aliases =>
    exact Player.optional_of_get? (v := .ofTexts aliases) (by cases item <;> rfl)
      (Schema.list_ofTexts aliases)
  case conditions =>
    exact Schema.required_of_get? (by cases item <;> rfl)
      (Schema.nonEmptyList_map (fun c _ => c.read_toRecord) h)
  case names => cases item <;> rfl

/-- An attribute that was read has a case. -/
theorem Attribute.conditions_ne_nil_of_read {v : Value} {a : Attribute} (h : read v = .valid a) :
    a.conditions ≠ [] := by
  unfold read Schema.object at h
  split at h
  · simp only [Checked.seqLeft_eq_valid, Checked.seq_eq_valid, Checked.map_eq_valid] at h
    obtain ⟨⟨_, conditions, ⟨_, _, ⟨_, _, ⟨_, _, ⟨_, _, rfl⟩, _, rfl⟩, _, rfl⟩, _, rfl⟩, hread,
      rfl⟩, -⟩ := h
    exact Schema.ne_nil_of_nonEmptyList (Schema.exists_of_required hread).choose_spec
  · exact nomatch h

/-! ### Rooms -/

namespace Room

/-- Every attribute of the room has a case. -/
def HasCases (r : Room) : Prop := ∀ a ∈ r.attributes, a.conditions ≠ []

instance (r : Room) : Decidable r.HasCases :=
  inferInstanceAs (Decidable (∀ a ∈ r.attributes, a.conditions ≠ []))

theorem hasCases_of_read {v : Value} {r : Room} (h : read v = .valid r) : r.HasCases := by
  unfold read Schema.object at h
  split at h
  · simp only [Checked.seqLeft_eq_valid, Checked.seq_eq_valid, Checked.map_eq_valid] at h
    obtain ⟨⟨_, attributes, ⟨_, _, ⟨_, _, ⟨_, _, ⟨_, _, ⟨_, _, rfl⟩, _, rfl⟩, _, rfl⟩, _, rfl⟩, _,
      rfl⟩, hread, rfl⟩, -⟩ := h
    intro a ha
    obtain ⟨u, hu⟩ := Schema.exists_of_mem_list hread ha
    exact Attribute.conditions_ne_nil_of_read hu
  · exact nomatch h

/-- A room is read as what it was written for. The identity, which is not written, is read from what
the store puts behind the other fields. -/
theorem read_toRecord_append {r : Room} (h : r.HasCases) {rest : Fields}
    (hrest : rest = [] ∨ ∃ id, rest = [(.text "_id", id)]) :
    read (.table (r.toRecord ++ rest)) = .valid { r with id := Schema.identity rest } := by
  obtain ⟨id, x, y, map, name, description, attributes⟩ := r
  simp only [read, Schema.object_table, Checked.seqLeft_eq_valid, Checked.seq_eq_valid,
    Checked.map_eq_valid]
  refine ⟨⟨_, attributes, ⟨_, description, ⟨_, name, ⟨_, map, ⟨_, y, ⟨x, rfl, rfl⟩, rfl, rfl⟩, rfl,
    rfl⟩, rfl, rfl⟩, rfl, rfl⟩, ?attributes, ?id⟩, (), ?names⟩
  case attributes =>
    exact Player.optional_of_get? rfl
      (Schema.list_map fun a ha => Attribute.read_toRecord (h a ha))
  case id => rcases hrest with rfl | ⟨id, rfl⟩ <;> rfl
  case names => rcases hrest with rfl | ⟨id, rfl⟩ <;> rfl

/-- A record of a room that was read leaves nothing out but the identity. -/
theorem read_toRecord {r : Room} (h : r.HasCases) :
    read (.table r.toRecord) = .valid { r with id := .null } := by
  have hread := read_toRecord_append h (.inl rfl)
  rwa [List.append_nil] at hread

/-- The record of a room is read with the identity that the store gave. -/
theorem read_identified {r : Room} (h : r.HasCases) (n : Int) :
    read (.table (Store.identified r.toRecord n)) = .valid { r with id := .int n } :=
  read_toRecord_append h (.inr ⟨.int n, rfl⟩)

end Room

end TextAdventure
