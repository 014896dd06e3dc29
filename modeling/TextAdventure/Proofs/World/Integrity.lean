import TextAdventure.Turn.Effect
import TextAdventure.World.Integrity

/-!
# Worlds without faults

What the integrity check of a world promises to those who play in it: every effect can be carried out
(`Effect.IsSound`), and there is a room where players begin. The check goes over the rooms as they are
authored, with its own idea of what a direction or an item change is; here it is held against what
effects do (`Effect.IsSound.not_unknownDirection`, `Effect.IsSound.items_apply`).
-/

namespace TextAdventure

/-! ### Effects that can be carried out -/

/-- An effect can be carried out: its move leads somewhere, and its item changes name items. -/
structure Effect.IsSound (directions : Directions) (e : Effect) : Prop where
  move : ∀ m, e.move = some m → (m.distance? directions).isSome = true
  items : ∀ word ∈ e.items, isEmptyChange word = false

/-- All effects in a room can be carried out. -/
def Room.IsSound (directions : Directions) (r : Room) : Prop :=
  ∀ a ∈ r.attributes, ∀ c ∈ a.conditions, ∀ e, c.effect = some e → e.IsSound directions

/-- A word that gives the item without a name is an empty change. -/
theorem isEmptyChange_of_give {word : String}
    (h : Inventory.Change.ofWord word = .give "") : isEmptyChange word = true := by
  unfold Inventory.Change.ofWord at h
  unfold isEmptyChange
  split at h
  · cases h
  · next rest hword =>
    have hrest : rest = [] := by simpa using h
    simp [hword, hrest]
  · obtain rfl : word = "" := Inventory.Change.give.inj h
    rfl

/-- Changes that all name items never bring the item without a name. -/
theorem Inventory.not_mem_applyWords {words : List String}
    (h : ∀ word ∈ words, isEmptyChange word = false) {inv : Inventory} (hinv : "" ∉ inv) :
    "" ∉ inv.applyWords words := by
  induction words generalizing inv with
  | nil => exact hinv
  | cons word words ih =>
    obtain ⟨hword, hwords⟩ := List.forall_mem_cons.1 h
    refine ih hwords ?_
    cases hchange : Change.ofWord word with
    | give item =>
      have hitem : item ≠ "" := by
        rintro rfl
        simp [isEmptyChange_of_give hchange] at hword
      simp [change, hchange, Ne.symm hitem, hinv]
    | take item => simp [change, hchange, hinv]

namespace Effect.IsSound

variable {directions : Directions} {e : Effect} {p : Player}

/-- An effect that can be carried out is never reported to lead nowhere. -/
theorem not_unknownDirection (h : e.IsSound directions) (word username : String) :
    .log (.unknownDirection word username) ∉ e.notes directions p := by
  intro hmem
  simp only [notes, List.mem_append] at hmem
  rcases hmem with (hmem | hmem) | hmem
  · split at hmem
    · next w hmove hnone =>
      have := h.move _ hmove
      simp [distance?, hmove] at hnone
      simp [hnone] at this
    · simp at hmem
    · simp at hmem
  · split at hmem <;> simp at hmem
  · split at hmem <;> simp at hmem

theorem items_apply (h : e.IsSound directions) (hp : "" ∉ p.items) :
    "" ∉ (e.apply directions p).items :=
  Inventory.not_mem_applyWords h.items hp

end Effect.IsSound

/-! ### What the check promises -/

/-- An effect without faults can be carried out. -/
theorem Effect.isSound_of_faults {v : Vocabulary} {room trigger : String} {e : Effect}
    (h : e.faults v room trigger = []) : e.IsSound v.directions := by
  obtain ⟨hmove, hitems⟩ := List.append_eq_nil_iff.1 h
  refine ⟨fun m hm => ?_, fun word hword => ?_⟩
  · cases m with
    | delta dx dy => rfl
    | word w =>
      simp only [hm] at hmove
      cases hlookup : v.directions.lookup (Text.fold w) with
      | none => simp [hlookup] at hmove
      | some d => simp [Move.distance?, hlookup]
  · have := List.filter_eq_nil_iff.1 (List.map_eq_nil_iff.1 hitems) word hword
    simpa using this

theorem Attribute.faults_of_roomFaults {v : Vocabulary} {earlier rooms : List Room}
    (h : roomFaults v earlier rooms = []) {r : Room} (hr : r ∈ rooms) {a : Attribute}
    (ha : a ∈ r.attributes) : a.faults v r.name = [] := by
  induction rooms generalizing earlier with
  | nil => exact absurd hr List.not_mem_nil
  | cons q rooms ih =>
    obtain ⟨hq, hrest⟩ := List.append_eq_nil_iff.1 h
    rcases List.mem_cons.1 hr with rfl | hr
    · exact List.flatMap_eq_nil_iff.1 (List.append_eq_nil_iff.1 hq).2 a ha
    · exact ih hrest hr

namespace World

variable {w : World} {v : Vocabulary}

/-- In a world without faults all effects can be carried out. -/
theorem isSound_of_faults (h : w.faults v = []) : ∀ r ∈ w.rooms, r.IsSound v.directions := by
  intro r hr a ha c hc e he
  have hattribute :=
    Attribute.faults_of_roomFaults (List.append_eq_nil_iff.1 h).1 hr ha
  have hcondition := List.flatMap_eq_nil_iff.1 (List.append_eq_nil_iff.1 hattribute).2 c hc
  rw [he] at hcondition
  exact Effect.isSound_of_faults hcondition

/-- In a world without faults there is a room where players begin. -/
theorem exists_origin_of_faults (h : w.faults v = []) :
    ∃ r, w.roomAt? w.origin.1 w.origin.2 "" = some r := by
  have horigin := (List.append_eq_nil_iff.1 h).2
  split at horigin
  · next r hroom => exact ⟨r, hroom⟩
  · cases horigin

end World

end TextAdventure
