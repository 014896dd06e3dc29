import TextAdventure.Game.Slots

/-!
# The order of turns

The table of slots keeps the turns of each player in the order of their arrival: those that have
left, then the one that holds the slot, then those that wait. `Slots.Serves` states this of a table,
and each of its operations preserves it.
-/

namespace TextAdventure

namespace Slot

variable {s : Slot} {i : Nat}

theorem isFree_iff : s.isFree = true ↔ s.holder = none ∧ s.waiting = [] := by
  simp [isFree]

theorem isNext_iff : s.isNext i = true ↔ s.holder = none ∧ s.waiting.head? = some i := by
  simp [isNext]

/-- Nobody is next while the slot is held. -/
theorem isNext_of_holder {j : Nat} (h : s.holder = some j) : s.isNext i = false := by
  simp [isNext, h]

end Slot

namespace Slots

@[simp] theorem slot_put_self (key : TurnKey) (s : Slot) (slots : Slots) :
    slot (put key s slots) key = s := by
  induction slots with
  | nil => simp [put, slot]
  | cons e slots ih =>
    obtain ⟨k, old⟩ := e
    by_cases h : k = key
    · simp [put, slot, h]
    · have h' : (key == k) = false := by simpa using Ne.symm h
      simp only [put, h, if_false, slot, List.lookup_cons, h']
      exact ih

theorem slot_put_of_ne {key other : TurnKey} (h : other ≠ key) (s : Slot) (slots : Slots) :
    slot (put key s slots) other = slot slots other := by
  induction slots with
  | nil =>
    have h' : (other == key) = false := by simpa using h
    simp [put, slot, List.lookup_cons, h']
  | cons e slots ih =>
    obtain ⟨k, old⟩ := e
    by_cases hk : k = key
    · have h' : (other == key) = false := by simpa using h
      simp [put, slot, hk, List.lookup_cons, h']
    · simp only [put, hk, if_false, slot, List.lookup_cons] at ih ⊢
      split
      · rfl
      · exact ih

@[simp] theorem slot_remove_self (key : TurnKey) (slots : Slots) :
    slot (remove key slots) key = .free := by
  induction slots with
  | nil => rfl
  | cons e slots ih =>
    obtain ⟨k, old⟩ := e
    by_cases h : k = key
    · simpa [remove, h] using ih
    · have h' : (key == k) = false := by simpa using Ne.symm h
      simpa [remove, h, slot, List.lookup_cons, h'] using ih

theorem slot_remove_of_ne {key other : TurnKey} (h : other ≠ key) (slots : Slots) :
    slot (remove key slots) other = slot slots other := by
  induction slots with
  | nil => rfl
  | cons e slots ih =>
    obtain ⟨k, old⟩ := e
    by_cases hk : k = key
    · have h' : (other == key) = false := by simpa using h
      simpa [remove, hk, slot, List.lookup_cons, h'] using ih
    · simp only [remove, slot] at ih ⊢
      rw [List.filter_cons_of_pos (by simpa using hk), List.lookup_cons, List.lookup_cons]
      split
      · rfl
      · exact ih

/-! ### Operations on one slot -/

variable {slots : Slots} {key other : TurnKey} {i : Nat}

theorem slot_arrive_free (h : (slots.slot key).isFree = true) :
    (slots.arrive key i).slot key =
      { slots.slot key with pending := (slots.slot key).pending + 1, holder := some i } := by
  rw [arrive, slot_put_self, Slot.arrive, if_pos h]

theorem slot_arrive_taken (h : (slots.slot key).isFree = false) :
    (slots.arrive key i).slot key =
      { slots.slot key with
        pending := (slots.slot key).pending + 1, waiting := (slots.slot key).waiting ++ [i] } := by
  rw [arrive, slot_put_self, Slot.arrive, if_neg (by simp [h])]

theorem slot_arrive_of_ne (h : other ≠ key) : (slots.arrive key i).slot other = slots.slot other :=
  slot_put_of_ne h _ slots

theorem slot_take_self : (slots.take key).slot key = (slots.slot key).take := slot_put_self key _ slots

theorem slot_take_of_ne (h : other ≠ key) : (slots.take key).slot other = slots.slot other :=
  slot_put_of_ne h _ slots

theorem slot_leave_of_ne (h : other ≠ key) : (slots.leave key).slot other = slots.slot other := by
  unfold leave
  dsimp only
  split
  · exact slot_remove_of_ne h slots
  · exact slot_put_of_ne h _ slots

/-- A slot that its holder leaves goes away only if nobody waits. -/
theorem slot_leave_self (h : (slots.slot key).pending = 1 + (slots.slot key).waiting.length) :
    (slots.leave key).slot key = (slots.slot key).leave := by
  unfold leave
  dsimp only
  split
  · next hpending =>
    -- the last one leaves, and a slot that is not listed is free
    have hpending' : (slots.slot key).pending - 1 = 0 := hpending
    have hwaiting : (slots.slot key).waiting = [] := List.length_eq_zero_iff.1 (by omega)
    rw [slot_remove_self, Slot.leave, hpending', hwaiting]
    rfl
  · exact slot_put_self key _ slots

/-! ### Other turns -/

/-- What a step of a turn leaves alone: the slots of other players, and the places of other turns in
the slot of its own player. -/
structure Spares (key : TurnKey) (i : Nat) (slots slots' : Slots) : Prop where
  slot : ∀ other ≠ key, slots'.slot other = slots.slot other
  waiting : ∀ j ≠ i, j ∈ (slots.slot key).waiting → j ∈ (slots'.slot key).waiting
  holder : ∀ j ≠ i, (slots.slot key).holder = some j → (slots'.slot key).holder = some j

namespace Spares

theorem refl (key : TurnKey) (i : Nat) (slots : Slots) : Spares key i slots slots :=
  ⟨fun _ _ => rfl, fun _ _ h => h, fun _ _ h => h⟩

theorem trans {slots' slots'' : Slots} (h : Spares key i slots slots')
    (h' : Spares key i slots' slots'') : Spares key i slots slots'' where
  slot := fun other hother => (h'.slot other hother).trans (h.slot other hother)
  waiting := fun j hj hmem => h'.waiting j hj (h.waiting j hj hmem)
  holder := fun j hj hholder => h'.holder j hj (h.holder j hj hholder)

theorem arrive_free (h : (slots.slot key).isFree = true) :
    Spares key i slots (slots.arrive key i) where
  slot := fun _ hother => slot_arrive_of_ne hother
  waiting := by
    intro j _ hj
    rwa [slot_arrive_free h]
  holder := by
    intro j _ hj
    rw [(Slot.isFree_iff.1 h).1] at hj
    cases hj

theorem arrive_taken (h : (slots.slot key).isFree = false) :
    Spares key i slots (slots.arrive key i) where
  slot := fun _ hother => slot_arrive_of_ne hother
  waiting := by
    intro j _ hj
    rw [slot_arrive_taken h]
    exact List.mem_append_left [i] hj
  holder := by
    intro j _ hj
    rwa [slot_arrive_taken h]

theorem take (h : (slots.slot key).isNext i = true) : Spares key i slots (slots.take key) where
  slot := fun _ hother => slot_take_of_ne hother
  waiting := by
    intro j hne hj
    obtain ⟨rest, hwaiting⟩ := List.head?_eq_some_iff.1 (Slot.isNext_iff.1 h).2
    rw [hwaiting, List.mem_cons] at hj
    rw [slot_take_self, Slot.take, hwaiting]
    exact hj.resolve_left hne
  holder := by
    intro j _ hj
    rw [(Slot.isNext_iff.1 h).1] at hj
    cases hj

theorem leave (h : (slots.slot key).holder = some i)
    (hpending : (slots.slot key).pending = 1 + (slots.slot key).waiting.length) :
    Spares key i slots (slots.leave key) where
  slot := fun _ hother => slot_leave_of_ne hother
  waiting := by
    intro j _ hj
    rwa [slot_leave_self hpending]
  holder := by
    intro j hne hj
    rw [h] at hj
    exact absurd (Option.some.inj hj).symm hne

end Spares

/-! ### First come, first served -/

/-- The turns of each player come in the order of their arrival: those that are done, the one that
holds the slot, and those that wait. -/
structure Serves (slots : Slots) (isOf : TurnKey → Nat → Bool) (order done : List Nat) : Prop where
  queue : ∀ key, order.filter (isOf key) =
    done.filter (isOf key) ++ (slots.slot key).holder.toList ++ (slots.slot key).waiting
  pending : ∀ key, (slots.slot key).pending =
    (slots.slot key).holder.toList.length + (slots.slot key).waiting.length

namespace Serves

variable {isOf : TurnKey → Nat → Bool} {order done : List Nat}

theorem nil (isOf : TurnKey → Nat → Bool) : Serves [] isOf [] [] :=
  ⟨fun _ => rfl, fun _ => rfl⟩

theorem arrive (h : slots.Serves isOf order done) (hi : isOf key i = true)
    (hother : ∀ other ≠ key, isOf other i = false) :
    (slots.arrive key i).Serves isOf (order ++ [i]) done := by
  refine ⟨fun k => ?_, fun k => ?_⟩
  · by_cases hk : k = key
    · subst hk
      rw [List.filter_append, h.queue]
      cases hfree : (slots.slot k).isFree with
      | true =>
        obtain ⟨hholder, hwaiting⟩ := Slot.isFree_iff.1 hfree
        rw [slot_arrive_free hfree]
        simp [hholder, hwaiting, hi]
      | false =>
        rw [slot_arrive_taken hfree]
        simp [hi]
    · rw [List.filter_append, h.queue, slot_arrive_of_ne hk]
      simp [hother k hk]
  · by_cases hk : k = key
    · subst hk
      have hpending := h.pending k
      cases hfree : (slots.slot k).isFree with
      | true =>
        obtain ⟨hholder, hwaiting⟩ := Slot.isFree_iff.1 hfree
        rw [slot_arrive_free hfree]
        simp [hholder, hwaiting, hpending]
      | false =>
        rw [slot_arrive_taken hfree]
        simp [hpending]
        omega
    · rw [slot_arrive_of_ne hk, h.pending]

theorem take (h : slots.Serves isOf order done) (hi : (slots.slot key).isNext i = true) :
    (slots.take key).Serves isOf order done := by
  obtain ⟨hholder, hhead⟩ := Slot.isNext_iff.1 hi
  obtain ⟨rest, hwaiting⟩ := List.head?_eq_some_iff.1 hhead
  refine ⟨fun k => ?_, fun k => ?_⟩
  · by_cases hk : k = key
    · subst hk
      rw [h.queue, slot_take_self, Slot.take, hholder, hwaiting]
      simp
    · rw [h.queue, slot_take_of_ne hk]
  · by_cases hk : k = key
    · subst hk
      have hpending := h.pending k
      rw [slot_take_self, Slot.take]
      simp [hpending, hholder, hwaiting]
      omega
    · rw [slot_take_of_ne hk, h.pending]

theorem pending_of_holder (h : slots.Serves isOf order done)
    (hi : (slots.slot key).holder = some i) :
    (slots.slot key).pending = 1 + (slots.slot key).waiting.length := by
  rw [h.pending key, hi]
  rfl

theorem leave (h : slots.Serves isOf order done) (hi : (slots.slot key).holder = some i)
    (hown : isOf key i = true) (hother : ∀ other ≠ key, isOf other i = false) :
    (slots.leave key).Serves isOf order (done ++ [i]) := by
  have hpending := h.pending_of_holder hi
  have hleave := slot_leave_self hpending
  refine ⟨fun k => ?_, fun k => ?_⟩
  · by_cases hk : k = key
    · subst hk
      rw [h.queue, hleave, Slot.leave, hi]
      simp [hown]
    · rw [h.queue, slot_leave_of_ne hk]
      simp [hother k hk]
  · by_cases hk : k = key
    · subst hk
      rw [hleave, Slot.leave]
      simp [hpending]
    · rw [slot_leave_of_ne hk, h.pending]

end Serves

end Slots

end TextAdventure
