import Mathlib.Data.List.Induction
import TextAdventure.Proofs.Game.Queue
import TextAdventure.Proofs.Game.Steps

/-!
# Turns in flight and their slots

Turns that are submitted together take their steps in any order, over any store. At every moment the
turns of each player come in the order of their arrival: those that have left, then the one that
holds the slot, then those that wait (`Arena.Orderly`). Every step preserves this
(`Arena.Orderly.step`).
-/

namespace TextAdventure

namespace Arena

/-- The order in which turns arrive, if they take their steps in the order of a schedule. -/
def arrivals (n : Nat) (schedule : List Nat) : List Nat := (schedule.filter (· < n)).eraseDups

/-- The order in which turns have arrived, after one more has taken a step. -/
def arrive (n : Nat) (order : List Nat) (i : Nat) : List Nat :=
  if i < n ∧ i ∉ order then order ++ [i] else order

theorem arrive_arrive (n : Nat) (order : List Nat) (i : Nat) :
    arrive n (arrive n order i) i = arrive n order i := by
  by_cases h : i < n ∧ i ∉ order
  · simp [arrive, h]
  · simp only [arrive, h, if_false]

theorem arrivals_concat (n : Nat) (schedule : List Nat) (i : Nat) :
    arrivals n (schedule ++ [i]) = arrive n (arrivals n schedule) i := by
  by_cases hi : i < n
  · by_cases hmem : i ∈ schedule
    · simp [arrivals, arrive, List.eraseDups_append, List.removeAll, hi, hmem]
    · simp [arrivals, arrive, List.eraseDups_append, List.eraseDups_cons, List.removeAll, hi, hmem]
  · simp [arrivals, arrive, hi]

theorem foldl_arrive (n : Nat) (schedule : List Nat) :
    schedule.foldl (arrive n) [] = arrivals n schedule := by
  induction schedule using List.reverseRecOn with
  | nil => rfl
  | append_singleton schedule i ih =>
    rw [List.foldl_append, ih, arrivals_concat]
    rfl

/-- Whether a turn is one of a player. -/
def isOf (turns : List Turn) (key : TurnKey) (i : Nat) : Bool :=
  (turns[i]?).map Turn.key == some key

/-- Where a turn stands goes with its place in the order of turns. -/
def IsAt (turns : List Turn) (order done : List Nat) (slots : Slots) (i : Nat) (f : Flight) : Prop :=
  match f.stage with
  | .submitted t => turns[i]? = some t ∧ i ∉ order
  | .waiting t => turns[i]? = some t ∧ i ∈ (slots.slot f.key).waiting
  | .running _ => (slots.slot f.key).holder = some i
  | .finished .. => i ∈ done

/-- What holds of turns in flight and their slots at every moment; `order` are the turns that have
arrived, and `done` those that have left. -/
structure Orderly {σ : Type} (turns : List Turn) (order done : List Nat) (a : Arena σ) : Prop where
  length : a.flights.length = turns.length
  keys : ∀ (i : Nat) (f : Flight), a.flights[i]? = some f → (turns[i]?).map Turn.key = some f.key
  nodup : order.Nodup
  serves : a.slots.Serves (isOf turns) order done
  stage : ∀ (i : Nat) (f : Flight), a.flights[i]? = some f → IsAt turns order done a.slots i f

namespace Orderly

variable {σ : Type} {b : Backend σ} {g : Game σ} {turns : List Turn} {order done : List Nat}
  {a : Arena σ}

/-- Before the first step. -/
theorem submit (hg : g.IsIdle) (turns : List Turn) : Orderly turns [] [] (g.submit turns) where
  length := by simp [Game.submit]
  keys := by
    intro i f hf
    simp only [Game.submit, List.getElem?_map, Option.map_eq_some_iff] at hf
    obtain ⟨t, ht, rfl⟩ := hf
    rw [ht]
    rfl
  nodup := List.nodup_nil
  serves := by
    rw [show (g.submit turns).slots = [] from hg]
    exact .nil _
  stage := by
    intro i f hf
    simp only [Game.submit, List.getElem?_map, Option.map_eq_some_iff] at hf
    obtain ⟨t, ht, rfl⟩ := hf
    exact ⟨ht, List.not_mem_nil⟩

section Present

variable (h : Orderly turns order done a) {i : Nat} {f : Flight} (hf : a.flights[i]? = some f)
include h hf

theorem isOf_key : isOf turns f.key i = true := by
  rw [isOf, h.keys i f hf]
  exact beq_self_eq_true _

theorem not_isOf : ∀ other ≠ f.key, isOf turns other i = false := by
  intro other hother
  rw [isOf, h.keys i f hf]
  simpa using Ne.symm hother

/-- A turn that is not at its beginning has arrived. -/
theorem mem_order (hstage : ∀ t, f.stage ≠ .submitted t) : i ∈ order := by
  have hqueue := h.serves.queue f.key
  have hat := h.stage i f hf
  have hmem : i ∈ order.filter (isOf turns f.key) → i ∈ order := fun hi => (List.mem_filter.1 hi).1
  rw [hqueue] at hmem
  refine hmem ?_
  unfold IsAt at hat
  split at hat
  · next hsubmitted => exact absurd hsubmitted (hstage _)
  · exact List.mem_append_right _ hat.2
  · rw [hat]
    simp
  · simp [hat, h.isOf_key hf]

theorem arrive_eq (hstage : ∀ t, f.stage ≠ .submitted t) : arrive turns.length order i = order :=
  if_neg fun hi => hi.2 (h.mem_order hf hstage)

theorem arrive_eq_concat {t : Turn} (hstage : f.stage = .submitted t) :
    arrive turns.length order i = order ++ [i] := by
  have hat := h.stage i f hf
  rw [IsAt, hstage] at hat
  exact if_pos ⟨(List.getElem?_eq_some_iff.1 hat.1).1, hat.2⟩

end Present

/-- A turn that has arrived but has not left is in flight and has its place in the slot. -/
theorem exists_flight (h : Orderly turns order done a) {key : TurnKey} {j : Nat}
    (hj : j ∈ (a.slots.slot key).holder.toList ++ (a.slots.slot key).waiting) :
    ∃ f, a.flights[j]? = some f ∧ f.key = key ∧ j ∈ order ∧ j ∉ done := by
  have hqueue := h.serves.queue key
  rw [List.append_assoc] at hqueue
  have hmem : j ∈ order.filter (isOf turns key) := by
    rw [hqueue]
    exact List.mem_append_right _ hj
  obtain ⟨horder, hown⟩ := List.mem_filter.1 hmem
  -- no turn arrives twice, so the ones in the slot have not left
  have hnodup : (order.filter (isOf turns key)).Nodup := h.nodup.filter _
  rw [hqueue, List.nodup_append] at hnodup
  have hlength : j < a.flights.length := by
    rw [h.length]
    simp only [isOf, beq_iff_eq, Option.map_eq_some_iff] at hown
    obtain ⟨t, ht, -⟩ := hown
    exact (List.getElem?_eq_some_iff.1 ht).1
  have hf := List.getElem?_eq_getElem hlength
  refine ⟨_, hf, ?_, horder, fun hdone => ?_⟩
  · simpa [isOf, h.keys j _ hf] using hown
  · exact hnodup.2.2 j (List.mem_filter.2 ⟨hdone, hown⟩) j hj rfl

/-- The holder of a slot does not wait for it. -/
theorem not_mem_waiting (h : Orderly turns order done a) {key : TurnKey} {j : Nat}
    (hj : (a.slots.slot key).holder = some j) : j ∉ (a.slots.slot key).waiting := by
  have hnodup : (order.filter (isOf turns key)).Nodup := h.nodup.filter _
  rw [h.serves.queue key, hj, List.nodup_append] at hnodup
  exact fun hwaiting => hnodup.2.2 j (by simp) j hwaiting rfl

/-- The turns that the table of slots lists as waiting do wait. -/
theorem exists_waiting (h : Orderly turns order done a) {key : TurnKey} {j : Nat}
    (hj : j ∈ (a.slots.slot key).waiting) :
    ∃ f t, a.flights[j]? = some f ∧ f.key = key ∧ f.stage = .waiting t := by
  obtain ⟨f, hf, hkey, horder, hdone⟩ := h.exists_flight (List.mem_append_right _ hj)
  have hat := h.stage j f hf
  unfold IsAt at hat
  split at hat
  · exact absurd horder hat.2
  · next t hstage => exact ⟨f, t, hf, hkey, hstage⟩
  · rw [hkey] at hat
    exact absurd hj (h.not_mem_waiting hat)
  · exact absurd hat hdone

/-- The turn that the table of slots lists as the holder is running. -/
theorem exists_running (h : Orderly turns order done a) {key : TurnKey} {j : Nat}
    (hj : (a.slots.slot key).holder = some j) :
    ∃ x, a.flights[j]? = some ⟨key, .running x⟩ := by
  obtain ⟨f, hf, rfl, horder, hdone⟩ :=
    h.exists_flight (List.mem_append_left _ (Option.mem_toList.2 hj))
  have hat := h.stage j f hf
  unfold IsAt at hat
  split at hat
  · exact absurd horder hat.2
  · exact absurd hat.2 (h.not_mem_waiting hj)
  · next x hstage => exact ⟨x, by rw [hf, ← hstage]⟩
  · exact absurd hat hdone

/-- What is to be seen to if a turn takes a step. -/
theorem move (h : Orderly turns order done a) {a' : Arena σ} {i : Nat} {f : Flight} {stage : Stage}
    {order' done' : List Nat} (hf : a.flights[i]? = some f)
    (hflights : a'.flights = a.flights.set i ⟨f.key, stage⟩)
    (horder : order' = order ∨ order' = order ++ [i] ∧ i ∉ order)
    (hdone : done' = done ∨ done' = done ++ [i])
    (hserves : a'.slots.Serves (isOf turns) order' done')
    (hslots : a.slots.Spares f.key i a'.slots)
    (hstage : IsAt turns order' done' a'.slots i ⟨f.key, stage⟩) :
    Orderly turns order' done' a' := by
  have hi : i < a.flights.length := (List.getElem?_eq_some_iff.1 hf).1
  have hself : a'.flights[i]? = some ⟨f.key, stage⟩ := by
    rw [hflights, List.getElem?_set_self hi]
  have hother : ∀ j ≠ i, a'.flights[j]? = a.flights[j]? := by
    intro j hne
    rw [hflights, List.getElem?_set_ne hne.symm]
  refine
    { length := by rw [hflights, List.length_set, h.length]
      keys := fun j f' hj => ?_
      nodup := ?_
      serves := hserves
      stage := fun j f' hj => ?_ }
  · by_cases hne : j = i
    · subst hne
      rw [hself] at hj
      rw [← Option.some.inj hj]
      exact h.keys j f hf
    · exact h.keys j f' ((hother j hne).symm.trans hj)
  · rcases horder with rfl | ⟨rfl, hnew⟩
    · exact h.nodup
    · rw [List.nodup_append]
      refine ⟨h.nodup, by simp, fun j hj k hk e => hnew ?_⟩
      rwa [e, List.mem_singleton.1 hk] at hj
  · by_cases hne : j = i
    · subst hne
      rw [hself] at hj
      rwa [← Option.some.inj hj]
    · have hat := h.stage j f' ((hother j hne).symm.trans hj)
      -- a turn of another player stands in another slot
      have hwaiting : j ∈ (a.slots.slot f'.key).waiting → j ∈ (a'.slots.slot f'.key).waiting := by
        by_cases hkey : f'.key = f.key
        · rw [hkey]
          exact hslots.waiting j hne
        · rw [hslots.slot _ hkey]
          exact id
      have hholder : (a.slots.slot f'.key).holder = some j →
          (a'.slots.slot f'.key).holder = some j := by
        by_cases hkey : f'.key = f.key
        · rw [hkey]
          exact hslots.holder j hne
        · rw [hslots.slot _ hkey]
          exact id
      unfold IsAt at hat ⊢
      split <;> rename_i hstage' <;> rw [hstage'] at hat
      · refine ⟨hat.1, ?_⟩
        rcases horder with rfl | ⟨rfl, -⟩
        · exact hat.2
        · simp [hat.2, hne]
      · exact ⟨hat.1, hwaiting hat.2⟩
      · exact hholder hat
      · rcases hdone with rfl | rfl
        · exact hat
        · exact List.mem_append_left _ hat

section Moves

variable (h : Orderly turns order done a) {a' : Arena σ} {i : Nat} {f : Flight}
  (hf : a.flights[i]? = some f)
include h hf

/-- A turn that arrives at a slot that is taken waits. -/
theorem waits {t : Turn} (hstage : f.stage = .submitted t)
    (htaken : (a.slots.slot f.key).isFree = false)
    (hflights : a'.flights = a.flights.set i ⟨f.key, .waiting t⟩)
    (hslots : a'.slots = a.slots.arrive f.key i) : Orderly turns (order ++ [i]) done a' := by
  have hat := h.stage i f hf
  rw [IsAt, hstage] at hat
  refine h.move hf hflights (.inr ⟨rfl, hat.2⟩) (.inl rfl) ?_ ?_ ⟨hat.1, ?_⟩
  · rw [hslots]
    exact h.serves.arrive (h.isOf_key hf) (h.not_isOf hf)
  · rw [hslots]
    exact .arrive_taken htaken
  · rw [hslots, Slots.slot_arrive_taken htaken]
    exact List.mem_append_right _ (List.mem_singleton_self i)

/-- A turn that can go on holds its slot then. -/
theorem takes {slots : Slots} {x : Run} (htakes : Takes b a i f slots x) :
    slots.Serves (isOf turns) (arrive turns.length order i) done ∧
      a.slots.Spares f.key i slots ∧ (slots.slot f.key).holder = some i ∧
      (arrive turns.length order i = order ∨
        arrive turns.length order i = order ++ [i] ∧ i ∉ order) := by
  cases htakes with
  | arrives hstage hfree =>
    have hat := h.stage i f hf
    rw [IsAt, hstage] at hat
    rw [h.arrive_eq_concat hf hstage]
    refine ⟨h.serves.arrive (h.isOf_key hf) (h.not_isOf hf), .arrive_free hfree, ?_, .inr ⟨rfl, hat.2⟩⟩
    rw [Slots.slot_arrive_free hfree]
  | isNext hstage hnext =>
    rw [h.arrive_eq hf (by simp [hstage])]
    refine ⟨h.serves.take hnext, .take hnext, ?_, .inl rfl⟩
    rw [Slots.slot_take_self]
    exact (Slot.isNext_iff.1 hnext).2
  | isAnswered hstage =>
    have hat := h.stage i f hf
    rw [IsAt, hstage] at hat
    rw [h.arrive_eq hf (by simp [hstage])]
    exact ⟨h.serves, .refl _ _ _, hat, .inl rfl⟩
  | isRunning hstage =>
    have hat := h.stage i f hf
    rw [IsAt, hstage] at hat
    rw [h.arrive_eq hf (by simp [hstage])]
    exact ⟨h.serves, .refl _ _ _, hat, .inl rfl⟩

/-- A turn goes on. -/
theorem goesOn {slots : Slots} {x y : Run} (htakes : Takes b a i f slots x)
    (hflights : a'.flights = a.flights.set i ⟨f.key, .running y⟩) (hslots : a'.slots = slots) :
    Orderly turns (arrive turns.length order i) done a' := by
  subst hslots
  obtain ⟨hserves, hspares, hholder, horder⟩ := h.takes hf htakes
  exact h.move hf hflights horder (.inl rfl) hserves hspares hholder

/-- A turn leaves. -/
theorem leaves {slots : Slots} {x : Run} {u : Turn} {halt : Option Halt}
    (htakes : Takes b a i f slots x)
    (hflights : a'.flights = a.flights.set i ⟨f.key, .finished u halt⟩)
    (hslots : a'.slots = slots.leave f.key) :
    Orderly turns (arrive turns.length order i) (done ++ [i]) a' := by
  obtain ⟨hserves, hspares, hholder, horder⟩ := h.takes hf htakes
  refine h.move hf hflights horder (.inr rfl) ?_ ?_ (List.mem_append_right _ (by simp))
  · rw [hslots]
    exact hserves.leave hholder (h.isOf_key hf) (h.not_isOf hf)
  · rw [hslots]
    exact hspares.trans (.leave hholder (hserves.pending_of_holder hholder))

end Moves

/-- Turns in flight remain orderly when one of them takes a step. -/
theorem step (h : Orderly turns order done a) (b : Backend σ) (pace : Pace) (i : Nat) :
    ∃ done', Orderly turns (arrive turns.length order i) done' (a.step b pace i) := by
  cases hf : a.flights[i]? with
  | none =>
    have hi : ¬i < turns.length := by
      rw [← h.length]
      exact Nat.not_lt.2 (List.getElem?_eq_none_iff.1 hf)
    rw [arrive, if_neg fun e => hi e.1, step_none hf]
    exact ⟨done, h⟩
  | some f =>
    cases step_moves b pace hf with
    | stays hready heq =>
      have hstage : ∀ t, f.stage ≠ .submitted t := by
        intro t hstage
        simp [isReady, hf, hstage] at hready
      rw [h.arrive_eq hf hstage, heq]
      exact ⟨done, h⟩
    | waits hstage htaken hflights hslots =>
      rw [h.arrive_eq_concat hf hstage]
      exact ⟨done, h.waits hf hstage htaken hflights hslots⟩
    | goesOn htakes hadvance hflights hslots => exact ⟨done, h.goesOn hf htakes hflights hslots⟩
    | leaves htakes hflights hslots => exact ⟨_, h.leaves hf htakes hflights hslots⟩

/-- Turns in flight remain orderly whatever steps they take. -/
theorem follow (h : Orderly turns order done a) (b : Backend σ) (pace : Pace) (schedule : List Nat) :
    ∃ done', Orderly turns (schedule.foldl (arrive turns.length) order) done'
      (a.follow b pace schedule) := by
  induction schedule generalizing order done a with
  | nil => exact ⟨done, h⟩
  | cons i schedule ih =>
    obtain ⟨done', h'⟩ := h.step b pace i
    exact ih h'

end Orderly

end Arena

end TextAdventure
