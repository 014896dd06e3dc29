import TextAdventure.Proofs.Game.Orderly

/-!
# Turns in flight come to their ends

The steps that turns in flight have before them are bounded (`Flight.AllWithin`), and the bound goes
down with each step that brings a turn on. A game goes on with the turns that are ready, in the order
in which they became ready, and misses none of them (`Arena.Awaits`). So all turns come to their
ends, whatever the store answers: those that are played together (`Game.exists_playTogether_eq`), and
those that have taken any other steps before (`Game.submit_exists_isDone`).
-/

namespace TextAdventure

namespace Flight

/-- Whether a turn has left. -/
def isFinished (f : Flight) : Bool :=
  match f.stage with
  | .finished .. => true
  | _ => false

/-- A turn has at most a number of steps before it, if each of them brings it on. -/
def Within (f : Flight) (n : Nat) : Prop :=
  match f.stage with
  | .submitted _ => 32 ≤ n
  | .waiting _ => 31 ≤ n
  | .running x => (∃ q k, x = .ask q k) ∧ x.Asks Query.InsertsPlayer n
  | .finished .. => True

/-- Some turns have at most a number of steps before them. -/
def AllWithin : List Flight → Nat → Prop
  | [], _ => True
  | f :: flights, n => ∃ k m, k + m = n ∧ f.Within k ∧ AllWithin flights m

/-- One of the turns is brought on. -/
theorem AllWithin.set {flights : List Flight} {n : Nat} (h : AllWithin flights n) {i : Nat}
    {f : Flight} (hf : flights[i]? = some f) :
    ∃ k m, k + m = n ∧ f.Within k ∧
      ∀ f' k', f'.Within k' → AllWithin (flights.set i f') (k' + m) := by
  induction flights generalizing n i with
  | nil => cases hf
  | cons g flights ih =>
    obtain ⟨k, m, rfl, hg, hflights⟩ := h
    cases i with
    | zero =>
      obtain rfl := Option.some.inj hf
      exact ⟨k, m, rfl, hg, fun f' k' hf' => ⟨k', m, rfl, hf', hflights⟩⟩
    | succ i =>
      obtain ⟨k', m', rfl, hf', hset⟩ := ih hflights hf
      refine ⟨k', k + m', by omega, hf', fun f'' k'' hf'' => ?_⟩
      exact ⟨k, k'' + m', by omega, hg, hset f'' k'' hf''⟩

theorem AllWithin.submitted (turns : List Turn) :
    AllWithin (turns.map fun t => { key := t.key, stage := .submitted t }) (32 * turns.length) := by
  induction turns with
  | nil => trivial
  | cons t turns ih => exact ⟨32, 32 * turns.length, by simp; omega, Nat.le_refl _, ih⟩

end Flight

namespace Arena

variable {σ : Type}

/-- Whether all turns have left. -/
def isDone (a : Arena σ) : Bool := a.flights.all (·.isFinished)

/-- A turn that can go on asks less than it has steps before it. -/
theorem Takes.exists_asks {b : Backend σ} {a : Arena σ} {i n : Nat} {f : Flight} {slots : Slots}
    {x : Run} (h : Takes b a i f slots x) (hf : f.Within n) :
    ∃ m, m < n ∧ x.Asks Query.InsertsPlayer m := by
  unfold Flight.Within at hf
  cases h with
  | arrives hstage =>
    rw [hstage] at hf
    have hf : 32 ≤ n := hf
    exact ⟨30, by omega, a.setting.play_asks _⟩
  | isNext hstage =>
    rw [hstage] at hf
    have hf : 31 ≤ n := hf
    exact ⟨30, by omega, a.setting.play_asks _⟩
  | isAnswered hstage =>
    rw [hstage] at hf
    obtain ⟨-, hasks⟩ := hf
    cases n with
    | zero => exact hasks.elim
    | succ n => exact ⟨n, Nat.lt_succ_self n, hasks.2 _⟩
  | isRunning hstage hx =>
    rw [hstage] at hf
    obtain ⟨⟨q, k, rfl⟩, -⟩ := hf
    exact absurd rfl (hx q k)

/-- A step does not bring the bound up, and if it brings a turn on, it brings the bound down. -/
theorem within_step (b : Backend σ) (pace : Pace) {a : Arena σ} (i : Nat) {n : Nat}
    (h : Flight.AllWithin a.flights n) :
    ∃ m ≤ n, Flight.AllWithin (a.step b pace i).flights m ∧ (a.isReady i = true → m < n) := by
  cases hf : a.flights[i]? with
  | none =>
    rw [step_none hf]
    exact ⟨n, Nat.le_refl n, h, by simp [isReady, hf]⟩
  | some f =>
    obtain ⟨k, m, rfl, hk, hset⟩ := h.set hf
    cases step_moves b pace hf with
    | stays hready heq =>
      rw [heq, hready]
      exact ⟨_, Nat.le_refl _, h, by simp⟩
    | waits hstage htaken hflights hslots =>
      have hk : 32 ≤ k := by
        unfold Flight.Within at hk
        rwa [hstage] at hk
      rw [hflights]
      exact ⟨31 + m, by omega, hset _ 31 (Nat.le_refl 31), fun _ => by omega⟩
    | goesOn htakes hadvance hflights hslots =>
      obtain ⟨l, hl, hasks⟩ := htakes.exists_asks hk
      have hasks' := hasks.advance
      rw [hadvance] at hasks'
      rw [hflights]
      exact ⟨l + m, by omega, hset _ l ⟨⟨_, _, rfl⟩, hasks'⟩, fun _ => by omega⟩
    | leaves htakes hflights hslots =>
      obtain ⟨l, hl, -⟩ := htakes.exists_asks hk
      rw [hflights]
      exact ⟨l + m, by omega, hset _ l trivial, fun _ => by omega⟩

/-- What has come of a turn that has left. -/
def outcome? (a : Arena σ) (i : Nat) : Option (Turn × Option Halt) :=
  match (a.flights[i]?).map Flight.stage with
  | some (.finished t halt) => some (t, halt)
  | _ => none

/-- The turns that are ready are listed, each of them once. -/
structure Awaits (a : Arena σ) (ready : List Nat) : Prop where
  nodup : ready.Nodup
  mem_iff : ∀ i, i ∈ ready ↔ a.isReady i = true

/-- The turn that has taken a step goes out of the list, and those that it has made ready come in. -/
theorem Awaits.next {a a' : Arena σ} {i : Nat} {ready made : List Nat} (h : Awaits a (i :: ready))
    (hmade : made.Nodup) (hself : a'.isReady i = true ↔ i ∈ made)
    (hother : ∀ j ≠ i, a'.isReady j = true ↔ a.isReady j = true ∨ j ∈ made)
    (hnew : ∀ j ≠ i, j ∈ made → a.isReady j = false) : Awaits a' (ready ++ made) := by
  obtain ⟨hi, hready⟩ := List.nodup_cons.1 h.nodup
  constructor
  · rw [List.nodup_append]
    refine ⟨hready, hmade, fun j hj k hk e => ?_⟩
    subst e
    have hne : j ≠ i := by
      rintro rfl
      exact hi hj
    have hwas := (h.mem_iff j).1 (List.mem_cons_of_mem i hj)
    rw [hnew j hne hk] at hwas
    cases hwas
  · intro j
    rw [List.mem_append]
    by_cases hne : j = i
    · subst hne
      rw [hself]
      exact or_iff_right hi
    · rw [hother j hne, ← h.mem_iff j, List.mem_cons]
      simp [hne]

namespace Orderly

variable {b : Backend σ} {turns : List Turn} {order done : List Nat} {a : Arena σ}

/-- While a turn can go on, no other turn of the player is the next one. -/
theorem isNext_eq_false (h : Orderly turns order done a) {i : Nat} {f : Flight} {slots : Slots}
    {x : Run} (hf : a.flights[i]? = some f) (htakes : Takes b a i f slots x) :
    ∀ j ≠ i, (a.slots.slot f.key).isNext j = false := by
  intro j hne
  cases htakes with
  | arrives hstage hfree => simp [Slot.isNext, (Slot.isFree_iff.1 hfree).2]
  | isNext hstage hnext => simp [Slot.isNext, (Slot.isNext_iff.1 hnext).2, hne.symm]
  | isAnswered hstage =>
    have hat := h.stage i f hf
    rw [IsAt, hstage] at hat
    exact Slot.isNext_of_holder hat
  | isRunning hstage =>
    have hat := h.stage i f hf
    rw [IsAt, hstage] at hat
    exact Slot.isNext_of_holder hat

/-- A turn of another player is as ready as before. -/
theorem isReady_eq {a' : Arena σ} {j : Nat} (hj : a'.flights[j]? = a.flights[j]?)
    (hnext : ∀ f t, a.flights[j]? = some f → f.stage = .waiting t →
      (a'.slots.slot f.key).isNext j = (a.slots.slot f.key).isNext j) :
    a'.isReady j = a.isReady j := by
  cases hf : a.flights[j]? with
  | none => simp [isReady, hj, hf]
  | some f =>
    cases hstage : f.stage with
    | waiting t => simp [isReady, hj, hf, hstage, hnext f t hf hstage]
    | _ => simp [isReady, hj, hf, hstage]

section Step

variable {a' : Arena σ} {i : Nat} {f : Flight} {ready : List Nat} (hawaits : Awaits a (i :: ready))
  (hf : a.flights[i]? = some f)
include hawaits hf

/-- A turn that begins to wait goes out of the list. -/
theorem awaits_waits {t : Turn} (h : Orderly turns order done a) (hstage : f.stage = .submitted t)
    (htaken : (a.slots.slot f.key).isFree = false)
    (hflights : a'.flights = a.flights.set i ⟨f.key, .waiting t⟩)
    (hslots : a'.slots = a.slots.arrive f.key i) : Awaits a' (ready ++ a'.madeReady i) := by
  have hi : i < a.flights.length := (List.getElem?_eq_some_iff.1 hf).1
  have hself : a'.flights[i]? = some ⟨f.key, .waiting t⟩ := by
    rw [hflights, List.getElem?_set_self hi]
  have hmade : a'.madeReady i = [] := by
    simp only [madeReady, hself]
  have hslot := Slots.slot_arrive_taken (i := i) htaken
  rw [← hslots] at hslot
  -- somebody comes before the turn
  have hnext : ∀ j, (a'.slots.slot f.key).isNext j = (a.slots.slot f.key).isNext j := by
    intro j
    rw [hslot]
    cases hwaiting : (a.slots.slot f.key).waiting with
    | nil =>
      have hholder : (a.slots.slot f.key).holder.isNone = false := by
        simpa [Slot.isFree, hwaiting] using htaken
      simp [Slot.isNext, hholder]
    | cons k rest => simp [Slot.isNext, hwaiting]
  rw [hmade]
  refine hawaits.next List.nodup_nil ?_ (fun j hne => ?_) fun j _ hj => absurd hj List.not_mem_nil
  · suffices hbehind : (a.slots.slot f.key).isNext i = false by
      simp [isReady, hself, hnext, hbehind]
    -- the turn does not wait yet
    refine Bool.eq_false_iff.2 fun hi => ?_
    have hhead := (Slot.isNext_iff.1 hi).2
    obtain ⟨f', t', hf', -, hstage'⟩ := h.exists_waiting (List.mem_of_mem_head? hhead)
    obtain rfl := Option.some.inj (hf.symm.trans hf')
    rw [hstage] at hstage'
    cases hstage'
  · have hj : a'.flights[j]? = a.flights[j]? := by
      rw [hflights, List.getElem?_set_ne hne.symm]
    rw [isReady_eq hj fun f' t' hf' hstage' => ?_]
    · simp
    · by_cases hkey : f'.key = f.key
      · rw [hkey, hnext j]
      · rw [hslots, Slots.slot_arrive_of_ne hkey]

/-- A turn that goes on remains on the list. -/
theorem awaits_goesOn {slots : Slots} {x y : Run} (h : Orderly turns order done a)
    (htakes : Takes b a i f slots x)
    (hflights : a'.flights = a.flights.set i ⟨f.key, .running y⟩)
    (hslots : a'.slots = slots) : Awaits a' (ready ++ a'.madeReady i) := by
  have hi : i < a.flights.length := (List.getElem?_eq_some_iff.1 hf).1
  have hself : a'.flights[i]? = some ⟨f.key, .running y⟩ := by
    rw [hflights, List.getElem?_set_self hi]
  have hmade : a'.madeReady i = [i] := by
    simp only [madeReady, hself]
  obtain ⟨-, hspares, hholder, -⟩ := h.takes hf htakes
  rw [hmade]
  refine hawaits.next (by simp) ?_ (fun j hne => ?_) fun j hne hj =>
    absurd (List.mem_singleton.1 hj) hne
  · simp [isReady, hself]
  · have hj : a'.flights[j]? = a.flights[j]? := by
      rw [hflights, List.getElem?_set_ne hne.symm]
    rw [isReady_eq hj fun f' t' hf' hstage' => ?_]
    · simp [hne]
    · by_cases hkey : f'.key = f.key
      · rw [hkey, h.isNext_eq_false hf htakes j hne, hslots]
        exact Slot.isNext_of_holder hholder
      · rw [hslots, hspares.slot _ hkey]

/-- When a turn leaves, the next one of its player comes into the list. -/
theorem awaits_leaves {slots : Slots} {x : Run} {u : Turn} {halt : Option Halt}
    {order' done' : List Nat} (h : Orderly turns order done a) (h' : Orderly turns order' done' a')
    (htakes : Takes b a i f slots x)
    (hflights : a'.flights = a.flights.set i ⟨f.key, .finished u halt⟩)
    (hslots : a'.slots = slots.leave f.key) : Awaits a' (ready ++ a'.madeReady i) := by
  have hi : i < a.flights.length := (List.getElem?_eq_some_iff.1 hf).1
  have hself : a'.flights[i]? = some ⟨f.key, .finished u halt⟩ := by
    rw [hflights, List.getElem?_set_self hi]
  have hother : ∀ j ≠ i, a'.flights[j]? = a.flights[j]? := by
    intro j hne
    rw [hflights, List.getElem?_set_ne hne.symm]
  have hmade : a'.madeReady i = (a'.slots.slot f.key).waiting.head?.toList := by
    simp only [madeReady, hself]
  obtain ⟨hserves, hspares, hholder, -⟩ := h.takes hf htakes
  have hpending := hserves.pending_of_holder hholder
  have hnone : (a'.slots.slot f.key).holder = none := by
    rw [hslots, Slots.slot_leave_self hpending, Slot.leave]
  have hwaits : ∀ j ∈ a'.madeReady i, ∃ f' t, a'.flights[j]? = some f' ∧ f'.key = f.key ∧
      f'.stage = .waiting t := by
    intro j hj
    rw [hmade, Option.mem_toList] at hj
    exact h'.exists_waiting (List.mem_of_mem_head? hj)
  have hnext : ∀ j, (a'.slots.slot f.key).isNext j = true ↔ j ∈ a'.madeReady i := by
    intro j
    simp [hmade, Slot.isNext, hnone, Option.mem_toList]
  have hbehind := h.isNext_eq_false hf htakes
  refine hawaits.next ?_ ?_ (fun j hne => ?_) fun j hne hj => ?_
  · rw [hmade]
    cases (a'.slots.slot f.key).waiting.head? <;> simp
  · suffices hnew : i ∉ a'.madeReady i by
      simp [isReady, hself, hnew]
    intro hi
    obtain ⟨f', t, hf', -, hstage⟩ := hwaits i hi
    obtain rfl := Option.some.inj (hself.symm.trans hf')
    cases hstage
  · -- of the turns that were not ready, only the next one of the player is so now
    by_cases hj : j ∈ a'.madeReady i
    · obtain ⟨f', t, hf', hkey, hstage⟩ := hwaits j hj
      simp [isReady, hf', hstage, hkey, hnext, hj]
    · rw [isReady_eq (hother j hne) fun f' t hf' hstage => ?_]
      · simp [hj]
      · by_cases hkey : f'.key = f.key
        · rw [hkey, hbehind j hne, Bool.eq_false_iff]
          exact fun e => hj ((hnext j).1 e)
        · rw [hslots, Slots.slot_leave_of_ne hkey, hspares.slot _ hkey]
  · obtain ⟨f', t, hf', hkey, hstage⟩ := hwaits j hj
    rw [hother j hne] at hf'
    simp [isReady, hf', hstage, hkey, hbehind j hne]

end Step

/-- The list of the turns that are ready is kept up from step to step. -/
theorem awaits_step (h : Orderly turns order done a) (b : Backend σ) (pace : Pace) {i : Nat}
    {ready : List Nat} (hawaits : Awaits a (i :: ready)) :
    Awaits (a.step b pace i) (ready ++ (a.step b pace i).madeReady i) := by
  have hready := (hawaits.mem_iff i).1 List.mem_cons_self
  obtain ⟨done', h'⟩ := h.step b pace i
  cases hf : a.flights[i]? with
  | none => simp [isReady, hf] at hready
  | some f =>
    cases step_moves b pace hf with
    | stays hstays =>
      rw [hready] at hstays
      cases hstays
    | waits hstage htaken hflights hslots =>
      exact awaits_waits hawaits hf h hstage htaken hflights hslots
    | goesOn htakes hadvance hflights hslots =>
      exact awaits_goesOn hawaits hf h htakes hflights hslots
    | leaves htakes hflights hslots => exact awaits_leaves hawaits hf h h' htakes hflights hslots

/-- When no turn is ready, all turns have left. -/
theorem isDone_of_awaits_nil (h : Orderly turns order done a) (hawaits : Awaits a []) :
    a.isDone = true := by
  have hidle : ∀ i, a.isReady i = false := fun i =>
    Bool.eq_false_iff.2 fun hi => List.not_mem_nil ((hawaits.mem_iff i).2 hi)
  refine List.all_eq_true.2 fun f hmem => ?_
  obtain ⟨i, hf⟩ := List.getElem?_of_mem hmem
  have hat := h.stage i f hf
  have hi := hidle i
  unfold IsAt at hat
  split at hat
  · next hstage => simp [isReady, hf, hstage] at hi
  · cases hholder : (a.slots.slot f.key).holder with
    | some j =>
      obtain ⟨x, hflight⟩ := h.exists_running hholder
      have hj := hidle j
      simp [isReady, hflight] at hj
    | none =>
      -- the first of those who wait is ready
      obtain ⟨j, rest, hwaiting⟩ := List.exists_cons_of_ne_nil (List.ne_nil_of_mem hat.2)
      obtain ⟨f', t, hf', hkey, hstage⟩ :=
        h.exists_waiting (hwaiting ▸ List.mem_cons_self : j ∈ (a.slots.slot f.key).waiting)
      have hj := hidle j
      simp [isReady, hf', hstage, hkey, Slot.isNext, hholder, hwaiting] at hj
  · next hstage => simp [isReady, hf, hstage] at hi
  · next hstage => simp [Flight.isFinished, hstage]

/-- A game goes on until all turns have left. -/
theorem runReady_isDone (h : Orderly turns order done a) (b : Backend σ) (pace : Pace) {m n : Nat}
    {ready : List Nat} (hawaits : Awaits a ready) (hwithin : Flight.AllWithin a.flights m)
    (hmn : m ≤ n) : (a.runReady b pace n ready).isDone = true := by
  induction n generalizing a order done ready m with
  | zero =>
    cases ready with
    | nil => exact h.isDone_of_awaits_nil hawaits
    | cons i ready =>
      have hready := (hawaits.mem_iff i).1 List.mem_cons_self
      obtain ⟨k, -, -, hless⟩ := within_step b pace i hwithin
      have := hless hready
      omega
  | succ n ih =>
    cases ready with
    | nil => exact h.isDone_of_awaits_nil hawaits
    | cons i ready =>
      have hready := (hawaits.mem_iff i).1 List.mem_cons_self
      obtain ⟨k, -, hk, hless⟩ := within_step b pace i hwithin
      obtain ⟨done', h'⟩ := h.step b pace i
      have := hless hready
      exact ih h' (h.awaits_step b pace hawaits) hk (by omega)

/-- Whatever steps have been taken, all turns can be brought to their ends. -/
theorem exists_isDone (h : Orderly turns order done a) (b : Backend σ) (pace : Pace) {n : Nat}
    (hwithin : Flight.AllWithin a.flights n) :
    ∃ more, (a.follow b pace more).isDone = true := by
  -- the game may go on from here with all turns that are ready
  let ready := (List.range a.flights.length).filter fun i => a.isReady i
  have hawaits : Awaits a ready := by
    refine ⟨List.nodup_range.filter _, fun i => ?_⟩
    rw [List.mem_filter, List.mem_range]
    refine and_iff_right_of_imp fun hready => ?_
    cases hf : a.flights[i]? with
    | none => simp [isReady, hf] at hready
    | some f => exact (List.getElem?_eq_some_iff.1 hf).1
  obtain ⟨more, hmore⟩ := exists_follow_runReady b pace n ready a
  exact ⟨more, by rw [← hmore]; exact h.runReady_isDone b pace hawaits hwithin (Nat.le_refl n)⟩

end Orderly

theorem within_follow (b : Backend σ) (pace : Pace) (schedule : List Nat) {a : Arena σ} {n : Nat}
    (h : Flight.AllWithin a.flights n) :
    ∃ m, Flight.AllWithin (a.follow b pace schedule).flights m := by
  induction schedule generalizing a n with
  | nil => exact ⟨n, h⟩
  | cons i schedule ih =>
    obtain ⟨m, -, hm, -⟩ := within_step b pace i h
    exact ih hm

end Arena

namespace Game

variable {σ : Type} {g : Game σ}

/-- Turns that are submitted together can be brought to their ends, whatever steps they take. -/
theorem submit_exists_isDone (hg : g.IsIdle) (b : Backend σ) (pace : Pace) (turns : List Turn)
    (schedule : List Nat) :
    ∃ more, (((g.submit turns).follow b pace schedule).follow b pace more).isDone = true := by
  obtain ⟨m, hm⟩ := Arena.within_follow b pace schedule (a := g.submit turns)
    (Flight.AllWithin.submitted turns)
  obtain ⟨done, h⟩ := (Arena.Orderly.submit hg turns).follow b pace schedule
  exact h.exists_isDone b pace hm

/-- The way in which a game plays turns together is one of the orders of steps, and the steps that
it allows turns are enough for all of them to leave. -/
theorem exists_playTogether_eq (hg : g.IsIdle) (b : Backend σ) (pace : Pace) (turns : List Turn) :
    ∃ schedule, let a := (g.submit turns).follow b pace schedule
      a.isDone = true ∧
        (∀ i, (g.playTogether b pace turns).1.turns[i]? = a.outcome? i) ∧
        (g.playTogether b pace turns).1.trace = a.trace ∧
        (g.playTogether b pace turns).2 = { g with slots := a.slots, store := a.store } := by
  obtain ⟨schedule, hfollow⟩ := Arena.exists_follow_runReady b pace (maxSteps * turns.length)
    (List.range turns.length) (g.submit turns)
  have hawaits : (g.submit turns).Awaits (List.range turns.length) := by
    refine ⟨List.nodup_range, fun i => ?_⟩
    rw [List.mem_range]
    cases ht : turns[i]? with
    | none => simp [Arena.isReady, submit, List.getElem?_eq_none_iff.1 ht]
    | some t => simp [Arena.isReady, submit, (List.getElem?_eq_some_iff.1 ht).1]
  have hdone := (Arena.Orderly.submit hg turns).runReady_isDone b pace hawaits
    (Flight.AllWithin.submitted turns) (Nat.mul_le_mul_right _ (by decide : 32 ≤ maxSteps))
  refine ⟨schedule, ?_⟩
  rw [← hfollow]
  refine ⟨hdone, fun i => ?_, rfl, rfl⟩
  unfold Arena.outcome?
  refine (List.getElem?_map ..).trans ?_
  show Option.map _ (((g.submit turns).runReady b pace _ _).flights[i]?) = _
  generalize (g.submit turns).runReady b pace _ _ = a at hdone
  cases hf : a.flights[i]? with
  | none => rfl
  | some f =>
    have hfinished : f.isFinished = true := List.all_eq_true.1 hdone f (List.mem_of_getElem? hf)
    unfold Flight.isFinished at hfinished
    cases hstage : f.stage with
    | finished t halt => simp [hstage]
    | _ => simp [hstage] at hfinished

end Game

end TextAdventure
