import TextAdventure.Proofs.Game.Alone

/-!
# Steps of turns in flight

One step of a turn, stage by stage, and the steps that turns take in the order of a schedule
(`Arena.follow`). A turn that runs to its end at once does no more than one that takes all of its
steps with no other between them (`Arena.exists_follow_step`). What a step does to the turns and to
their slots is one of four things, whatever the store answers (`Arena.step_moves`).
-/

namespace TextAdventure

variable {σ : Type}

/-- The player and the map that a turn is of. -/
def Turn.key (t : Turn) : TurnKey := ⟨t.username, t.map⟩

/-- Turns that are submitted at the same time, before any of them has taken a step. -/
def Game.submit (g : Game σ) (turns : List Turn) : Arena σ :=
  { setting := g.setting, slots := g.slots, store := g.store
    flights := turns.map fun t => { key := t.key, stage := .submitted t }, trace := [] }

/-- The turns of requests to a game are at their beginning. -/
theorem Game.requests_start (g : Game σ) (requests : List (String × String × Option String)) :
    ∀ t ∈ requests.map fun r => g.turn r.1 r.2.1 r.2.2,
      ∃ line, t = .start line t.username t.map := by
  intro t ht
  obtain ⟨r, -, rfl⟩ := List.mem_map.1 ht
  exact ⟨r.1, rfl⟩

namespace Arena

variable {b : Backend σ} {pace : Pace} {a : Arena σ} {i : Nat} {f : Flight}

theorem step_none (hf : a.flights[i]? = none) : a.step b pace i = a := by
  simp only [step, hf]

section Present

variable (hf : a.flights[i]? = some f)
include hf

theorem step_free {t : Turn} (hstage : f.stage = .submitted t)
    (hfree : (a.slots.slot f.key).isFree = true) :
    a.step b pace i = { a with slots := a.slots.arrive f.key i }.begin b pace i f t := by
  simp only [step, hf, hstage, hfree, if_true]

theorem step_taken {t : Turn} (hstage : f.stage = .submitted t)
    (htaken : (a.slots.slot f.key).isFree = false) :
    a.step b pace i = { a with slots := a.slots.arrive f.key i }.setStage i f (.waiting t) := by
  simp only [step, hf, hstage, htaken, Bool.false_eq_true, if_false]

theorem step_next {t : Turn} (hstage : f.stage = .waiting t)
    (hnext : (a.slots.slot f.key).isNext i = true) :
    a.step b pace i = { a with slots := a.slots.take f.key }.begin b pace i f t := by
  simp only [step, hf, hstage, hnext, if_true]

theorem step_behind {t : Turn} (hstage : f.stage = .waiting t)
    (hbehind : (a.slots.slot f.key).isNext i = false) : a.step b pace i = a := by
  simp only [step, hf, hstage, hbehind, Bool.false_eq_true, if_false]

theorem step_ask {q : Query} {k : q.Answer → Run} (hstage : f.stage = .running (.ask q k)) :
    a.step b pace i =
      { a with store := (b.answer q a.store).2 }.settle i f (k (b.answer q a.store).1) := by
  simp only [step, hf, hstage]

theorem step_running {x : Run} (hstage : f.stage = .running x) (hx : ∀ q k, x ≠ .ask q k) :
    a.step b pace i = a.settle i f x := by
  simp only [step, hf, hstage]

theorem step_finished {t : Turn} {halt : Option Halt} (hstage : f.stage = .finished t halt) :
    a.step b pace i = a := by
  simp only [step, hf, hstage]

end Present

/-- A turn that goes on comes to a query. -/
theorem settle_ask {x : Run} {ns : List Note} {q : Query} {k : q.Answer → Run}
    (hadvance : x.advance = (ns, .ask q k)) :
    a.settle i f x =
      { a with
        flights := a.flights.set i ⟨f.key, .running (.ask q k)⟩
        trace := a.trace ++ ns.map (i, ·) } := by
  rw [settle, hadvance]
  rfl

/-- A turn that goes on comes to its end and leaves its slot. -/
theorem settle_done {x : Run} {ns : List Note} {u : Turn} {halt : Option Halt}
    (hadvance : x.advance = (ns, .done (u, halt))) :
    a.settle i f x =
      { a with
        flights := a.flights.set i ⟨f.key, .finished u halt⟩
        slots := a.slots.leave f.key
        trace := a.trace ++ ns.map (i, ·) } := by
  rw [settle, hadvance]
  rfl

/-- What the stage of a turn was does not matter when it goes on. -/
theorem settle_setStage (a : Arena σ) (i : Nat) (f : Flight) (stage : Stage) (x : Run) :
    (a.setStage i f stage).settle i { f with stage } x = a.settle i f x := by
  simp only [settle, setStage, List.set_set]

/-- Turns take their steps in the order of a schedule. -/
def follow (b : Backend σ) (pace : Pace) (a : Arena σ) (schedule : List Nat) : Arena σ :=
  schedule.foldl (fun a i => a.step b pace i) a

theorem follow_cons (b : Backend σ) (pace : Pace) (a : Arena σ) (i : Nat) (s : List Nat) :
    a.follow b pace (i :: s) = (a.step b pace i).follow b pace s := rfl

theorem follow_append (b : Backend σ) (pace : Pace) (a : Arena σ) (s t : List Nat) :
    a.follow b pace (s ++ t) = (a.follow b pace s).follow b pace t :=
  List.foldl_append

/-- A turn that takes its steps with no other between them runs out. -/
theorem exists_follow_runOut (b : Backend σ) (pace : Pace) (x : Run) (a : Arena σ) {i : Nat}
    (f : Flight) (hi : i < a.flights.length) :
    ∃ m, (a.settle i f x).follow b pace (List.replicate m i) = a.runOut b i f x := by
  induction x generalizing a f with
  | done y => exact ⟨0, rfl⟩
  | note ns x ih =>
    obtain ⟨m, hm⟩ := ih { a with trace := a.trace ++ ns.map (i, ·) } f hi
    refine ⟨m, ?_⟩
    rw [settle_note, hm]
    simp [runOut, Script.run, setStage]
  | ask q k ih =>
    obtain ⟨m, hm⟩ := ih (b.answer q a.store).1 { a with store := (b.answer q a.store).2 } f hi
    refine ⟨m + 1, ?_⟩
    have hflight : (a.settle i f (.ask q k)).flights[i]? =
        some { f with stage := .running (.ask q k) } := List.getElem?_set_self hi
    have hstep : (a.settle i f (.ask q k)).step b pace i =
        { a with store := (b.answer q a.store).2 }.settle i f (k (b.answer q a.store).1) := by
      rw [step_ask hflight rfl, ← settle_setStage _ i f (.running (.ask q k))]
      simp [settle, Script.advance, setStage]
    rw [List.replicate_succ, follow_cons, hstep, hm]
    rfl

/-- A step of a turn is one or more steps of the yielding pace. -/
theorem exists_follow_step (b : Backend σ) (pace : Pace) (a : Arena σ) (i : Nat) :
    ∃ m, a.step b pace i = a.follow b .yielding (List.replicate (m + 1) i) := by
  cases pace with
  | yielding => exact ⟨0, rfl⟩
  | straight =>
    cases hf : a.flights[i]? with
    | none => exact ⟨0, (step_none hf).trans (step_none hf).symm⟩
    | some f =>
      have hi : i < a.flights.length := (List.getElem?_eq_some_iff.1 hf).1
      cases hstage : f.stage with
      | submitted t =>
        cases hfree : (a.slots.slot f.key).isFree with
        | true =>
          obtain ⟨m, hm⟩ := exists_follow_runOut b .yielding (a.setting.play t)
            { a with slots := a.slots.arrive f.key i } f hi
          refine ⟨m, ?_⟩
          rw [step_free hf hstage hfree, List.replicate_succ, follow_cons,
            step_free hf hstage hfree]
          exact hm.symm
        | false => exact ⟨0, (step_taken hf hstage hfree).trans (step_taken hf hstage hfree).symm⟩
      | waiting t =>
        cases hnext : (a.slots.slot f.key).isNext i with
        | true =>
          obtain ⟨m, hm⟩ := exists_follow_runOut b .yielding (a.setting.play t)
            { a with slots := a.slots.take f.key } f hi
          refine ⟨m, ?_⟩
          rw [step_next hf hstage hnext, List.replicate_succ, follow_cons,
            step_next hf hstage hnext]
          exact hm.symm
        | false => exact ⟨0, (step_behind hf hstage hnext).trans (step_behind hf hstage hnext).symm⟩
      | running x => exact ⟨0, by cases x <;> simp [follow, step, hf, hstage]⟩
      | finished t halt => exact ⟨0, (step_finished hf hstage).trans (step_finished hf hstage).symm⟩

/-! ### What a step does to the turns and their slots -/

/-- Whether a turn can take a step that brings it on. -/
def isReady (a : Arena σ) (i : Nat) : Bool :=
  match a.flights[i]? with
  | none => false
  | some f =>
    match f.stage with
    | .submitted _ | .running _ => true
    | .waiting _ => (a.slots.slot f.key).isNext i
    | .finished .. => false

/-- A turn has its slot, and goes on with a script. -/
inductive Takes (b : Backend σ) (a : Arena σ) (i : Nat) (f : Flight) : Slots → Run → Prop
  | arrives {t : Turn} (hstage : f.stage = .submitted t)
      (hfree : (a.slots.slot f.key).isFree = true) :
      Takes b a i f (a.slots.arrive f.key i) (a.setting.play t)
  | isNext {t : Turn} (hstage : f.stage = .waiting t)
      (hnext : (a.slots.slot f.key).isNext i = true) :
      Takes b a i f (a.slots.take f.key) (a.setting.play t)
  | isAnswered {q : Query} {k : q.Answer → Run} (hstage : f.stage = .running (.ask q k)) :
      Takes b a i f a.slots (k (b.answer q a.store).1)
  | isRunning {x : Run} (hstage : f.stage = .running x) (hx : ∀ q k, x ≠ .ask q k) :
      Takes b a i f a.slots x

theorem Takes.not_finished {slots : Slots} {x : Run} (h : Takes b a i f slots x) (u : Turn)
    (halt : Option Halt) : f.stage ≠ .finished u halt := by
  cases h <;> simp_all

/-- What a step of a turn does to the turns and to their slots: nothing, or the turn begins to wait,
or it goes on to a query, or it leaves. -/
inductive Moves (b : Backend σ) (i : Nat) (f : Flight) (a a' : Arena σ) : Prop
  | stays (hready : a.isReady i = false) (heq : a' = a)
  | waits {t : Turn} (hstage : f.stage = .submitted t)
      (htaken : (a.slots.slot f.key).isFree = false)
      (hflights : a'.flights = a.flights.set i ⟨f.key, .waiting t⟩)
      (hslots : a'.slots = a.slots.arrive f.key i)
  | goesOn {slots : Slots} {x : Run} {q : Query} {k : q.Answer → Run}
      (htakes : Takes b a i f slots x) (hadvance : x.advance.2 = .ask q k)
      (hflights : a'.flights = a.flights.set i ⟨f.key, .running (.ask q k)⟩)
      (hslots : a'.slots = slots)
  | leaves {slots : Slots} {x : Run} {u : Turn} {halt : Option Halt}
      (htakes : Takes b a i f slots x)
      (hflights : a'.flights = a.flights.set i ⟨f.key, .finished u halt⟩)
      (hslots : a'.slots = slots.leave f.key)

theorem Takes.settle {a' : Arena σ} {x : Run} (h : Takes b a i f a'.slots x)
    (hflights : a'.flights = a.flights) : Moves b i f a (a'.settle i f x) := by
  have hset : ∀ stage, a'.flights.set i { f with stage } = a.flights.set i ⟨f.key, stage⟩ := by
    intro stage
    rw [hflights]
  rcases x.advance_cases with ⟨ns, ⟨u, halt⟩, hadvance⟩ | ⟨ns, q, k, hadvance⟩
  · rw [settle_done hadvance]
    exact .leaves h (hset _) rfl
  · rw [settle_ask hadvance]
    exact .goesOn h (congrArg Prod.snd hadvance) (hset _) rfl

theorem Takes.begin {a' : Arena σ} {t : Turn} (h : Takes b a i f a'.slots (a'.setting.play t))
    (hflights : a'.flights = a.flights) : Moves b i f a (a'.begin b pace i f t) := by
  cases pace with
  | yielding => exact h.settle hflights
  | straight =>
    let played := ((a'.setting.play t).run b a'.store).1
    have hset : (a'.runOut b i f (a'.setting.play t)).flights =
        a.flights.set i ⟨f.key, .finished played.1 played.2⟩ := by
      rw [← hflights]
      rfl
    exact .leaves h hset rfl

theorem step_moves (b : Backend σ) (pace : Pace) (hf : a.flights[i]? = some f) :
    Moves b i f a (a.step b pace i) := by
  cases hstage : f.stage with
  | submitted t =>
    cases hfree : (a.slots.slot f.key).isFree with
    | true =>
      rw [step_free hf hstage hfree]
      exact Takes.begin (.arrives hstage hfree) rfl
    | false =>
      rw [step_taken hf hstage hfree]
      exact .waits hstage hfree rfl rfl
  | waiting t =>
    cases hnext : (a.slots.slot f.key).isNext i with
    | true =>
      rw [step_next hf hstage hnext]
      exact Takes.begin (.isNext hstage hnext) rfl
    | false => exact .stays (by simp [isReady, hf, hstage, hnext]) (step_behind hf hstage hnext)
  | running x =>
    cases x with
    | ask q k =>
      rw [step_ask hf hstage]
      exact Takes.settle (.isAnswered hstage) rfl
    | done y =>
      rw [step_running hf hstage (by simp)]
      exact Takes.settle (.isRunning hstage (by simp)) rfl
    | note ns x =>
      rw [step_running hf hstage (by simp)]
      exact Takes.settle (.isRunning hstage (by simp)) rfl
  | finished t halt => exact .stays (by simp [isReady, hf, hstage]) (step_finished hf hstage)

/-- The order in which a game goes on is one of the schedules. -/
theorem exists_follow_runReady (b : Backend σ) (pace : Pace) (n : Nat) (ready : List Nat)
    (a : Arena σ) : ∃ schedule, a.runReady b pace n ready = a.follow b pace schedule := by
  induction n generalizing ready a with
  | zero => exact ⟨[], rfl⟩
  | succ n ih =>
    cases ready with
    | nil => exact ⟨[], rfl⟩
    | cons i ready =>
      obtain ⟨schedule, h⟩ := ih (ready ++ (a.step b pace i).madeReady i) (a.step b pace i)
      exact ⟨i :: schedule, h⟩

end Arena

end TextAdventure
