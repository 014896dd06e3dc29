import TextAdventure.Proofs.Game.Orderly

/-!
# How turns in flight conduct themselves

What turns in flight do to a store, whatever steps they take. A turn in progress relies on what it
knows of its own player, which the turns of other players leave alone, and guarantees that each of
its queries does to the store only what a turn may do (`Conduct`). Turns of one player never run at
the same time, so in every interleaving each step of a turn does what that turn may do
(`Conduct.follow`).
-/

namespace TextAdventure

variable {σ : Type}

/-- How turns over one store conduct themselves. -/
structure Conduct (b : Backend σ) (s : Setting) where
  /-- The store is sound. -/
  Sound : σ → Prop
  /-- A turn has come to a script, and knows that this store fits it. -/
  Knows : Turn → Run → σ → Prop
  /-- What a turn may do to a store. -/
  Does : Turn → σ → σ → Prop
  refl : ∀ t st, Does t st st
  trans : ∀ {t st st' st''}, Does t st st' → Does t st' st'' → Does t st st''
  begins : ∀ (line : String) (key : TurnKey) (st : σ),
    Knows (.start line key.username key.map) (s.play (.start line key.username key.map)) st
  noted : ∀ {t ns x st}, Knows t (.note ns x) st → Knows t x st
  answered : ∀ {t q k st}, Sound st → Knows t (.ask q k) st →
    Sound (b.answer q st).2 ∧ Knows t (k (b.answer q st).1) (b.answer q st).2 ∧
      Does t st (b.answer q st).2
  /-- What a turn does leaves alone what the turns of other players know. -/
  apart : ∀ {t t' x st st'}, t.key ≠ t'.key → Knows t x st → Does t' st st' → Knows t x st'

namespace Conduct

variable {b : Backend σ} {s : Setting} (c : Conduct b s)

/-- A turn that goes on to its next query knows what it knew. -/
theorem advance {t : Turn} {x : Run} {st : σ} (h : c.Knows t x st) : c.Knows t x.advance.2 st := by
  induction x with
  | done y => exact h
  | note ns x ih => exact ih (c.noted h)
  | ask q k => exact h

/-- What a step of the turn with some number may do to a store. -/
def Steps (turns : List Turn) (i : Nat) (st st' : σ) : Prop :=
  st' = st ∨ ∃ t, turns[i]? = some t ∧ c.Does t st st'

theorem steps_trans {turns : List Turn} {i : Nat} {st st' st'' : σ} (h : c.Steps turns i st st')
    (h' : c.Steps turns i st' st'') : c.Steps turns i st st'' := by
  obtain rfl | ⟨t, ht, hdoes⟩ := h
  · exact h'
  · obtain rfl | ⟨t', ht', hdoes'⟩ := h'
    · exact .inr ⟨t, ht, hdoes⟩
    · obtain rfl := Option.some.inj (ht.symm.trans ht')
      exact .inr ⟨t, ht, c.trans hdoes hdoes'⟩

end Conduct

namespace Arena

variable {b : Backend σ} {s : Setting} {a : Arena σ} {turns : List Turn} {order done : List Nat}
  {i : Nat} {f : Flight}

/-- Only the answer to a query changes the store, and the setting stays. -/
theorem kept_settle (a : Arena σ) (i : Nat) (f : Flight) (x : Run) :
    (a.settle i f x).setting = a.setting ∧ (a.settle i f x).store = a.store := by
  rcases x.advance_cases with ⟨ns, ⟨u, halt⟩, hadvance⟩ | ⟨ns, q, k, hadvance⟩
  · rw [settle_done hadvance]
    exact ⟨rfl, rfl⟩
  · rw [settle_ask hadvance]
    exact ⟨rfl, rfl⟩

theorem kept_step_ask (hf : a.flights[i]? = some f) {q : Query} {k : q.Answer → Run}
    (hstage : f.stage = .running (.ask q k)) :
    (a.step b .yielding i).setting = a.setting ∧
      (a.step b .yielding i).store = (b.answer q a.store).2 := by
  rw [step_ask hf hstage]
  exact kept_settle _ i f _

theorem kept_step (hf : a.flights[i]? = some f) (hstage : ∀ q k, f.stage ≠ .running (.ask q k)) :
    (a.step b .yielding i).setting = a.setting ∧ (a.step b .yielding i).store = a.store := by
  cases hcase : f.stage with
  | submitted t =>
    cases hfree : (a.slots.slot f.key).isFree with
    | true =>
      rw [step_free hf hcase hfree]
      exact kept_settle _ i f _
    | false =>
      rw [step_taken hf hcase hfree]
      exact ⟨rfl, rfl⟩
  | waiting t =>
    cases hnext : (a.slots.slot f.key).isNext i with
    | true =>
      rw [step_next hf hcase hnext]
      exact kept_settle _ i f _
    | false =>
      rw [step_behind hf hcase hnext]
      exact ⟨rfl, rfl⟩
  | running x =>
    rw [step_running hf hcase fun q k hx => hstage q k (by rw [hcase, hx])]
    exact kept_settle a i f x
  | finished t halt =>
    rw [step_finished hf hcase]
    exact ⟨rfl, rfl⟩

namespace Orderly

/-- A turn in progress is of another player than one that goes on. -/
theorem key_ne (h : Orderly turns order done a) (hf : a.flights[i]? = some f) {slots : Slots}
    {x y : Run} (htakes : Takes b a i f slots x) {j : Nat} {g : Flight}
    (hg : a.flights[j]? = some g) (hrunning : g.stage = .running y) (hne : j ≠ i) :
    g.key ≠ f.key := by
  intro hkey
  obtain ⟨-, hspares, hholder, -⟩ := h.takes hf htakes
  have hat := h.stage j g hg
  rw [IsAt, hrunning, hkey] at hat
  -- both would hold the slot
  have hboth := (hspares.holder j hne hat).symm.trans hholder
  exact hne (Option.some.inj hboth)

end Orderly

/-- Turns in flight conduct themselves well: the store is sound, and those in progress know that it
fits them. -/
structure Conducted (c : Conduct b s) (turns : List Turn) (order done : List Nat)
    (a : Arena σ) : Prop extends Orderly turns order done a where
  setting : a.setting = s
  sound : c.Sound a.store
  knows : ∀ (i : Nat) (f : Flight) (x : Run) (t : Turn), a.flights[i]? = some f →
    f.stage = .running x → turns[i]? = some t → c.Knows t x a.store

namespace Conducted

variable {c : Conduct b s}

theorem submit {g : Game σ} (hg : g.IsIdle) (hs : g.setting = s) (hsound : c.Sound g.store)
    (turns : List Turn) : Conducted c turns [] [] (g.submit turns) where
  toOrderly := .submit hg turns
  setting := hs
  sound := hsound
  knows := by
    intro i f x t hf hstage
    simp only [Game.submit, List.getElem?_map, Option.map_eq_some_iff] at hf
    obtain ⟨t, -, rfl⟩ := hf
    cases hstage

section Takes

variable (h : Conducted c turns order done a)
  (hturns : ∀ t ∈ turns, ∃ line, t = .start line t.username t.map)
  (hf : a.flights[i]? = some f) {slots : Slots} {x : Run} (htakes : Takes b a i f slots x)
include h hf htakes

include hturns in
/-- A turn that goes on does what it may do, and knows what its script relies on then. -/
theorem takes {t : Turn} (ht : turns[i]? = some t) :
    (a.step b .yielding i).setting = s ∧ c.Sound (a.step b .yielding i).store ∧
      c.Knows t x (a.step b .yielding i).store ∧ c.Does t a.store (a.step b .yielding i).store := by
  have hbegins : c.Knows t (a.setting.play t) a.store := by
    obtain ⟨line, e⟩ := hturns t (List.mem_of_getElem? ht)
    rw [e, h.setting]
    exact c.begins line ⟨t.username, t.map⟩ a.store
  -- a turn that only takes its slot leaves the store alone
  have hstart : ∀ u, turns[i]? = some u → (∀ q k, f.stage ≠ .running (.ask q k)) →
      (a.step b .yielding i).setting = s ∧ c.Sound (a.step b .yielding i).store ∧
        c.Knows t (a.setting.play u) (a.step b .yielding i).store ∧
        c.Does t a.store (a.step b .yielding i).store := by
    intro u hu hstage
    obtain rfl := Option.some.inj (ht.symm.trans hu)
    obtain ⟨hsetting, hstore⟩ := kept_step (b := b) hf hstage
    rw [hsetting, hstore]
    exact ⟨h.setting, h.sound, hbegins, c.refl t a.store⟩
  cases htakes with
  | arrives hstage hfree =>
    have hat := h.stage i f hf
    rw [IsAt, hstage] at hat
    exact hstart _ hat.1 (by simp [hstage])
  | isNext hstage hnext =>
    have hat := h.stage i f hf
    rw [IsAt, hstage] at hat
    exact hstart _ hat.1 (by simp [hstage])
  | isAnswered hstage =>
    obtain ⟨hsetting, hstore⟩ := kept_step_ask (b := b) hf hstage
    rw [hsetting, hstore]
    exact ⟨h.setting, c.answered h.sound (h.knows i f _ t hf hstage ht)⟩
  | isRunning hstage hx =>
    obtain ⟨hsetting, hstore⟩ := kept_step (b := b) hf
      fun q k e => hx q k (Stage.running.inj (hstage.symm.trans e))
    rw [hsetting, hstore]
    exact ⟨h.setting, h.sound, h.knows i f x t hf hstage ht, c.refl t a.store⟩

/-- When a turn has taken a step, the other turns know what they knew. -/
theorem others {t : Turn} (ht : turns[i]? = some t) {st : σ} (hdoes : c.Does t a.store st) {j : Nat}
    {g : Flight} {y : Run} {u : Turn} (hg : a.flights[j]? = some g)
    (hrunning : g.stage = .running y) (hne : j ≠ i) (hu : turns[j]? = some u) :
    c.Knows u y st := by
  refine c.apart (fun hkey => ?_) (h.knows j g y u hg hrunning hu) hdoes
  have hti := h.keys i f hf
  have huj := h.keys j g hg
  rw [ht, Option.map_some, Option.some.injEq] at hti
  rw [hu, Option.map_some, Option.some.injEq] at huj
  exact h.key_ne hf htakes hg hrunning hne (huj.symm.trans (hkey.trans hti))

include hturns in
/-- What is to be seen to if a turn goes on or leaves. -/
theorem move {order' done' : List Nat} {stage : Stage}
    (horderly : Orderly turns order' done' (a.step b .yielding i))
    (hflights : (a.step b .yielding i).flights = a.flights.set i ⟨f.key, stage⟩)
    (hstage : ∀ y, stage = .running y → y = x.advance.2) :
    Conducted c turns order' done' (a.step b .yielding i) ∧
      c.Steps turns i a.store (a.step b .yielding i).store := by
  obtain ⟨t, ht, -⟩ := Option.map_eq_some_iff.1 (h.keys i f hf)
  obtain ⟨hsetting, hsound, hknows, hdoes⟩ := h.takes hturns hf htakes ht
  refine ⟨{ horderly with setting := hsetting, sound := hsound, knows := ?_ }, .inr ⟨t, ht, hdoes⟩⟩
  intro j g y u hg hrunning hu
  rw [hflights] at hg
  by_cases hne : j = i
  · subst hne
    rw [List.getElem?_set_self (List.getElem?_eq_some_iff.1 hf).1, Option.some.injEq] at hg
    subst hg
    rw [hstage y hrunning]
    obtain rfl := Option.some.inj (ht.symm.trans hu)
    exact c.advance hknows
  · rw [List.getElem?_set_ne (Ne.symm hne)] at hg
    exact h.others hf htakes ht hdoes hg hrunning hne hu

end Takes

/-- A step keeps the turns conducting themselves well, and does what the turn may do. -/
theorem step (h : Conducted c turns order done a)
    (hturns : ∀ t ∈ turns, ∃ line, t = .start line t.username t.map) (i : Nat) :
    ∃ order' done', Conducted c turns order' done' (a.step b .yielding i) ∧
      c.Steps turns i a.store (a.step b .yielding i).store := by
  cases hf : a.flights[i]? with
  | none =>
    rw [step_none hf]
    exact ⟨order, done, h, .inl rfl⟩
  | some f =>
    cases step_moves b .yielding hf with
    | stays hready heq =>
      rw [heq]
      exact ⟨order, done, h, .inl rfl⟩
    | waits hstage htaken hflights hslots =>
      obtain ⟨hsetting, hstore⟩ := kept_step (b := b) hf (by simp [hstage])
      have horderly := h.toOrderly.waits hf hstage htaken hflights hslots
      refine ⟨_, done, { horderly with setting := ?_, sound := ?_, knows := ?_ }, .inl hstore⟩
      · rw [hsetting, h.setting]
      · rw [hstore]
        exact h.sound
      · intro j g y u hg hrunning hu
        rw [hstore]
        rw [hflights] at hg
        by_cases hne : j = i
        · subst hne
          rw [List.getElem?_set_self (List.getElem?_eq_some_iff.1 hf).1, Option.some.injEq] at hg
          subst hg
          cases hrunning
        · rw [List.getElem?_set_ne (Ne.symm hne)] at hg
          exact h.knows j g y u hg hrunning hu
    | goesOn htakes hadvance hflights hslots =>
      refine ⟨_, done, h.move hturns hf htakes (h.toOrderly.goesOn hf htakes hflights hslots)
        hflights fun y hy => ?_⟩
      rw [hadvance]
      exact (Stage.running.inj hy).symm
    | leaves htakes hflights hslots =>
      exact ⟨_, _, h.move hturns hf htakes (h.toOrderly.leaves hf htakes hflights hslots) hflights
        nofun⟩

/-- Any number of steps of one turn do what the turn may do. -/
theorem replicate (h : Conducted c turns order done a)
    (hturns : ∀ t ∈ turns, ∃ line, t = .start line t.username t.map) (i m : Nat) :
    ∃ order' done', Conducted c turns order' done' (a.follow b .yielding (List.replicate m i)) ∧
      c.Steps turns i a.store (a.follow b .yielding (List.replicate m i)).store := by
  induction m generalizing order done a with
  | zero => exact ⟨order, done, h, .inl rfl⟩
  | succ m ih =>
    obtain ⟨order', done', h', hsteps⟩ := h.step hturns i
    obtain ⟨order'', done'', h'', hsteps'⟩ := ih h'
    exact ⟨order'', done'', h'', c.steps_trans hsteps hsteps'⟩

/-- A step at any pace. -/
theorem step_pace (h : Conducted c turns order done a)
    (hturns : ∀ t ∈ turns, ∃ line, t = .start line t.username t.map) (pace : Pace) (i : Nat) :
    ∃ order' done', Conducted c turns order' done' (a.step b pace i) ∧
      c.Steps turns i a.store (a.step b pace i).store := by
  obtain ⟨m, hm⟩ := exists_follow_step b pace a i
  rw [hm]
  exact h.replicate hturns i (m + 1)

theorem follow (h : Conducted c turns order done a)
    (hturns : ∀ t ∈ turns, ∃ line, t = .start line t.username t.map) (pace : Pace)
    (schedule : List Nat) :
    ∃ order' done', Conducted c turns order' done' (a.follow b pace schedule) := by
  induction schedule generalizing order done a with
  | nil => exact ⟨order, done, h⟩
  | cons i schedule ih =>
    obtain ⟨order', done', h', -⟩ := h.step_pace hturns pace i
    exact ih h'

end Conducted

end Arena

/-- Whatever steps turns take that are submitted together, the store stays sound, and each step does
what its turn may do. -/
theorem Conduct.follow {b : Backend σ} {g : Game σ} (c : Conduct b g.setting) (hg : g.IsIdle)
    (hsound : c.Sound g.store) {turns : List Turn}
    (hturns : ∀ t ∈ turns, ∃ line, t = .start line t.username t.map) (pace : Pace)
    (schedule : List Nat) :
    let a := (g.submit turns).follow b pace schedule
    c.Sound a.store ∧ ∀ i, c.Steps turns i a.store (a.step b pace i).store := by
  intro a
  obtain ⟨order, done, h⟩ := (Arena.Conducted.submit (c := c) hg rfl hsound turns).follow hturns
    pace schedule
  refine ⟨h.sound, fun i => ?_⟩
  obtain ⟨-, -, -, hsteps⟩ := h.step_pace hturns pace i
  exact hsteps

/-- What no turn undoes holds between any two moments. -/
theorem Conduct.follow_more {b : Backend σ} {g : Game σ} (c : Conduct b g.setting) (hg : g.IsIdle)
    (hsound : c.Sound g.store) {turns : List Turn}
    (hturns : ∀ t ∈ turns, ∃ line, t = .start line t.username t.map) (pace : Pace)
    {R : σ → σ → Prop} (hrefl : ∀ st, R st st)
    (htrans : ∀ st st' st'', R st st' → R st' st'' → R st st'')
    (hdoes : ∀ t st st', c.Does t st st' → R st st') (schedule more : List Nat) :
    let a := (g.submit turns).follow b pace schedule
    R a.store (a.follow b pace more).store := by
  intro a
  induction more using List.reverseRecOn with
  | nil => exact hrefl _
  | append_singleton more i ih =>
    have hsteps := (c.follow hg hsound hturns pace (schedule ++ more)).2 i
    rw [Arena.follow_append] at hsteps ⊢
    refine htrans _ _ _ ih ?_
    obtain hsame | ⟨t, -, h⟩ := hsteps
    · rw [show (a.follow b pace more).follow b pace [i] = (a.follow b pace more).step b pace i
        from rfl, hsame]
      exact hrefl _
    · exact hdoes t _ _ h

end TextAdventure
