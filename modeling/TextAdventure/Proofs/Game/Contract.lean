import TextAdventure.Proofs.Game.Steps
import TextAdventure.Proofs.Script.Contract

/-!
# Turns in flight that keep a contract

Turns that are submitted together take their steps in any order, over a store that answers as a
contract says. If every turn keeps its part when it is on its own, then all of them do so at every
moment (`Contract.follow`): what a turn relies on are only the answers to its own queries, and the
others do not change what the store promises.
-/

namespace TextAdventure

variable {σ : Type}

namespace Arena

/-- The notes of one turn. -/
def notesOf (a : Arena σ) (i : Nat) : List Note := (a.trace.filter (·.1 == i)).map (·.2)

theorem mem_notesOf {a : Arena σ} {i : Nat} {n : Note} : n ∈ a.notesOf i ↔ (i, n) ∈ a.trace := by
  simp [notesOf]

/-- A turn keeps a contract: it has not begun, or its script goes on keeping it, or it has ended as it
should. -/
def Upholds (c : Contract) (P : List Note → Turn × Option Halt → Prop) (t : Turn) (ns : List Note) :
    Stage → Prop
  | .submitted u | .waiting u => u = t ∧ ns = []
  | .running x => x.Keeps c P ns
  | .finished u halt => P ns (u, halt)

/-- What holds at every moment of turns that keep a contract. -/
structure Keeping (c : Contract) (Sound : σ → Prop)
    (P : Turn → List Note → Turn × Option Halt → Prop) (s : Setting) (turns : List Turn)
    (a : Arena σ) : Prop where
  setting : a.setting = s
  sound : Sound a.store
  tells : ∀ i, ∀ n ∈ a.notesOf i, c.Tells n
  stage : ∀ (i : Nat) (f : Flight), a.flights[i]? = some f →
    ∃ t, turns[i]? = some t ∧ Upholds c (P t) t (a.notesOf i) f.stage

namespace Keeping

variable {c : Contract} {Sound : σ → Prop} {P : Turn → List Note → Turn × Option Halt → Prop}
  {s : Setting} {turns : List Turn} {a a' : Arena σ} {b : Backend σ} {i : Nat} {f : Flight}
  {t : Turn} {ns : List Note}

theorem submit {g : Game σ} (hsound : Sound g.store) (turns : List Turn) :
    Keeping c Sound P g.setting turns (g.submit turns) where
  setting := rfl
  sound := hsound
  tells := fun i n hn => absurd (mem_notesOf.1 hn) List.not_mem_nil
  stage := by
    intro i f hf
    simp only [Game.submit, List.getElem?_map, Option.map_eq_some_iff] at hf
    obtain ⟨t, ht, rfl⟩ := hf
    exact ⟨t, ht, rfl, rfl⟩

theorem notesOf_append (htrace : a'.trace = a.trace ++ ns.map (i, ·)) (j : Nat) :
    a'.notesOf j = a.notesOf j ++ if j = i then ns else [] := by
  have hmine : ((ns.map (i, ·)).filter (·.1 == j)).map (·.2) = if j = i then ns else [] := by
    rw [List.filter_map, List.map_map]
    by_cases h : j = i
    · subst h
      simp [Function.comp_def]
    · simp [h, Ne.symm h, Function.comp_def]
  rw [notesOf, htrace, List.filter_append, List.map_append, hmine, notesOf]

/-- What is to be seen to if a turn comes to another stage with some notes. -/
theorem move (h : Keeping c Sound P s turns a) (ns : List Note) (hf : a.flights[i]? = some f)
    (ht : turns[i]? = some t) {stage : Stage} (hsetting : a'.setting = a.setting)
    (hsound : Sound a'.store) (htrace : a'.trace = a.trace ++ ns.map (i, ·))
    (hflights : a'.flights = a.flights.set i ⟨f.key, stage⟩) (htells : ∀ n ∈ ns, c.Tells n)
    (hstage : Upholds c (P t) t (a.notesOf i ++ ns) stage) : Keeping c Sound P s turns a' := by
  refine ⟨hsetting.trans h.setting, hsound, fun j n hn => ?_, fun j g hg => ?_⟩
  · rw [notesOf_append htrace, List.mem_append] at hn
    rcases hn with hn | hn
    · exact h.tells j n hn
    · split at hn
      · exact htells n hn
      · exact absurd hn List.not_mem_nil
  · rw [hflights] at hg
    rw [notesOf_append htrace]
    by_cases hj : j = i
    · subst hj
      rw [List.getElem?_set_self (List.getElem?_eq_some_iff.1 hf).1, Option.some.injEq] at hg
      subst hg
      rw [if_pos rfl]
      exact ⟨t, ht, hstage⟩
    · rw [List.getElem?_set_ne (Ne.symm hj)] at hg
      rw [if_neg hj, List.append_nil]
      exact h.stage j g hg

/-- A turn that goes on keeps the contract up to its next query or its end. -/
theorem settle (h : Keeping c Sound P s turns a) (a' : Arena σ) (hf : a.flights[i]? = some f)
    (ht : turns[i]? = some t) (hsetting : a'.setting = a.setting) (hsound : Sound a'.store)
    (htrace : a'.trace = a.trace) (hflights : a'.flights = a.flights) {x : Run}
    (hx : x.Keeps c (P t) (a.notesOf i)) : Keeping c Sound P s turns (a'.settle i f x) := by
  obtain ⟨htells, hrest⟩ := hx.advance
  rcases x.advance_cases with ⟨ns, ⟨u, halt⟩, hadvance⟩ | ⟨ns, q, k, hadvance⟩ <;>
    rw [hadvance] at htells hrest
  · rw [settle_done hadvance]
    exact h.move ns hf ht hsetting hsound (congrArg (· ++ _) htrace)
      (congrArg (List.set · _ _) hflights) htells hrest
  · rw [settle_ask hadvance]
    exact h.move ns hf ht hsetting hsound (congrArg (· ++ _) htrace)
      (congrArg (List.set · _ _) hflights) htells hrest

/-- A step of any turn keeps the contract. -/
theorem step (h : Keeping c Sound P s turns a) (hb : c.AnsweredBy b Sound)
    (hplay : ∀ t ∈ turns, (s.play t).Keeps c (P t) []) (i : Nat) :
    Keeping c Sound P s turns (a.step b .yielding i) := by
  cases hf : a.flights[i]? with
  | none =>
    rw [step_none hf]
    exact h
  | some f =>
    obtain ⟨t, ht, hstage⟩ := h.stage i f hf
    have hbegins : a.notesOf i = [] → (a.setting.play t).Keeps c (P t) (a.notesOf i) := by
      intro hnotes
      rw [hnotes, h.setting]
      exact hplay t (List.mem_of_getElem? ht)
    cases hcase : f.stage with
    | submitted u =>
      rw [hcase] at hstage
      obtain ⟨rfl, hnotes⟩ := hstage
      cases hfree : (a.slots.slot f.key).isFree with
      | true =>
        rw [step_free hf hcase hfree]
        exact h.settle { a with slots := a.slots.arrive f.key i } hf ht rfl h.sound rfl rfl
          (hbegins hnotes)
      | false =>
        rw [step_taken hf hcase hfree]
        exact h.move [] hf ht rfl h.sound (List.append_nil _).symm rfl
          (List.forall_mem_nil _) ⟨rfl, by rw [hnotes, List.append_nil]⟩
    | waiting u =>
      rw [hcase] at hstage
      obtain ⟨rfl, hnotes⟩ := hstage
      cases hnext : (a.slots.slot f.key).isNext i with
      | true =>
        rw [step_next hf hcase hnext]
        exact h.settle { a with slots := a.slots.take f.key } hf ht rfl h.sound rfl rfl
          (hbegins hnotes)
      | false =>
        rw [step_behind hf hcase hnext]
        exact h
    | running x =>
      rw [hcase] at hstage
      cases x with
      | ask q k =>
        obtain ⟨hasks, hfits⟩ := hstage
        obtain ⟨hanswer, hsound⟩ := hb q a.store h.sound hasks
        rw [step_ask hf hcase]
        exact h.settle { a with store := (b.answer q a.store).2 } hf ht rfl hsound rfl rfl
          (hfits _ hanswer)
      | done y =>
        rw [step_running hf hcase nofun]
        exact h.settle a hf ht rfl h.sound rfl rfl hstage
      | note ns x =>
        rw [step_running hf hcase nofun]
        exact h.settle a hf ht rfl h.sound rfl rfl hstage
    | finished u halt =>
      rw [step_finished hf hcase]
      exact h

theorem follow_yielding (h : Keeping c Sound P s turns a) (hb : c.AnsweredBy b Sound)
    (hplay : ∀ t ∈ turns, (s.play t).Keeps c (P t) []) (schedule : List Nat) :
    Keeping c Sound P s turns (a.follow b .yielding schedule) := by
  induction schedule generalizing a with
  | nil => exact h
  | cons i schedule ih => exact ih (h.step hb hplay i)

theorem follow (h : Keeping c Sound P s turns a) (hb : c.AnsweredBy b Sound)
    (hplay : ∀ t ∈ turns, (s.play t).Keeps c (P t) []) (pace : Pace) (schedule : List Nat) :
    Keeping c Sound P s turns (a.follow b pace schedule) := by
  induction schedule generalizing a with
  | nil => exact h
  | cons i schedule ih =>
    obtain ⟨m, hm⟩ := exists_follow_step b pace a i
    rw [follow_cons, hm]
    exact ih (h.follow_yielding hb hplay _)

/-- Wherever a turn stands, it can still come to an end as it should, and if it has ended, it has. -/
theorem exists_end (h : Keeping c Sound P s turns a)
    (hplay : ∀ t ∈ turns, (s.play t).Keeps c (P t) [])
    (hc : ∀ q, c.Asks q → ∃ answer, c.Fits q answer) (hf : a.flights[i]? = some f) :
    ∃ t ns x, turns[i]? = some t ∧ P t (a.notesOf i ++ ns) x ∧
      ∀ u halt, f.stage = .finished u halt → ns = [] ∧ x = (u, halt) := by
  obtain ⟨t, ht, hstage⟩ := h.stage i f hf
  have hbegins : a.notesOf i = [] → ∃ ns x, P t (a.notesOf i ++ ns) x := by
    intro hnotes
    rw [hnotes]
    exact (hplay t (List.mem_of_getElem? ht)).exists_end hc
  cases hcase : f.stage with
  | submitted u =>
    rw [hcase] at hstage
    obtain ⟨ns, x, hx⟩ := hbegins hstage.2
    exact ⟨t, ns, x, ht, hx, fun _ _ hover => Stage.noConfusion hover⟩
  | waiting u =>
    rw [hcase] at hstage
    obtain ⟨ns, x, hx⟩ := hbegins hstage.2
    exact ⟨t, ns, x, ht, hx, fun _ _ hover => Stage.noConfusion hover⟩
  | running r =>
    rw [hcase] at hstage
    obtain ⟨ns, x, hx⟩ := Script.Keeps.exists_end hc hstage
    exact ⟨t, ns, x, ht, hx, fun _ _ hover => Stage.noConfusion hover⟩
  | finished u halt =>
    rw [hcase] at hstage
    refine ⟨t, [], (u, halt), ht, by rwa [List.append_nil], ?_⟩
    rintro _ _ ⟨⟩
    exact ⟨rfl, rfl⟩

end Keeping

end Arena

/-- If each turn keeps a contract on its own, over a store that answers as it says, then all of them
do so at every moment, whatever steps they take. -/
theorem Contract.follow {c : Contract} {b : Backend σ} {Sound : σ → Prop} (hb : c.AnsweredBy b Sound)
    {g : Game σ} (hsound : Sound g.store) {P : Turn → List Note → Turn × Option Halt → Prop}
    {turns : List Turn} (hplay : ∀ t ∈ turns, (g.setting.play t).Keeps c (P t) []) (pace : Pace)
    (schedule : List Nat) :
    Arena.Keeping c Sound P g.setting turns ((g.submit turns).follow b pace schedule) :=
  (Arena.Keeping.submit hsound turns).follow hb hplay pace schedule

end TextAdventure
