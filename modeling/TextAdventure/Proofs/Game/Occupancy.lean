import TextAdventure.Proofs.Game.Registry

/-!
# Turns that come and go

Turns in flight take their steps in any order, and any of them may be broken off by an exception that
is none of the game's own, while it waits for its slot or while it holds it (`Arena.Incident`). At every
moment the table of slots is exact, and the one that turns hold on to comes to the same
(`Game.slots_are_exact`): a step and a break-off are one or two of the acts upon slots, each of which
keeps both.
-/

namespace TextAdventure

variable {σ : Type}

/-- Whether a turn is inside. -/
def Flight.isInside (f : Flight) : Bool := f.stage.standing.isInside

/-- What a turn does to its slot when it comes from one standing to another. A waiting turn that is
broken off gives up; any other turn that has left from there had its slot in between. -/
def Standing.acts (broken : Bool) : Standing → Standing → List SlotAct
  | .ahead, .queued | .ahead, .within => [.arrives]
  | .ahead, .gone => [.arrives, .leaves]
  | .queued, .within => [.takes]
  | .queued, .gone => if broken then [.givesUp] else [.takes, .leaves]
  | .within, .gone => [.leaves]
  | _, _ => []

namespace Arena

/-- What may happen among turns in flight. -/
inductive Incident (σ : Type) where
  /-- A turn takes its step, if it can. -/
  | step (i : Nat)
  /-- A turn that is inside is broken off, as a turn may be that has come to some state; if it was
  running, it may have noted something and left the store in some state. -/
  | breaksOff (i : Nat) (u : Turn) (halt : Option Halt) (notes : List Note) (store : σ)

namespace Incident

/-- The turn that something happens to. -/
def turn : Incident σ → Nat
  | .step i | .breaksOff i .. => i

/-- Whether the turn is broken off. -/
def isBreak : Incident σ → Bool
  | .step _ => false
  | .breaksOff .. => true

end Incident

/-- Breaks a turn off that is inside. The slot that it holds is left, and it does not wait any more. -/
def breakOff (a : Arena σ) (i : Nat) (u : Turn) (halt : Option Halt) (notes : List Note)
    (store : σ) : Arena σ :=
  match a.flights[i]? with
  | none => a
  | some f =>
    match f.stage with
    | .submitted _ | .finished .. => a
    | .waiting _ =>
      { a.setStage i f (.finished u halt) with slots := a.slots.giveUp f.key i }
    | .running _ =>
      { a.setStage i f (.finished u halt) with
        store
        slots := a.slots.leave f.key
        trace := a.trace ++ notes.map (i, ·) }

/-- Something happens among turns in flight. -/
def happen (b : Backend σ) (pace : Pace) (a : Arena σ) : Incident σ → Arena σ
  | .step i => a.step b pace i
  | .breaksOff i u halt notes store => a.breakOff i u halt notes store

/-- One thing happens after another. -/
def undergo (b : Backend σ) (pace : Pace) (a : Arena σ) (es : List (Incident σ)) : Arena σ :=
  es.foldl (happen b pace) a

/-- The turns and how they stand. -/
def roll (a : Arena σ) : Roll := a.flights.map fun f => (f.key, f.stage.standing)

/-- The table of slots tells exactly who is inside. -/
structure IsExact (a : Arena σ) : Prop where
  /-- Nobody is listed twice. -/
  once : a.slots.keys.Nodup
  /-- The players who are listed are those with turns inside. -/
  listed : ∀ key, key ∈ a.slots.keys ↔ ∃ f ∈ a.flights, f.key = key ∧ f.isInside = true
  /-- Each slot counts the turns inside. -/
  pending : ∀ key, (a.slots.slot key).pending =
    a.flights.countP fun f => f.key = key ∧ f.isInside
  /-- A slot is held by the turn that is running. -/
  holder : ∀ key i, (a.slots.slot key).holder = some i ↔
    ∃ x, a.flights[i]? = some ⟨key, .running x⟩
  /-- Those who wait for a slot are the waiting turns. -/
  waiting : ∀ key i, i ∈ (a.slots.slot key).waiting ↔
    ∃ t, a.flights[i]? = some ⟨key, .waiting t⟩
  /-- At most one turn of a player is running. -/
  alone : ∀ (key : TurnKey) (i j : Nat) (x y : Run), a.flights[i]? = some ⟨key, .running x⟩ →
    a.flights[j]? = some ⟨key, .running y⟩ → i = j
  /-- If nobody is inside, the table is empty. -/
  empty : (∀ f ∈ a.flights, f.isInside = false) → a.slots = []

end Arena

namespace Registry

/-- What a turn does to its slot when something happens to it. -/
def respond (r : Registry) (e : Arena.Incident σ) (a a' : Arena σ) : Option Registry :=
  match a.flights[e.turn]?, a'.flights[e.turn]? with
  | some f, some f' =>
    r.acts f.key e.turn (f.stage.standing.acts e.isBreak f'.stage.standing)
  | _, _ => some r

/-- What the turns do to their slots while one thing happens after another; there is no result if an
entry is missing that a turn takes off the table. -/
def undergo (b : Backend σ) (pace : Pace) :
    Arena σ → Registry → List (Arena.Incident σ) → Option Registry
  | _, r, [] => some r
  | a, r, e :: es =>
    (r.respond e a (a.happen b pace e)).bind fun r => undergo b pace (a.happen b pace e) r es

theorem acts_append (r : Registry) (key : TurnKey) (i : Nat) (as bs : List SlotAct) :
    r.acts key i (as ++ bs) = (r.acts key i as).bind fun r => r.acts key i bs :=
  List.foldlM_append

end Registry

theorem Registry.acts_singleton (r : Registry) (key : TurnKey) (i : Nat) (x : SlotAct) :
    r.acts key i [x] = r.act key i x := by
  cases h : r.act key i x <;> simp [Registry.acts, h]

/-- A turn that leaves has had its slot before. -/
theorem Standing.acts_gone {st : Standing} (h : st ≠ .gone) :
    st.acts false .gone = st.acts false .within ++ [.leaves] := by
  cases st <;> first | rfl | exact absurd rfl h

namespace Arena

variable {b : Backend σ} {pace : Pace} {a a' : Arena σ} {i : Nat} {f : Flight} {r : Registry}

theorem roll_getElem? (hf : a.flights[i]? = some f) :
    a.roll[i]? = some (f.key, f.stage.standing) := by
  rw [roll, List.getElem?_map, hf]
  rfl

theorem roll_set {stage : Stage} (hflights : a'.flights = a.flights.set i ⟨f.key, stage⟩) :
    a'.roll = a.roll.set i (f.key, stage.standing) := by
  rw [roll, hflights, List.map_set]
  rfl

/-- A turn that has its slot has done to it what brought it there. -/
theorem Takes.mirrors {slots : Slots} {x : Run} (htakes : Takes b a i f slots x)
    (h : r.Mirrors a.slots a.roll) (hf : a.flights[i]? = some f) :
    ∃ r', r.acts f.key i (f.stage.standing.acts false .within) = some r' ∧
      r'.Mirrors slots (a.roll.set i (f.key, .within)) := by
  have hi := roll_getElem? hf
  have hstays : ∀ {x : Run}, f.stage = .running x →
      ∃ r', r.acts f.key i (f.stage.standing.acts false .within) = some r' ∧
        r'.Mirrors a.slots (a.roll.set i (f.key, .within)) := by
    intro x hstage
    rw [hstage] at hi ⊢
    have hsame : a.roll.set i (f.key, .within) = a.roll := by
      obtain ⟨hlength, hget⟩ := List.getElem?_eq_some_iff.1 hi
      have hset := List.set_getElem_self hlength
      rwa [hget] at hset
    rw [hsame]
    exact ⟨r, rfl, h⟩
  cases htakes with
  | arrives hstage hfree =>
    rw [hstage] at hi ⊢
    exact ⟨_, rfl, h.enter hi (h.exact.arrive_free hi hfree)⟩
  | isNext hstage hnext =>
    rw [hstage] at hi ⊢
    obtain ⟨r', htake, hr'⟩ := h.take hi (h.exact.take hi hnext)
    exact ⟨r', (r.acts_singleton _ _ _).trans htake, hr'⟩
  | isAnswered hstage => exact hstays hstage
  | isRunning hstage _ => exact hstays hstage

/-- What happens to a turn that is there, and where it leads. -/
theorem respond_eq {e : Incident σ} {stage : Stage} (hf : a.flights[e.turn]? = some f)
    (hflights : a'.flights = a.flights.set e.turn ⟨f.key, stage⟩) :
    r.respond e a a' =
      r.acts f.key e.turn (f.stage.standing.acts e.isBreak stage.standing) := by
  have hf' : a'.flights[e.turn]? = some ⟨f.key, stage⟩ := by
    rw [hflights]
    exact List.getElem?_set_self (List.getElem?_eq_some_iff.1 hf).1
  simp only [Registry.respond, hf, hf']

/-- A turn that stays as it is does nothing to its slot. -/
theorem respond_self (e : Incident σ) (a : Arena σ) : r.respond e a a = some r := by
  unfold Registry.respond
  split
  · next f f' hf hf' =>
    obtain rfl := Option.some.inj (hf.symm.trans hf')
    cases hstanding : f.stage.standing <;> rfl
  · rfl

/-- A step keeps the table exact and does to the slots what the turn does to those it holds on to. -/
theorem step_mirrors (b : Backend σ) (pace : Pace) (h : r.Mirrors a.slots a.roll) (i : Nat) :
    ∃ r', r.respond (.step i) a (a.step b pace i) = some r' ∧
      r'.Mirrors (a.step b pace i).slots (a.step b pace i).roll := by
  cases hf : a.flights[i]? with
  | none =>
    rw [step_none hf, respond_self]
    exact ⟨r, rfl, h⟩
  | some f =>
    have hi := roll_getElem? hf
    obtain ⟨-, hsame⟩ | ⟨hstage, htaken, hflights, hslots⟩ | ⟨htakes, -, hflights, hslots⟩ |
      ⟨htakes, hflights, hslots⟩ := step_moves b pace hf
    · rw [hsame, respond_self]
      exact ⟨r, rfl, h⟩
    · rw [respond_eq hf hflights, roll_set hflights, hslots]
      rw [hstage] at hi ⊢
      exact ⟨_, rfl, h.enter hi (h.exact.arrive_taken hi htaken)⟩
    · rw [respond_eq hf hflights, roll_set hflights, hslots]
      exact htakes.mirrors h hf
    · rw [respond_eq hf hflights, roll_set hflights, hslots]
      obtain ⟨r', hacts, hr'⟩ := htakes.mirrors h hf
      have hwithin : (a.roll.set i (f.key, .within))[i]? = some (f.key, .within) :=
        Roll.getElem?_set_self hi
      obtain ⟨r'', hexit, hr''⟩ := hr'.exit hwithin rfl Slot.leave (hr'.exact.leave hwithin)
      rw [List.set_set] at hr''
      have hpresent : f.stage.standing ≠ .gone := by
        intro hgone
        cases hstage : f.stage with
        | finished u halt => exact htakes.not_finished u halt hstage
        | _ => rw [hstage] at hgone; cases hgone
      refine ⟨r'', ?_, hr''⟩
      show r.acts f.key i (f.stage.standing.acts false .gone) = some r''
      rw [Standing.acts_gone hpresent, Registry.acts_append, hacts]
      exact (r'.acts_singleton _ _ _).trans hexit

/-- So does breaking a turn off. -/
theorem breakOff_mirrors (h : r.Mirrors a.slots a.roll) (i : Nat) (u : Turn) (halt : Option Halt)
    (notes : List Note) (store : σ) :
    ∃ r', r.respond (.breaksOff i u halt notes store) a (a.breakOff i u halt notes store) = some r' ∧
      r'.Mirrors (a.breakOff i u halt notes store).slots (a.breakOff i u halt notes store).roll := by
  have hstays : a.breakOff i u halt notes store = a →
      ∃ r', r.respond (.breaksOff i u halt notes store) a (a.breakOff i u halt notes store) =
          some r' ∧
        r'.Mirrors (a.breakOff i u halt notes store).slots
          (a.breakOff i u halt notes store).roll := by
    intro hsame
    rw [hsame, respond_self]
    exact ⟨r, rfl, h⟩
  cases hf : a.flights[i]? with
  | none => exact hstays (by simp only [breakOff, hf])
  | some f =>
    have hi := roll_getElem? hf
    have hgoes : ∀ {e : Incident σ}, e.turn = i → ∀ {a' : Arena σ},
      a'.flights = a.flights.set i ⟨f.key, .finished u halt⟩ → r.respond e a a' =
        r.acts f.key i (f.stage.standing.acts e.isBreak .gone) := by
      rintro e rfl a' hflights
      exact respond_eq hf hflights
    cases hstage : f.stage with
    | submitted t => exact hstays (by simp only [breakOff, hf, hstage])
    | finished t halt' => exact hstays (by simp only [breakOff, hf, hstage])
    | waiting t =>
      have hflights : (a.breakOff i u halt notes store).flights =
          a.flights.set i ⟨f.key, .finished u halt⟩ := by
        simp only [breakOff, hf, hstage, setStage]
      have hslots : (a.breakOff i u halt notes store).slots = a.slots.giveUp f.key i := by
        simp only [breakOff, hf, hstage]
      rw [hstage] at hi
      obtain ⟨r', hexit, hr'⟩ := h.exit hi rfl (fun s => s.giveUp i) (h.exact.giveUp hi)
      rw [hgoes rfl hflights, roll_set hflights, hslots, hstage]
      exact ⟨r', (r.acts_singleton _ _ _).trans hexit, hr'⟩
    | running x =>
      have hflights : (a.breakOff i u halt notes store).flights =
          a.flights.set i ⟨f.key, .finished u halt⟩ := by
        simp only [breakOff, hf, hstage, setStage]
      have hslots : (a.breakOff i u halt notes store).slots = a.slots.leave f.key := by
        simp only [breakOff, hf, hstage]
      rw [hstage] at hi
      obtain ⟨r', hexit, hr'⟩ := h.exit hi rfl Slot.leave (h.exact.leave hi)
      rw [hgoes rfl hflights, roll_set hflights, hslots, hstage]
      exact ⟨r', (r.acts_singleton _ _ _).trans hexit, hr'⟩

/-- Whatever happens keeps the table exact, and no entry is ever missing. -/
theorem undergo_mirrors (b : Backend σ) (pace : Pace) (h : r.Mirrors a.slots a.roll)
    (es : List (Incident σ)) :
    ∃ r', Registry.undergo b pace a r es = some r' ∧
      r'.Mirrors (a.undergo b pace es).slots (a.undergo b pace es).roll := by
  induction es generalizing a r with
  | nil => exact ⟨r, rfl, h⟩
  | cons e es ih =>
    have hfirst : ∃ r', r.respond e a (a.happen b pace e) = some r' ∧
        r'.Mirrors (a.happen b pace e).slots (a.happen b pace e).roll := by
      cases e with
      | step i => exact step_mirrors b pace h i
      | breaksOff i u halt notes store => exact breakOff_mirrors h i u halt notes store
    obtain ⟨r', hrespond, hr'⟩ := hfirst
    obtain ⟨r'', hundergo, hr''⟩ := ih hr'
    refine ⟨r'', ?_, hr''⟩
    rw [Registry.undergo, hrespond]
    exact hundergo

theorem inside_roll (a : Arena σ) (key : TurnKey) :
    a.roll.inside key = a.flights.countP fun f => f.key = key ∧ f.isInside :=
  List.countP_map

/-- How a turn stands is what its stage comes to. -/
theorem roll_getElem?_iff {key : TurnKey} {st : Standing} :
    a.roll[i]? = some (key, st) ↔ ∃ stage, a.flights[i]? = some ⟨key, stage⟩ ∧ stage.standing = st := by
  rw [roll, List.getElem?_map, Option.map_eq_some_iff]
  constructor
  · rintro ⟨⟨k, stage⟩, hf, heq⟩
    obtain ⟨rfl, hstanding⟩ := Prod.mk.inj heq
    exact ⟨stage, hf, hstanding⟩
  · rintro ⟨stage, hf, rfl⟩
    exact ⟨_, hf, rfl⟩

theorem roll_getElem?_within {key : TurnKey} :
    a.roll[i]? = some (key, .within) ↔ ∃ x, a.flights[i]? = some ⟨key, .running x⟩ := by
  have hrunning : ∀ stage : Stage, stage.standing = .within ↔ ∃ x, stage = .running x := by
    intro stage
    cases stage <;> simp [Stage.standing]
  simp only [roll_getElem?_iff, hrunning]
  exact ⟨fun ⟨_, hf, x, heq⟩ => ⟨x, heq ▸ hf⟩, fun ⟨x, hf⟩ => ⟨_, hf, x, rfl⟩⟩

theorem roll_getElem?_queued {key : TurnKey} :
    a.roll[i]? = some (key, .queued) ↔ ∃ t, a.flights[i]? = some ⟨key, .waiting t⟩ := by
  have hwaiting : ∀ stage : Stage, stage.standing = .queued ↔ ∃ t, stage = .waiting t := by
    intro stage
    cases stage <;> simp [Stage.standing]
  simp only [roll_getElem?_iff, hwaiting]
  exact ⟨fun ⟨_, hf, t, heq⟩ => ⟨t, heq ▸ hf⟩, fun ⟨t, hf⟩ => ⟨_, hf, t, rfl⟩⟩

/-- An exact table tells of the turns themselves. -/
theorem isExact_of_exact (h : a.slots.Exact a.roll) : a.IsExact where
  once := h.nodup
  listed := by
    intro key
    rw [h.listed, inside_roll, List.countP_pos_iff]
    simp only [decide_eq_true_eq]
  pending := fun key => (h.pending key).trans (inside_roll a key)
  holder := fun key i => (h.holder key i).trans roll_getElem?_within
  waiting := fun key i => (h.waiting key i).trans roll_getElem?_queued
  alone := by
    intro key i j x y hi hj
    have hholder := (h.holder key i).2 (roll_getElem?_within.2 ⟨x, hi⟩)
    have hholder' := (h.holder key j).2 (roll_getElem?_within.2 ⟨y, hj⟩)
    exact Option.some.inj (hholder.symm.trans hholder')
  empty := by
    intro hnobody
    refine h.eq_nil fun e he => ?_
    obtain ⟨f, hf, rfl⟩ := List.mem_map.1 he
    exact hnobody f hf

end Arena

/-- In a game from its beginning, whatever turns are submitted, whatever the store answers and in
whatever order the turns take their steps or are broken off: at every moment the table of slots is
exact. A turn that goes by the slot that it found or made when it arrived, and that the last one to
leave takes off the table, never misses the entry then; the slots are the same as in the table, and all
turns of a player that are inside go by the one that is listed. -/
theorem Game.slots_are_exact (setting : Setting) (map : String) (store : σ) (b : Backend σ)
    (pace : Pace) (turns : List Turn) (es : List (Arena.Incident σ)) :
    let start := (Game.new setting map store).submit turns
    let a := start.undergo b pace es
    a.IsExact ∧ ∃ r, Registry.undergo b pace start .empty es = some r ∧ r.slots = a.slots ∧
      ∀ (i : Nat) (f : Flight), a.flights[i]? = some f → f.isInside = true →
        ∃ n, r.goesBy.lookup i = some n ∧ r.listed.lookup f.key = some n := by
  intro start a
  have hahead : ∀ e ∈ start.roll, e.2 = .ahead := by
    intro e he
    simp only [start, Game.submit, Arena.roll, List.map_map, List.mem_map] at he
    obtain ⟨t, -, rfl⟩ := he
    rfl
  have hstart : Registry.empty.Mirrors start.slots start.roll := .empty hahead
  obtain ⟨r, hundergo, hr⟩ := Arena.undergo_mirrors b pace hstart es
  refine ⟨Arena.isExact_of_exact hr.exact, r, hundergo, hr.slots, fun i f hf hinside => ?_⟩
  exact hr.goesBy i f.key f.stage.standing (Arena.roll_getElem? hf) hinside

end TextAdventure
