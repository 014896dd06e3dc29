import TextAdventure.Proofs.Game.Orderly
import TextAdventure.Proofs.Turn.Image

/-!
# Interleaved turns

Turns that are submitted together take their steps in any order over a store in memory.
`Arena.Coherent` is what holds at every moment beside the order of turns: the ones that are done have
ended as they would have for the player alone, the one in progress has an image in the store in which
its player is alone, and what has been handed out are the replies of the turns that are done, one
after another. Every step preserves this (`Arena.Coherent.step`).
-/

namespace TextAdventure

namespace Arena

/-- The replies that have been handed out, each with its turn. -/
def emitted {σ : Type} (a : Arena σ) : List (Nat × Value) :=
  a.trace.filterMap fun
    | (i, .replied r) => some (i, r)
    | _ => none

/-- Going on, a turn hands out the replies among its notes. -/
theorem emitted_settle {σ : Type} (a : Arena σ) (i : Nat) (f : Flight) (x : Run) :
    (a.settle i f x).emitted =
      a.emitted ++ (History.replied (x.advance.1.map .noted)).map (i, ·) := by
  have htrace : (a.settle i f x).trace = a.trace ++ x.advance.1.map (i, ·) := by
    unfold settle
    dsimp only
    split <;> rfl
  rw [emitted, htrace, List.filterMap_append, emitted, History.replied, History.notes_map_noted,
    List.filterMap_map, List.map_filterMap]
  congr 2
  funext n
  cases n <;> rfl

/-- What the turns of a player that are done come to for the player alone. -/
def ran (g : Game Store) (alone : TurnKey → Store) (pace : Pace) (turns : List Turn)
    (done : List (Nat × Turn)) (key : TurnKey) : List (Turn × Option Halt) × Game Store :=
  ({ g with store := alone key } : Game Store).playInTurn Store.backend pace
    ((done.filter fun d => isOf turns key d.1).filterMap fun d => turns[d.1]?)

/-- One more turn of a player is done. -/
theorem ran_concat {g : Game Store} (hg : g.IsIdle) (alone : TurnKey → Store) (pace : Pace)
    {turns : List Turn} (done : List (Nat × Turn)) {key : TurnKey} {i : Nat} {t : Turn}
    (hi : isOf turns key i = true) (ht : turns[i]? = some t) (u : Turn) :
    let before := ran g alone pace turns done key
    let last := (g.setting.play t).run Store.backend before.2.store
    (ran g alone pace turns (done ++ [(i, u)]) key).1 = before.1 ++ [last.1] ∧
      (ran g alone pace turns (done ++ [(i, u)]) key).2.store = last.2.2 := by
  intro before last
  have hmine : ((done ++ [(i, u)]).filter fun d => isOf turns key d.1).filterMap
      (fun d => turns[d.1]?) =
      (done.filter fun d => isOf turns key d.1).filterMap (fun d => turns[d.1]?) ++ [t] := by
    simp [List.filter_append, List.filterMap_append, hi, ht]
  rw [show ran g alone pace turns (done ++ [(i, u)]) key = _ from by rw [ran, hmine]]
  exact Game.playInTurn_concat Store.backend pace (g := { g with store := alone key }) hg _ t

/-- The turns of a player that are done have ended as they end for the player alone, and the one that
is in progress will. -/
structure Told (g : Game Store) (alone : TurnKey → Store) (pace : Pace) (turns : List Turn)
    (done : List (Nat × Turn)) (a : Arena Store) (key : TurnKey) : Prop where
  results : (ran g alone pace turns done key).1.map (fun x => (x.1.withoutId, x.2)) =
    (done.filter fun d => isOf turns key d.1).map fun d => (d.2.withoutId, none)
  resting : (a.slots.slot key).holder = none →
    ∃ ids, a.store.Mirrors key (ran g alone pace turns done key).2.store ids
  inHand : ∀ i, (a.slots.slot key).holder = some i →
    ∃ t x, turns[i]? = some t ∧ a.flights[i]? = some ⟨key, .running x⟩ ∧
      g.setting.InHand key t (ran g alone pace turns done key).2.store a.store x

/-- What holds of turns in flight at every moment. -/
structure Coherent (g : Game Store) (alone : TurnKey → Store) (pace : Pace) (turns : List Turn)
    (order : List Nat) (done : List (Nat × Turn)) (a : Arena Store) : Prop
    extends Orderly turns order (done.map (·.1)) a where
  setting : a.setting = g.setting
  nodup_done : (done.map (·.1)).Nodup
  finished : ∀ d ∈ done, ∃ key, a.flights[d.1]? = some ⟨key, .finished d.2 none⟩
  identified : a.store.Identified
  rooms : a.store.records roomCollection = g.store.records roomCollection
  unowned : ∀ r, a.store.Unowned r ↔ g.store.Unowned r
  told : ∀ key, Told g alone pace turns done a key
  sink : a.emitted = done.flatMap fun d => d.2.replies.map (d.1, ·)

section Moves

variable {g : Game Store} {alone : TurnKey → Store} {pace : Pace} {turns : List Turn}
  {order : List Nat} {done : List (Nat × Turn)} {a : Arena Store}

/-- What is told of a player stays, if the turn that is in progress and the mirrors of the store
do. -/
theorem Told.keep {a' : Arena Store} {done' : List (Nat × Turn)} {key : TurnKey}
    (h : Told g alone pace turns done a key)
    (hdone : (done'.filter fun d => isOf turns key d.1) = done.filter fun d => isOf turns key d.1)
    (hholder : (a'.slots.slot key).holder = (a.slots.slot key).holder)
    (hflights : ∀ j, (a.slots.slot key).holder = some j → a'.flights[j]? = a.flights[j]?)
    (hmirrors : ∀ alone ids, a.store.Mirrors key alone ids → a'.store.Mirrors key alone ids) :
    Told g alone pace turns done' a' key := by
  have hran : ran g alone pace turns done' key = ran g alone pace turns done key := by
    rw [ran, ran, hdone]
  refine ⟨by rw [hran, hdone]; exact h.results, fun hnone => ?_, fun j hj => ?_⟩
  · rw [hran]
    obtain ⟨ids, hids⟩ := h.resting (hholder.symm.trans hnone)
    exact ⟨ids, hmirrors _ _ hids⟩
  · rw [hran]
    obtain ⟨t, x, ht, hflight, hx⟩ := h.inHand j (hholder.symm.trans hj)
    exact ⟨t, x, ht, (hflights j (hholder.symm.trans hj)).trans hflight, hx.of_mirrors hmirrors⟩

/-- What is told of a player whose turn is in progress. -/
theorem Told.running {a' : Arena Store} {key : TurnKey} {i : Nat} {t : Turn} {x : Run}
    (h : Told g alone pace turns done a key) (ht : turns[i]? = some t)
    (hholder : (a'.slots.slot key).holder = some i)
    (hflight : a'.flights[i]? = some ⟨key, .running x⟩)
    (hx : g.setting.InHand key t (ran g alone pace turns done key).2.store a'.store x) :
    Told g alone pace turns done a' key := by
  refine ⟨h.results, fun hnone => ?_, fun j hj => ?_⟩
  · rw [hholder] at hnone
    cases hnone
  · rw [hholder] at hj
    obtain rfl := Option.some.inj hj
    exact ⟨t, x, ht, hflight, hx⟩

/-- A turn that takes its slot is in hand. -/
theorem Told.begin {a' : Arena Store} {key : TurnKey} {i : Nat} {line : String}
    (h : Told g alone pace turns done a key) (hnone : (a.slots.slot key).holder = none)
    (ht : turns[i]? = some (.start line key.username key.map))
    (hholder : (a'.slots.slot key).holder = some i)
    (hflight : a'.flights[i]? =
      some ⟨key, .running (g.setting.play (.start line key.username key.map))⟩)
    (hstore : a'.store = a.store) : Told g alone pace turns done a' key := by
  obtain ⟨ids, hmirrors⟩ := h.resting hnone
  refine h.running ht hholder hflight ?_
  rw [hstore]
  exact .start hmirrors line

/-- What is told of a player whose turn has just ended. -/
theorem Told.leave {a' : Arena Store} {key : TurnKey} {i : Nat} {t u : Turn}
    {ids : Option (Int × Int)} (h : Told g alone pace turns done a key) (hg : g.IsIdle)
    (hi : isOf turns key i = true) (ht : turns[i]? = some t)
    (hnone : (a'.slots.slot key).holder = none)
    (hsame : Run.EndsSame (u, none)
      ((g.setting.play t).run Store.backend (ran g alone pace turns done key).2.store).1)
    (hmirrors : a'.store.Mirrors key
      ((g.setting.play t).run Store.backend (ran g alone pace turns done key).2.store).2.2 ids) :
    Told g alone pace turns (done ++ [(i, u)]) a' key := by
  obtain ⟨hresults, hstore⟩ := ran_concat hg alone pace done hi ht u
  refine ⟨?_, fun _ => ⟨ids, ?_⟩, fun j hj => ?_⟩
  · rw [hresults, List.map_append, h.results, List.filter_append, List.map_append, List.map_singleton,
      ← hsame.1, ← hsame.2]
    simp [hi]
  · rw [hstore]
    exact hmirrors
  · rw [hnone] at hj
    cases hj

namespace Coherent

/-- Before the first step. -/
theorem submit (hg : g.IsIdle) (hids : g.store.Identified)
    (hrooms : ∀ key, (alone key).records roomCollection = g.store.records roomCollection)
    (hplayers : ∀ key, (alone key).records playerCollection = (g.store.own? key).toList) :
    Coherent g alone pace turns [] [] (g.submit turns) where
  toOrderly := .submit hg turns
  setting := rfl
  nodup_done := List.nodup_nil
  finished := fun d hd => absurd hd List.not_mem_nil
  identified := hids
  rooms := rfl
  unowned := fun _ => Iff.rfl
  told := by
    intro key
    have hslots : (g.submit turns).slots = [] := hg
    refine ⟨rfl, fun _ => Store.Mirrors.exists_of_own hids (hrooms key) (hplayers key), ?_⟩
    intro i hi
    rw [hslots] at hi
    cases hi
  sink := rfl

/-- What is to be seen to if a turn takes a step. -/
theorem move (h : Coherent g alone pace turns order done a) {a' : Arena Store} {i : Nat} {f : Flight}
    {stage : Stage} {order' : List Nat} {done' : List (Nat × Turn)} (hf : a.flights[i]? = some f)
    (hunfinished : ∀ u, f.stage ≠ .finished u none)
    (hflights : a'.flights = a.flights.set i ⟨f.key, stage⟩) (hsetting : a'.setting = a.setting)
    (hdone : done' = done ∨ ∃ u, done' = done ++ [(i, u)] ∧ stage = .finished u none)
    (horderly : Orderly turns order' (done'.map (·.1)) a')
    (hslots : a.slots.Spares f.key i a'.slots) (hids : a'.store.Identified)
    (hspares : a.store.Spares f.key a'.store) (htold : Told g alone pace turns done' a' f.key)
    (hsink : a'.emitted = done'.flatMap fun d => d.2.replies.map (d.1, ·)) :
    Coherent g alone pace turns order' done' a' := by
  have hi : i < a.flights.length := (List.getElem?_eq_some_iff.1 hf).1
  have hother : ∀ j ≠ i, a'.flights[j]? = a.flights[j]? := by
    intro j hne
    rw [hflights, List.getElem?_set_ne hne.symm]
  have hself : a'.flights[i]? = some ⟨f.key, stage⟩ := by
    rw [hflights, List.getElem?_set_self hi]
  -- a turn that takes a step has not left
  have hdone_ne : ∀ d ∈ done, d.1 ≠ i := by
    rintro d hd rfl
    obtain ⟨key, hfinished⟩ := h.finished d hd
    rw [hf] at hfinished
    exact hunfinished d.2 (congrArg Flight.stage (Option.some.inj hfinished))
  refine
    { horderly with
      setting := hsetting.trans h.setting
      nodup_done := ?_
      finished := fun d hd => ?_
      identified := hids
      rooms := hspares.rooms.trans h.rooms
      unowned := fun r => (hspares.unowned r).trans (h.unowned r)
      told := fun key => ?_
      sink := hsink }
  · rcases hdone with rfl | ⟨u, rfl, -⟩
    · exact h.nodup_done
    · rw [List.map_append, List.nodup_append]
      refine ⟨h.nodup_done, by simp, fun j hj k hk e => ?_⟩
      obtain ⟨d, hd, rfl⟩ := List.mem_map.1 hj
      exact hdone_ne d hd (by simpa [← e] using hk)
  · have hold : ∀ d ∈ done, ∃ key, a'.flights[d.1]? = some ⟨key, .finished d.2 none⟩ := by
      intro d hd
      rw [hother d.1 (hdone_ne d hd)]
      exact h.finished d hd
    rcases hdone with rfl | ⟨u, rfl, rfl⟩
    · exact hold d hd
    · rcases List.mem_append.1 hd with hd | hd
      · exact hold d hd
      · rw [List.mem_singleton.1 hd]
        exact ⟨f.key, hself⟩
  · by_cases hkey : key = f.key
    · rw [hkey]
      exact htold
    · -- another player has lost nothing in the store, and the holder of another slot has not moved
      refine (h.told key).keep ?_ (by rw [hslots.slot key hkey]) (fun j hj => hother j ?_)
        fun alone ids hmirrors => hmirrors.of_spares hspares hkey
      · rcases hdone with rfl | ⟨u, rfl, -⟩
        · rfl
        · simp [List.filter_append, h.not_isOf hf key hkey]
      · rintro rfl
        obtain ⟨x, hflight⟩ := h.exists_running hj
        rw [hf] at hflight
        exact hkey (congrArg Flight.key (Option.some.inj hflight)).symm

/-- A turn that arrives at a slot that is taken waits. -/
theorem wait (h : Coherent g alone pace turns order done a) {i : Nat} {f : Flight} {t : Turn}
    (hf : a.flights[i]? = some f) (hstage : f.stage = .submitted t)
    (htaken : (a.slots.slot f.key).isFree = false) :
    Coherent g alone pace turns (order ++ [i]) done
      ({ a with slots := a.slots.arrive f.key i }.setStage i f (.waiting t)) := by
  refine h.move hf (by simp [hstage]) rfl rfl (.inl rfl) (h.waits hf hstage htaken rfl rfl)
    (.arrive_taken htaken) h.identified (.refl _ _)
    ((h.told f.key).keep rfl ?_ (fun j hj => ?_) fun _ _ => id) h.sink
  · show ((a.slots.arrive f.key i).slot f.key).holder = _
    rw [Slots.slot_arrive_taken htaken]
  · obtain ⟨x, hflight⟩ := h.exists_running hj
    have hne : i ≠ j := by
      rintro rfl
      rw [hf] at hflight
      rw [Option.some.inj hflight] at hstage
      cases hstage
    exact List.getElem?_set_ne hne

/-- A turn begins when it takes its slot. -/
theorem begin (h : Coherent g alone pace turns order done a) {i : Nat} {f : Flight} {slots : Slots}
    {line : String} (hf : a.flights[i]? = some f)
    (htakes : Takes Store.backend a i f slots
      (a.setting.play (.start line f.key.username f.key.map)))
    (ht : turns[i]? = some (.start line f.key.username f.key.map))
    (hholder : (a.slots.slot f.key).holder = none) :
    Coherent g alone pace turns (arrive turns.length order i) done
      ({ a with slots }.setStage i f
        (.running (a.setting.play (.start line f.key.username f.key.map)))) := by
  have hi : i < a.flights.length := (List.getElem?_eq_some_iff.1 hf).1
  obtain ⟨-, hslots, hholder', -⟩ := h.takes hf htakes
  refine h.move hf (fun u => htakes.not_finished u none) rfl rfl (.inl rfl)
    (h.goesOn hf htakes rfl rfl) hslots h.identified (.refl _ _)
    ((h.told f.key).begin hholder ht hholder' ?_ rfl) h.sink
  rw [← h.setting]
  exact List.getElem?_set_self hi

/-- The holder of a slot is in hand. -/
theorem inHand (h : Coherent g alone pace turns order done a) {i : Nat} {f : Flight} {x : Run}
    (hf : a.flights[i]? = some f) (hstage : f.stage = .running x) :
    (a.slots.slot f.key).holder = some i ∧ ∃ t, turns[i]? = some t ∧
      g.setting.InHand f.key t (ran g alone pace turns done f.key).2.store a.store x := by
  have hholder := h.stage i f hf
  rw [IsAt, hstage] at hholder
  obtain ⟨t, x', ht, hflight, hx⟩ := (h.told f.key).inHand i hholder
  rw [hf] at hflight
  obtain rfl : x = x' := by
    rw [Option.some.inj hflight] at hstage
    exact (Stage.running.inj hstage).symm
  exact ⟨hholder, t, ht, hx⟩

/-- A query of the holder of a slot is answered. -/
theorem answer (h : Coherent g alone pace turns order done a) {i : Nat} {f : Flight} {q : Query}
    {k : q.Answer → Run} (hf : a.flights[i]? = some f) (hstage : f.stage = .running (.ask q k)) :
    Coherent g alone pace turns (arrive turns.length order i) done
      ({ a with store := (Store.answer q a.store).2 }.setStage i f
        (.running (k (Store.answer q a.store).1))) := by
  have htakes : Takes Store.backend a i f a.slots (k (Store.answer q a.store).1) :=
    .isAnswered hstage
  obtain ⟨hholder, t, ht, hx⟩ := h.inHand hf hstage
  obtain ⟨hx', hids, hspares⟩ := hx.answer h.identified
  have hi : i < a.flights.length := (List.getElem?_eq_some_iff.1 hf).1
  exact h.move hf (fun u => htakes.not_finished u none) rfl rfl (.inl rfl)
    (h.goesOn hf htakes rfl rfl) (.refl _ _ _) hids hspares
    ((h.told f.key).running ht hholder (List.getElem?_set_self hi) hx') h.sink

/-- The holder of a slot goes on to its next query. -/
theorem goOn (h : Coherent g alone pace turns order done a) (hs : g.setting.Usable) {i : Nat}
    {f : Flight} {x : Run} (hf : a.flights[i]? = some f) (hstage : f.stage = .running x)
    {ns : List Note} {q : Query} {k : q.Answer → Run} (hadvance : x.advance = (ns, .ask q k)) :
    Coherent g alone pace turns order done (a.settle i f x) := by
  obtain ⟨hholder, t, ht, hx⟩ := h.inHand hf hstage
  obtain ⟨hx', hreplied⟩ := hx.advance_ask hs hadvance
  have hi : i < a.flights.length := (List.getElem?_eq_some_iff.1 hf).1
  have hsink := emitted_settle a i f x
  rw [hadvance, hreplied, List.map_nil, List.append_nil, h.sink] at hsink
  rw [settle_ask hadvance] at hsink ⊢
  exact h.move hf (by simp [hstage]) rfl rfl (.inl rfl)
    (h.toOrderly.move hf rfl (.inl rfl) (.inl rfl) h.serves (.refl _ _ _) hholder) (.refl _ _ _)
    h.identified (.refl _ _) ((h.told f.key).running ht hholder (List.getElem?_set_self hi) hx')
    hsink

/-- The holder of a slot comes to its end and leaves. -/
theorem leave (h : Coherent g alone pace turns order done a) (hg : g.IsIdle)
    (hs : g.setting.Usable) {i : Nat} {f : Flight} {x : Run} (hf : a.flights[i]? = some f)
    (hstage : f.stage = .running x) {ns : List Note} {u : Turn} {halt : Option Halt}
    (hadvance : x.advance = (ns, .done (u, halt))) :
    Coherent g alone pace turns order (done ++ [(i, u)]) (a.settle i f x) := by
  obtain ⟨hholder, t, ht, hx⟩ := h.inHand hf hstage
  obtain ⟨rfl, hreplied, hsame, ids, hmirrors⟩ := hx.advance_done hs hadvance
  have hown := h.isOf_key hf
  have hpending := h.serves.pending_of_holder hholder
  have hnone : ((a.slots.leave f.key).slot f.key).holder = none := by
    rw [Slots.slot_leave_self hpending, Slot.leave]
  have hsink := emitted_settle a i f x
  rw [hadvance, hreplied, h.sink] at hsink
  rw [settle_done hadvance] at hsink ⊢
  refine h.move hf (by simp [hstage]) rfl rfl (.inr ⟨u, rfl, rfl⟩) ?_ (.leave hholder hpending)
    h.identified (.refl _ _) ((h.told f.key).leave hg hown ht hnone hsame hmirrors)
    (by rw [hsink]; simp)
  rw [List.map_append]
  exact h.toOrderly.move hf rfl (.inl rfl) (.inr rfl) (h.serves.leave hholder hown (h.not_isOf hf))
    (.leave hholder hpending) (List.mem_append_right _ (List.mem_singleton_self i))

/-- The holder of a slot goes on or leaves. -/
theorem settle (h : Coherent g alone pace turns order done a) (hg : g.IsIdle)
    (hs : g.setting.Usable) {i : Nat} {f : Flight} {x : Run} (hf : a.flights[i]? = some f)
    (hstage : f.stage = .running x) :
    ∃ done', Coherent g alone pace turns order done' (a.settle i f x) := by
  rcases x.advance_cases with ⟨ns, ⟨u, halt⟩, hadvance⟩ | ⟨ns, q, k, hadvance⟩
  · exact ⟨_, h.leave hg hs hf hstage hadvance⟩
  · exact ⟨_, h.goOn hs hf hstage hadvance⟩

/-- A turn that has not begun is at the beginning of the turn of its player. -/
theorem exists_line (h : Coherent g alone pace turns order done a)
    (hturns : ∀ t ∈ turns, ∃ line, t = .start line t.username t.map) {i : Nat} {f : Flight}
    {t : Turn} (hf : a.flights[i]? = some f) (ht : turns[i]? = some t) :
    ∃ line, t = .start line f.key.username f.key.map := by
  have hkey := h.keys i f hf
  rw [ht] at hkey
  obtain ⟨line, hline⟩ := hturns t (List.mem_of_getElem? ht)
  rw [← Option.some.inj hkey]
  exact ⟨line, hline⟩

/-- Turns in flight remain coherent when one of them takes a step. -/
theorem step_yielding (h : Coherent g alone pace turns order done a) (hg : g.IsIdle)
    (hs : g.setting.Usable) (hturns : ∀ t ∈ turns, ∃ line, t = .start line t.username t.map)
    (i : Nat) : ∃ done', Coherent g alone pace turns (arrive turns.length order i) done'
      (a.step Store.backend .yielding i) := by
  cases hf : a.flights[i]? with
  | none =>
    have hi : ¬i < turns.length := by
      rw [← h.length]
      exact Nat.not_lt.2 (List.getElem?_eq_none_iff.1 hf)
    rw [arrive, if_neg fun e => hi e.1, step_none hf]
    exact ⟨done, h⟩
  | some f =>
    have hi : i < a.flights.length := (List.getElem?_eq_some_iff.1 hf).1
    have hat := h.stage i f hf
    cases hstage : f.stage with
    | submitted t =>
      rw [IsAt, hstage] at hat
      obtain ⟨line, rfl⟩ := h.exists_line hturns hf hat.1
      cases hfree : (a.slots.slot f.key).isFree with
      | true =>
        have hholder := (Slot.isFree_iff.1 hfree).1
        obtain ⟨done', h'⟩ := (h.begin hf (.arrives hstage hfree) hat.1 hholder).settle hg hs
          (List.getElem?_set_self hi) rfl
        rw [settle_setStage] at h'
        rw [step_free hf hstage hfree]
        exact ⟨done', h'⟩
      | false =>
        rw [h.arrive_eq_concat hf hstage, step_taken hf hstage hfree]
        exact ⟨done, h.wait hf hstage hfree⟩
    | waiting t =>
      rw [IsAt, hstage] at hat
      obtain ⟨line, rfl⟩ := h.exists_line hturns hf hat.1
      cases hnext : (a.slots.slot f.key).isNext i with
      | true =>
        have hholder := (Slot.isNext_iff.1 hnext).1
        obtain ⟨done', h'⟩ := (h.begin hf (.isNext hstage hnext) hat.1 hholder).settle hg hs
          (List.getElem?_set_self hi) rfl
        rw [settle_setStage] at h'
        rw [step_next hf hstage hnext]
        exact ⟨done', h'⟩
      | false =>
        rw [h.arrive_eq hf (by simp [hstage]), step_behind hf hstage hnext]
        exact ⟨done, h⟩
    | running x =>
      cases x with
      | ask q k =>
        obtain ⟨done', h'⟩ := (h.answer hf hstage).settle hg hs (List.getElem?_set_self hi) rfl
        rw [settle_setStage] at h'
        rw [step_ask hf hstage]
        exact ⟨done', h'⟩
      | done y =>
        rw [h.arrive_eq hf (by simp [hstage]), step_running hf hstage (by simp)]
        exact h.settle hg hs hf hstage
      | note ns x =>
        rw [h.arrive_eq hf (by simp [hstage]), step_running hf hstage (by simp)]
        exact h.settle hg hs hf hstage
    | finished t halt =>
      rw [h.arrive_eq hf (by simp [hstage]), step_finished hf hstage]
      exact ⟨done, h⟩

theorem step (h : Coherent g alone pace turns order done a) (hg : g.IsIdle) (hs : g.setting.Usable)
    (hturns : ∀ t ∈ turns, ∃ line, t = .start line t.username t.map) (steps : Pace) (i : Nat) :
    ∃ done', Coherent g alone pace turns (arrive turns.length order i) done'
      (a.step Store.backend steps i) := by
  obtain ⟨m, hm⟩ := exists_follow_step Store.backend steps a i
  rw [hm]
  clear hm
  induction m with
  | zero => exact h.step_yielding hg hs hturns i
  | succ m ih =>
    obtain ⟨done', h'⟩ := ih
    obtain ⟨done'', h''⟩ := h'.step_yielding hg hs hturns i
    rw [arrive_arrive] at h''
    rw [List.replicate_succ', follow_append]
    exact ⟨done'', h''⟩

/-- Turns in flight remain coherent whatever steps they take. -/
theorem follow (h : Coherent g alone pace turns order done a) (hg : g.IsIdle)
    (hs : g.setting.Usable) (hturns : ∀ t ∈ turns, ∃ line, t = .start line t.username t.map)
    (steps : Pace) (schedule : List Nat) :
    ∃ done', Coherent g alone pace turns (schedule.foldl (arrive turns.length) order) done'
      (a.follow Store.backend steps schedule) := by
  induction schedule generalizing order done a with
  | nil => exact ⟨done, h⟩
  | cons i schedule ih =>
    obtain ⟨done', h'⟩ := h.step hg hs hturns steps i
    exact ih h'

end Coherent

end Moves

end Arena

end TextAdventure
