import Mathlib.Data.List.Forall2
import TextAdventure.Proofs.Game.Interleaving
import TextAdventure.Proofs.Game.Progress
import TextAdventure.Proofs.Turn.Messages

/-!
# Turns are serializable

Whatever steps turns take that are submitted together, each ends as if the turns of its player had
been played one after another, in the order of their arrival, over a store in which the player is
alone (`Game.submit_serializable`). Players see nothing of each other: only identities and the order
of records tell of the steps.
-/

namespace TextAdventure

namespace Arena

/-- Turns of a player have come out, and have left the own record of the player, as they do if they
are played one after another over a store in which the player is alone. -/
def AsAlone (g : Game Store) (turns : List Turn) (mine : List Nat) (key : TurnKey) (alone : Store)
    (pace : Pace) (a : Arena Store) : Prop :=
  let played := ({ g with store := alone } : Game Store).playInTurn Store.backend pace
    (mine.filterMap fun i => turns[i]?)
  List.Forall₂ (fun i x => ∃ y, a.outcome? i = some y ∧ Run.EndsSame y x) mine played.1 ∧
    Option.Rel Fields.SameButId (a.store.own? key) (played.2.store.own? key)

/-- What has come of turns that are all done is what comes of them one after another. -/
structure Serial (g : Game Store) (turns : List Turn) (order : List Nat) (a : Arena Store) :
    Prop where
  arrived : order.Perm (List.range turns.length)
  alone : ∀ (key : TurnKey) (alone : Store) (pace : Pace),
    alone.records roomCollection = g.store.records roomCollection →
    alone.records playerCollection = (g.store.own? key).toList →
    AsAlone g turns (order.filter (isOf turns key)) key alone pace a
  rooms : a.store.records roomCollection = g.store.records roomCollection
  unowned : ∀ r, a.store.Unowned r ↔ g.store.Unowned r
  /-- The replies of each turn are handed out in one piece, those of one player in the order of
  arrival. -/
  delivered : ∃ served : List Nat, served.Perm (List.range turns.length) ∧
    (∀ key, served.filter (isOf turns key) = order.filter (isOf turns key)) ∧
    a.emitted = served.flatMap fun i =>
      (((a.outcome? i).map (·.1.replies)).getD []).map (i, ·)

namespace Coherent

variable {g : Game Store} {alone : TurnKey → Store} {pace : Pace} {turns : List Turn}
  {order : List Nat} {done : List (Nat × Turn)} {a : Arena Store}

theorem outcome?_of_mem (h : Coherent g alone pace turns order done a) {d : Nat × Turn}
    (hd : d ∈ done) : a.outcome? d.1 = some (d.2, none) := by
  obtain ⟨key, hflight⟩ := h.finished d hd
  simp [outcome?, hflight]

theorem emitted_eq (h : Coherent g alone pace turns order done a) :
    a.emitted = (done.map (·.1)).flatMap fun i =>
      (((a.outcome? i).map (·.1.replies)).getD []).map (i, ·) := by
  rw [h.sink, List.flatMap_map]
  refine List.flatMap_congr fun d hd => ?_
  rw [h.outcome?_of_mem hd]
  rfl

section Done

variable (h : Coherent g alone pace turns order done a) (hdone : a.isDone = true)
include h hdone

theorem stage_of_isDone {i : Nat} {f : Flight} (hf : a.flights[i]? = some f) :
    ∃ u, f.stage = .finished u none ∧ (i, u) ∈ done := by
  have hfinished : f.isFinished = true := List.all_eq_true.1 hdone f (List.mem_of_getElem? hf)
  have hat := h.stage i f hf
  unfold Flight.isFinished at hfinished
  unfold IsAt at hat
  split at hat
  · next hstage => simp [hstage] at hfinished
  · next hstage => simp [hstage] at hfinished
  · next hstage => simp [hstage] at hfinished
  · obtain ⟨d, hd, rfl⟩ := List.mem_map.1 hat
    obtain ⟨key, hflight⟩ := h.finished d hd
    obtain rfl := Option.some.inj (hf.symm.trans hflight)
    exact ⟨d.2, rfl, hd⟩

/-- When all turns are done, nobody holds a slot or waits for it. -/
theorem slot_of_isDone (key : TurnKey) :
    (a.slots.slot key).holder = none ∧ (a.slots.slot key).waiting = [] := by
  refine ⟨Option.eq_none_iff_forall_ne_some.2 fun j hj => ?_,
    List.eq_nil_iff_forall_not_mem.2 fun j hj => ?_⟩
  · obtain ⟨x, hflight⟩ := h.exists_running hj
    obtain ⟨u, hstage, -⟩ := h.stage_of_isDone hdone hflight
    cases hstage
  · obtain ⟨f, t, hf, -, hwaiting⟩ := h.exists_waiting hj
    obtain ⟨u, hstage, -⟩ := h.stage_of_isDone hdone hf
    rw [hwaiting] at hstage
    cases hstage

/-- The turns of each player are done in the order of their arrival. -/
theorem filter_done (key : TurnKey) :
    (done.map (·.1)).filter (isOf turns key) = order.filter (isOf turns key) := by
  obtain ⟨hholder, hwaiting⟩ := h.slot_of_isDone hdone key
  rw [h.serves.queue, hholder, hwaiting, Option.toList_none, List.append_nil, List.append_nil]

theorem done_perm : (done.map (·.1)).Perm (List.range turns.length) := by
  refine (List.perm_ext_iff_of_nodup h.nodup_done List.nodup_range).2 fun i => ?_
  rw [List.mem_range, ← h.length]
  constructor
  · intro hi
    obtain ⟨d, hd, rfl⟩ := List.mem_map.1 hi
    obtain ⟨key, hflight⟩ := h.finished d hd
    exact (List.getElem?_eq_some_iff.1 hflight).1
  · intro hi
    obtain ⟨u, -, hmem⟩ := h.stage_of_isDone hdone (List.getElem?_eq_getElem hi)
    exact List.mem_map.2 ⟨_, hmem, rfl⟩

theorem asAlone (key : TurnKey) :
    AsAlone g turns (order.filter (isOf turns key)) key (alone key) pace a := by
  have hmine : order.filter (isOf turns key) =
      (done.filter fun d => isOf turns key d.1).map (·.1) := by
    rw [← h.filter_done hdone key, List.filter_map]
    rfl
  have hran : ({ g with store := alone key } : Game Store).playInTurn Store.backend pace
      ((order.filter (isOf turns key)).filterMap fun i => turns[i]?) =
        ran g alone pace turns done key := by
    rw [hmine, List.filterMap_map]
    rfl
  obtain ⟨ids, hmirrors⟩ := (h.told key).resting (h.slot_of_isDone hdone key).1
  have hsame := List.forall₂_eq_eq_eq.symm ▸ (h.told key).results.symm
  simp only [List.forall₂_map_left_iff, List.forall₂_map_right_iff] at hsame
  have hmem : ∀ d ∈ done.filter fun d => isOf turns key d.1, d ∈ done :=
    fun d hd => (List.mem_filter.1 hd).1
  rw [AsAlone, hran, hmine, List.forall₂_map_left_iff]
  refine ⟨((List.forall₂_and_left _ _).2 ⟨hmem, hsame⟩).imp ?_, hmirrors.own?_rel⟩
  rintro d x ⟨hd, hx⟩
  obtain ⟨hturn, hhalt⟩ := Prod.mk.inj hx
  exact ⟨_, h.outcome?_of_mem hd, hturn, hhalt⟩

end Done

end Coherent

end Arena

namespace Game

/-- Turns that are submitted together come to their ends whatever steps they take, and then all is as
if each player had been alone and the turns had been played one after another, in the order in which
they arrived. -/
theorem submit_serializable {g : Game Store} (hg : g.IsIdle) (hs : g.setting.Usable)
    (hids : g.store.Identified) (requests : List (String × String × Option String)) (pace : Pace)
    (schedule : List Nat) :
    let turns := requests.map fun r => g.turn r.1 r.2.1 r.2.2
    let a := (g.submit turns).follow Store.backend pace schedule
    (∃ more, (a.follow Store.backend pace more).isDone = true) ∧
      (a.isDone = true → a.Serial g turns (Arena.arrivals turns.length schedule)) := by
  intro turns a
  have hturns : ∀ t ∈ turns, ∃ line, t = .start line t.username t.map := by
    intro t ht
    obtain ⟨r, -, rfl⟩ := List.mem_map.1 ht
    exact ⟨r.1, rfl⟩
  have hcoherent : ∀ (alone : TurnKey → Store) (alonePace : Pace),
      (∀ key, (alone key).records roomCollection = g.store.records roomCollection) →
      (∀ key, (alone key).records playerCollection = (g.store.own? key).toList) →
      ∃ done, a.Coherent g alone alonePace turns (Arena.arrivals turns.length schedule) done := by
    intro alone alonePace hrooms hplayers
    have hstart : (g.submit turns).Coherent g alone alonePace turns [] [] :=
      .submit hg hids hrooms hplayers
    rw [← Arena.foldl_arrive]
    exact hstart.follow hg hs hturns pace schedule
  let own : TurnKey → Store := fun key =>
    g.store.withRecords playerCollection (g.store.own? key).toList
  have hown_rooms : ∀ key, (own key).records roomCollection = g.store.records roomCollection :=
    fun key => Store.records_withRecords_of_ne (by decide) _ _
  have hown_players : ∀ key, (own key).records playerCollection = (g.store.own? key).toList :=
    fun key => Store.records_withRecords _ _ _
  obtain ⟨done, h⟩ := hcoherent own pace hown_rooms hown_players
  refine ⟨submit_exists_isDone hg Store.backend pace turns schedule, fun hdone => ?_⟩
  refine
    { arrived := ?_
      alone := fun key alone alonePace hrooms hplayers => ?_
      rooms := h.rooms
      unowned := h.unowned
      delivered := ⟨_, h.done_perm hdone, h.filter_done hdone, h.emitted_eq⟩ }
  · refine (List.perm_ext_iff_of_nodup h.nodup List.nodup_range).2 fun i => ?_
    rw [List.mem_range]
    constructor
    · intro hi
      simpa using (List.mem_filter.1 (List.mem_eraseDups.1 hi)).2
    · intro hi
      rw [← h.length] at hi
      have hf := List.getElem?_eq_getElem hi
      obtain ⟨u, hstage, -⟩ := h.stage_of_isDone hdone hf
      exact h.mem_order hf (by simp [hstage])
  · -- the store of this player is the given one
    obtain ⟨done', h'⟩ := hcoherent (fun k => if k = key then alone else own k) alonePace
      (fun k => by
        by_cases hk : k = key
        · rw [if_pos hk, hrooms]
        · rw [if_neg hk, hown_rooms])
      (fun k => by
        by_cases hk : k = key
        · rw [if_pos hk, hplayers, hk]
        · rw [if_neg hk, hown_players])
    have halone := h'.asAlone hdone key
    rwa [if_pos rfl] at halone

/-- Ann, who is stored already, takes the lamp and goes into the hall, while Ben, who is new, looks
around. -/
theorem submit_serializable_pair :
    let porch : Room := ⟨.null, 0, 0, "default", "porch", "A porch.",
      [⟨.exit, "east", none, [],
        [⟨[], "You take the lamp along.", some ⟨some (.delta 1 0), ["+lamp"], none⟩⟩]⟩]⟩
    let hall : Room := ⟨.null, 1, 0, "default", "hall", "A hall.", []⟩
    let ann := Player.atPosition "ann" "default" 0 0
    let s := Store.ofCollections
      [(roomCollection, [porch.toRecord, hall.toRecord]), (playerCollection, [ann.toRecord])]
    let g := Game.new ⟨Bundled.english, Bundled.englishMessages, [0, 0]⟩ "default" s
    let turns := [g.turn "go east" "ann" none, g.turn "look" "ben" none]
    g.IsIdle ∧ g.setting.Usable ∧ g.store.Identified ∧
      (g.store.records playerCollection).map (·.get? "username") = [some (.text "ann")] ∧ ∃ more,
        let schedule := [0, 1, 1, 0] ++ more
        let a := (g.submit turns).follow Store.backend .yielding schedule
        a.isDone = true ∧ a.Serial g turns (Arena.arrivals turns.length schedule) := by
  intro porch hall ann s g turns
  have hids : s.Identified := by
    refine ⟨fun r hr => ?_, List.pairwise_singleton _ _⟩
    obtain rfl := List.mem_singleton.1 hr
    exact ⟨3, by decide, rfl⟩
  have hs := Setting.usable_english Bundled.english 0 0
  have hserial := submit_serializable (g := g) rfl hs hids
    [("go east", "ann", none), ("look", "ben", none)] .yielding
  obtain ⟨more, hmore⟩ := (hserial [0, 1, 1, 0]).1
  rw [← Arena.follow_append] at hmore
  exact ⟨rfl, hs, hids, rfl, more, hmore, (hserial ([0, 1, 1, 0] ++ more)).2 hmore⟩

end Game

end TextAdventure
