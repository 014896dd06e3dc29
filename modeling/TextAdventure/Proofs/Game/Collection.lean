import TextAdventure.Proofs.Game.Conduct
import TextAdventure.Proofs.Turn.Tending

/-!
# The collection of players keeps its shape

A game that begins with rooms and without players, over a store whose calls may go wrong in any way,
keeps its collection of players in shape, whatever steps its turns take: at every moment the players
are told apart, every record is one of a player with the items in order, and no record is ever
removed or given to somebody else (`Game.players_keep_shape`). The rooms stay as they are
(`Game.rooms_stay`).
-/

namespace TextAdventure

/-- Over an unreliable store the turns of a game tend the collection of players: each knows what the
store holds about its own player, and does to the players what a turn may do. -/
def Setting.tending (s : Setting) {place : Int × Int} (hplace : s.origin.start = .ok place) :
    Conduct Unreliable.backend s where
  Sound u := u.memory.Keyed
  Knows t x u := ∃ past, x.Always (fun h _ => h.Obeys t.key (s.Resets t.line) .begun) past ∧
    (History.phase .begun past).Fits t.key u.memory
  Does t u u' := s.Tends t u.memory u'.memory
  refl t u := .refl s t u.memory
  trans h h' := h.trans h'
  begins line key u := ⟨[], s.play_obeys hplace line key, trivial⟩
  noted := by
    rintro t ns x u ⟨past, halways, hfits⟩
    refine ⟨past ++ ns.map .noted, halways, ?_⟩
    rwa [History.phase_append, History.phase_notes]
  answered := by
    rintro t q k u hsound ⟨past, halways, hfits⟩
    have hnext := halways (Unreliable.backend.answer q u).1
    obtain ⟨g, x, hobeys⟩ := hnext.exists_history
    rw [History.obeys_append, History.obeys_append] at hobeys
    obtain ⟨hkeyed, hfits', htends⟩ := hfits.answer hsound hobeys.1.2.1
    refine ⟨hkeyed, ⟨_, hnext, ?_⟩, htends⟩
    rw [History.phase_append]
    exact hfits'
  apart := by
    rintro t t' x u u' hkey ⟨past, halways, hfits⟩ htends
    have hown : u'.memory.own? t.key = u.memory.own? t.key := htends.others t.key hkey
    refine ⟨past, halways, ?_⟩
    unfold Turn.Phase.Fits at hfits ⊢
    rwa [hown]

/-- Over an unreliable store the turns of a game leave the rooms alone. -/
def Setting.sparingRooms (s : Setting) : Conduct Unreliable.backend s where
  Sound _ := True
  Knows _ _ _ := True
  Does _ u u' := u'.memory.records roomCollection = u.memory.records roomCollection
  refl _ _ := rfl
  trans h h' := h'.trans h
  begins _ _ _ := trivial
  noted := id
  answered := by
    intro t q k u _ _
    refine ⟨trivial, trivial, ?_⟩
    rcases u.memory_answer q with hmemory | hmemory <;> rw [hmemory]
    exact Store.records_answer_of_ne (by decide) q u.memory
  apart _ _ _ := trivial

namespace Game

/-- A game begins with any rooms and without players, and any calls to its store go wrong in any
way. Then at every moment the players have identities that are distinct and records that are their
own, every record is one of a player with the items in increasing order, and of all that is done
later nothing removes a record or changes its identity and its names. -/
theorem players_keep_shape (vocabulary : Vocabulary) (messages : Value) (x y : Int)
    (beyond : List Int) (map : String) (rooms : List Fields) (outcomes : List Outcome)
    (requests : List (String × String × Option String)) (pace : Pace) (schedule more : List Nat) :
    let g := Game.new ⟨vocabulary, messages, x :: y :: beyond⟩ map
      (⟨Store.ofCollections [(roomCollection, rooms)], outcomes⟩ : Unreliable)
    let a := (g.submit (requests.map fun r => g.turn r.1 r.2.1 r.2.2)).follow
      Unreliable.backend pace schedule
    a.store.memory.Keyed ∧
      (∀ r ∈ a.store.memory.records playerCollection, r.IsProper) ∧
      a.store.memory.tags <+: (a.follow Unreliable.backend pace more).store.memory.tags := by
  intro g a
  have hturns := g.requests_start requests
  have hempty : g.store.memory.records playerCollection = [] := Store.records_ofRooms rooms
  have htags : g.store.memory.tags = [] := by rw [Store.tags, hempty, List.map_nil]
  have hsound : g.store.memory.Keyed := by
    refine ⟨?_, ?_, ?_, ?_⟩ <;> simp [htags]
  have hg : g.IsIdle := rfl
  have hplace : g.setting.origin.start = .ok (x, y) := rfl
  let c := g.setting.tending hplace
  refine ⟨(c.follow hg hsound hturns pace schedule).1, ?_, ?_⟩
  · -- there is no record at the beginning
    have hproper := c.follow_more hg hsound hturns pace
      (R := fun u u' => (∀ r ∈ u.memory.records playerCollection, r.IsProper) →
        ∀ r ∈ u'.memory.records playerCollection, r.IsProper)
      (fun _ => id) (fun _ _ _ h h' => h' ∘ h) (fun _ _ _ h => h.proper) [] schedule
    exact hproper fun r hr => absurd (hempty ▸ hr) List.not_mem_nil
  · exact c.follow_more hg hsound hturns pace
      (R := fun u u' => u.memory.tags <+: u'.memory.tags)
      (fun _ => List.prefix_rfl) (fun _ _ _ h h' => h.trans h') (fun _ _ _ h => h.tags)
      schedule more

/-- Whatever goes wrong with the store of a game, the rooms stay as they are. -/
theorem rooms_stay {g : Game Unreliable} (hg : g.IsIdle)
    (requests : List (String × String × Option String)) (pace : Pace) (schedule : List Nat) :
    let a := (g.submit (requests.map fun r => g.turn r.1 r.2.1 r.2.2)).follow
      Unreliable.backend pace schedule
    a.store.memory.records roomCollection = g.store.memory.records roomCollection :=
  g.setting.sparingRooms.follow_more hg trivial (g.requests_start requests) pace
    (R := fun u u' => u'.memory.records roomCollection = u.memory.records roomCollection)
    (fun _ => rfl) (fun _ _ _ h h' => h'.trans h) (fun _ _ _ h => h) [] schedule

end Game

end TextAdventure
