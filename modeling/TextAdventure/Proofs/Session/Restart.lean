import TextAdventure.Proofs.Game.Alone
import TextAdventure.Proofs.Store.Reopening
import TextAdventure.Session.Opening

/-!
# Games that are opened again

Between turns a game with a save file may be given up and opened again over the same world. Nobody
sees a difference to one game in memory that is never given up: the turns come to the same, and so
do the players with their identities (`Opening.restart_invisible`).
-/

namespace TextAdventure

/-- The line of a turn, the name of the player, and the map if one is given. -/
abbrev Request := String × String × Option String

/-- What is done with a game: a turn is played, or the game is given up and opened again. -/
inductive Deed where
  | play (r : Request)
  | restart

/-- The turns among some deeds. -/
def Deed.requests (deeds : List Deed) : List Request :=
  deeds.filterMap fun
    | .play r => some r
    | .restart => none

/-- What is seen of a turn: what has come of it, and the players after it. -/
structure Seen where
  played : Game.Played
  players : List Fields

/-- The same is seen of two turns; the entries of records have no order. -/
def Seen.Same (a b : Seen) : Prop := a.played = b.played ∧ List.Forall₂ List.Perm a.players b.players

/-- Plays turns one after another in memory. -/
def Game.watch (pace : Pace) (g : Game Store) : List Request → List Seen × Game Store
  | [] => ([], g)
  | r :: rest =>
    let (played, g) := g.play Store.backend pace (g.turn r.1 r.2.1 r.2.2)
    let (seen, last) := g.watch pace rest
    (⟨played, g.store.records playerCollection⟩ :: seen, last)

namespace Opening

/-- Plays turns one after another with a save file, and opens the game again in between. -/
def live (data : Disk) (plan : Plan) (pace : Pace) (g : Game SavedStore) :
    List Deed → Except OpeningError (List Seen × Game SavedStore)
  | [] => .ok ([], g)
  | .play r :: deeds =>
    let (played, g) := g.play SavedStore.backend pace (g.turn r.1 r.2.1 r.2.2)
    match live data plan pace g deeds with
    | .ok (seen, last) => .ok (⟨played, g.store.store.records playerCollection⟩ :: seen, last)
    | .error e => .error e
  | .restart :: deeds =>
    match (start data g.store.disk plan).result with
    | .ok g => live data plan pace g deeds
    | .error e => .error e

variable {data disk disk' : Disk} {plan : Plan} {place : Path} {w : World}

/-- A world is loaded as before when a new file has been written. -/
theorem loadWorld_of_agreesBut (h : disk.AgreesBut place disk') (hnew : disk.file? place = none)
    (hworld : loadWorld disk plan = .ok w) : loadWorld disk' plan = .ok w := by
  unfold loadWorld at hworld ⊢
  cases hplan : plan.world with
  | none =>
    rw [hplan] at hworld
    exact hworld
  | some path =>
    simp only [hplan] at hworld ⊢
    cases hload : disk.load path with
    | ok document =>
      rw [hload] at hworld
      rw [h.load hnew hload]
      exact hworld
    | error e =>
      rw [hload] at hworld
      cases e with
      | file e => cases e <;> cases hworld
      | content e => cases e <;> cases hworld

/-- A game is opened only if no faults are found. What is checked before the store is opened does not
depend on the disk. -/
theorem exists_inWorld_eq {language : String} {g : Game SavedStore}
    (hopen : (inWorld data disk plan language w).result = .ok g) : ∃ lines pack,
      faults pack.vocabulary w = [] ∧ ∀ disk',
        inWorld data disk' plan language w = openStore disk' plan lines w pack := by
  unfold inWorld at hopen ⊢
  cases hpack : Pack.load data language with
  | error e =>
    rw [hpack] at hopen
    cases hopen
  | ok pack =>
    rw [hpack] at hopen
    cases hdiscrepancies : Pack.discrepancies data language with
    | error e =>
      rw [hdiscrepancies] at hopen
      cases hopen
    | ok discrepancies =>
      rw [hdiscrepancies] at hopen
      dsimp only at hopen ⊢
      split at hopen
      · next htold =>
        cases hfaults : faults pack.vocabulary w with
        | cons fault more =>
          rw [hfaults] at hopen
          dsimp only at hopen
          split at hopen <;> cases hopen
        | nil =>
          refine ⟨warnings discrepancies w, pack, hfaults, fun disk' => ?_⟩
          rw [if_pos htold]
      · cases hopen

theorem exists_start_eq {g : Game SavedStore} (hworld : loadWorld disk plan = .ok w)
    (hopen : (start data disk plan).result = .ok g) : ∃ lines pack,
      faults pack.vocabulary w = [] ∧ ∀ disk', loadWorld disk' plan = .ok w →
        start data disk' plan = openStore disk' plan lines w pack := by
  unfold start at hopen ⊢
  rw [hworld] at hopen
  cases hlanguage : plan.language with
  | none =>
    rw [hlanguage] at hopen
    cases hopen
  | some language =>
    rw [hlanguage] at hopen
    obtain ⟨lines, pack, hfaults, heq⟩ := exists_inWorld_eq hopen
    refine ⟨lines, pack, hfaults, fun disk' hworld' => ?_⟩
    rw [hworld']
    exact heq disk'

/-- A game that is opened is idle over the store that was opened, and opened again it is the same
over another store. -/
theorem start_eq_ok {g : Game SavedStore} (hworld : loadWorld disk plan = .ok w)
    (hopen : (start data disk plan).result = .ok g) :
    SavedStore.open? disk plan.save [(roomCollection, w.records)] = .ok g.store ∧ g.IsIdle ∧
      ∀ disk' s, loadWorld disk' plan = .ok w →
        SavedStore.open? disk' plan.save [(roomCollection, w.records)] = .ok s →
        (start data disk' plan).result = .ok { g with store := s } := by
  obtain ⟨lines, pack, -, hstart⟩ := exists_start_eq hworld hopen
  rw [hstart disk hworld, openStore] at hopen
  cases hstore : SavedStore.open? disk plan.save [(roomCollection, w.records)] with
  | error e =>
    rw [hstore] at hopen
    cases e <;> cases hopen
  | ok store =>
    rw [hstore] at hopen
    obtain rfl := Except.ok.inj hopen
    refine ⟨rfl, rfl, fun disk' s hworld' hs => ?_⟩
    rw [hstart disk' hworld', openStore, hs]
    rfl

/-! ### The game with a save file beside the one in memory -/

section Live

variable {path : Path} {memory : Store} {s : SavedStore} {entries : List (Player × Int)}

/-- A turn comes to the same in both games. -/
theorem play_same (pace : Pace) (setting : Setting) (map : String) (r : Request)
    (h : SavedStore.Keeps disk path place
      (Store.ofCollections [(roomCollection, w.records)]) memory s entries)
    (hroom : disk.HasRoomFor path place) :
    ∃ played memory' s' entries',
      (Game.new setting map memory).play Store.backend pace
          ((Game.new setting map memory).turn r.1 r.2.1 r.2.2) =
        (played, .new setting map memory') ∧
      (Game.new setting map s).play SavedStore.backend pace
          ((Game.new setting map s).turn r.1 r.2.1 r.2.2) = (played, .new setting map s') ∧
      SavedStore.Keeps disk path place
        (Store.ofCollections [(roomCollection, w.records)]) memory' s' entries' := by
  let t := (Game.new setting map memory).turn r.1 r.2.1 r.2.2
  obtain ⟨entries', hresult, hnotes, h'⟩ := h.run_play hroom setting t
  refine ⟨_, _, _, entries', Game.play_new Store.backend pace setting map memory t, ?_, h'⟩
  rw [← hresult, ← hnotes]
  exact Game.play_new SavedStore.backend pace setting map s t

/-- However often the game is opened again, it goes on as the one in memory. -/
theorem exists_live (pace : Pace) {g : Game SavedStore} (hsave : plan.save = some path)
    (hworld : loadWorld disk plan = .ok w) (hopen : (start data disk plan).result = .ok g)
    (hroom : disk.HasRoomFor path place)
    (h : SavedStore.Keeps disk path place
      (Store.ofCollections [(roomCollection, w.records)]) memory s entries)
    (deeds : List Deed)
    (hyaml : ∀ before after, Deed.requests deeds = before ++ after → SavedStore.ReadsBack
      (((Game.new g.setting g.map memory).watch pace before).2.store.records playerCollection)) :
    ∃ seen last, live data plan pace (.new g.setting g.map s) deeds = .ok (seen, last) ∧
      List.Forall₂ Seen.Same
        ((Game.new g.setting g.map memory).watch pace (Deed.requests deeds)).1 seen ∧
      ∀ x ∈ seen, x.players.map (·.get? "_id") =
        (List.range x.players.length).map fun i : Nat => some (.int (1 + w.records.length + i)) := by
  -- a turn changes both stores, a restart that with the save file only
  induction deeds generalizing memory s entries with
  | nil => exact ⟨[], _, rfl, .nil, fun x hx => absurd hx List.not_mem_nil⟩
  | cons deed deeds ih =>
    cases deed with
    | play r =>
      obtain ⟨played, memory', s', entries', hmemory, hsaved, h'⟩ :=
        play_same pace g.setting g.map r h hroom
      have hyaml' : ∀ before after, Deed.requests deeds = before ++ after → SavedStore.ReadsBack
          (((Game.new g.setting g.map memory').watch pace before).2.store.records
            playerCollection) := by
        intro before after hbefore
        have hread := hyaml (r :: before) after (congrArg (r :: ·) hbefore)
        rwa [Game.watch, hmemory] at hread
      obtain ⟨seen, last, hlive, hsame, hids⟩ := ih h' hyaml'
      have hrequests : Deed.requests (.play r :: deeds) = r :: Deed.requests deeds := rfl
      refine ⟨⟨played, s'.store.records playerCollection⟩ :: seen, last, ?_, ?_, ?_⟩
      · rw [live, hsaved]
        simp only [hlive]
        rfl
      · rw [hrequests, Game.watch, hmemory]
        exact .cons ⟨rfl, h'.perm⟩ hsame
      · intro x hx
        rcases List.mem_cons.1 hx with rfl | hx
        · rw [h'.ids, SavedStore.nextId_ofRooms]
        · exact hids x hx
    | restart =>
      obtain ⟨s', hs', h'⟩ := h.exists_reopen hroom (hyaml [] _ rfl)
      have hworld' := loadWorld_of_agreesBut h.disk hroom.file? hworld
      obtain ⟨-, hidle, hstart⟩ := start_eq_ok hworld hopen
      rw [hsave] at hstart
      have hopen' : (start data s.disk plan).result = .ok (.new g.setting g.map s') := by
        rw [hstart s.disk s' hworld' hs', Game.new, show ([] : Slots) = g.slots from hidle.symm]
      obtain ⟨seen, last, hlive, hsame, hids⟩ := ih h' hyaml
      refine ⟨seen, last, ?_, hsame, hids⟩
      rw [live, show (Game.new g.setting g.map s).store.disk = s.disk from rfl, hopen']
      exact hlive

end Live

/-- Restarting is invisible. A game with a save file, which is missing at first and can be written,
goes on after every restart, and its turns and its players are those of one game in memory over the
same rooms. The identities of the players count on from those of the rooms. -/
theorem restart_invisible (data disk : Disk) (plan : Plan) (pace : Pace) {path : Path} {w : World}
    {g : Game SavedStore} (hsave : plan.save = some path) (hworld : loadWorld disk plan = .ok w)
    (hopen : (start data disk plan).result = .ok g) (hmissing : disk.has path = .ok false)
    (hwrite : ∃ content after, disk.write path content = .ok after) (deeds : List Deed)
    (hyaml : ∀ before after, Deed.requests deeds = before ++ after → SavedStore.ReadsBack
      (((Game.new g.setting g.map (Store.ofCollections [(roomCollection, w.records)])).watch pace
        before).2.store.records playerCollection)) :
    ∃ seen last, live data plan pace g deeds = .ok (seen, last) ∧
      List.Forall₂ Seen.Same
        ((Game.new g.setting g.map (Store.ofCollections [(roomCollection, w.records)])).watch pace
          (Deed.requests deeds)).1 seen ∧
      ∀ x ∈ seen, x.players.map (·.get? "_id") =
        (List.range x.players.length).map fun i : Nat => some (.int (1 + w.records.length + i)) := by
  obtain ⟨content, after, hwritten⟩ := hwrite
  obtain ⟨place, hroom⟩ := Disk.exists_hasRoomFor hmissing hwritten
  obtain ⟨hstore, hidle, -⟩ := start_eq_ok hworld hopen
  obtain ⟨s, hs, hkeeps⟩ := SavedStore.exists_open w.records hroom
  rw [hsave, hs] at hstore
  have hg : g = .new g.setting g.map s := by
    rw [Except.ok.inj hstore, Game.new, show ([] : Slots) = g.slots from hidle.symm]
  rw [hg]
  exact exists_live pace hsave hworld hopen hroom hkeeps deeds hyaml

/-- In the sample world Ann looks around, the game is opened again, and Bob looks around. -/
theorem restart_invisible_english :
    let plan : Plan := ⟨none, some "en", some (.ofText "save.yaml")⟩
    let base := Store.ofCollections [(roomCollection, Bundled.englishWorld.records)]
    let ann : Request := ("look", "ann", none)
    let bob : Request := ("look", "bob", none)
    ∃ g seen last, (start Bundled.data .empty plan).result = .ok g ∧
      live Bundled.data plan .yielding g [.play ann, .restart, .play bob] = .ok (seen, last) ∧
      List.Forall₂ Seen.Same
        ((Game.new g.setting g.map base).watch .yielding [ann, bob]).1 seen := by
  intro plan base ann bob
  have hworld : loadWorld .empty plan = .ok Bundled.englishWorld := by
    decide +kernel
  have hsave : plan.save = some (.ofText "save.yaml") := rfl
  have hchecked : (match (start Bundled.data .empty plan).result with
      | .ok g => decide (∀ before ∈ [[], [ann], [ann, bob]], SavedStore.ReadsBack
        (((Game.new g.setting g.map base).watch .yielding before).2.store.records playerCollection))
      | .error _ => false) = true := by
    decide +kernel
  cases hopen : (start Bundled.data .empty plan).result with
  | error e =>
    rw [hopen] at hchecked
    cases hchecked
  | ok g =>
    rw [hopen] at hchecked
    have hyaml : ∀ before after, Deed.requests [.play ann, .restart, .play bob] = before ++ after →
        SavedStore.ReadsBack (((Game.new g.setting g.map base).watch .yielding
          before).2.store.records playerCollection) := by
      intro before after hbefore
      refine of_decide_eq_true hchecked before ?_
      have hprefix : before <+: [ann, bob] := ⟨after, hbefore.symm⟩
      rcases List.prefix_cons_iff.1 hprefix with rfl | ⟨rest, rfl, hrest⟩
      · simp
      · rcases List.prefix_cons_iff.1 hrest with rfl | ⟨none, rfl, hnone⟩
        · simp
        · simp [List.prefix_nil.1 hnone]
    obtain ⟨seen, last, hlive, hsame, -⟩ := restart_invisible Bundled.data .empty plan .yielding
      hsave hworld hopen rfl ⟨.text "", _, rfl⟩ _ hyaml
    exact ⟨g, seen, last, rfl, hlive, hsame⟩

end Opening

end TextAdventure
