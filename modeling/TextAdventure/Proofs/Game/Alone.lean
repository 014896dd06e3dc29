import TextAdventure.Game.Basic
import TextAdventure.Proofs.Script.History
import TextAdventure.Proofs.Turn.Queries

/-!
# Turns that are played alone

A game is idle while no turn is in progress. A turn that is played by an idle game is the run of
its script over the store of the game, whether or not the calls to the store let other turns come
to their steps, and it leaves the game idle (`Game.play_eq`).
-/

namespace TextAdventure

variable {σ : Type}

namespace Arena

theorem settle_note (a : Arena σ) (i : Nat) (f : Flight) (ns : List Note) (script : Run) :
    a.settle i f (.note ns script) =
      { a with trace := a.trace ++ ns.map (i, ·) }.settle i f script := by
  simp only [settle, Script.advance, List.map_append, List.append_assoc, setStage]

/-- The only turn in an arena goes on to its end, if it is given enough steps. -/
theorem runReady_settle (b : Backend σ) {n : Nat} {script : Run} {A : Query → Prop}
    (hscript : script.Asks A n) (a : Arena σ) (f g : Flight) (hflights : a.flights = [g])
    (hslots : a.slots = [(f.key, ⟨1, some 0, []⟩)]) :
    runReady b .yielding n ((a.settle 0 f script).madeReady 0) (a.settle 0 f script) =
      { a with
        flights := [⟨f.key, .finished (script.run b a.store).1.1 (script.run b a.store).1.2⟩]
        slots := []
        store := (script.run b a.store).2.2
        trace := a.trace ++ (script.run b a.store).2.1.map (0, ·) } := by
  induction script generalizing n a g with
  | done x =>
    have hsettle : a.settle 0 f (.done x) =
        { a with flights := [⟨f.key, .finished x.1 x.2⟩], slots := [] } := by
      simp [settle, Script.advance, setStage, hflights, hslots, Slots.leave, Slots.slot,
        Slot.leave, Slots.remove]
    have hready : (a.settle 0 f (.done x)).madeReady 0 = [] := by
      simp [hsettle, madeReady, Slots.slot, Slot.free]
    rw [hready, hsettle]
    cases n <;> simp [runReady, Script.run]
  | note ns next ih =>
    rw [settle_note, ih hscript { a with trace := a.trace ++ ns.map (0, ·) } g hflights hslots]
    simp [Script.run, List.append_assoc]
  | ask q next ih =>
    obtain _ | n := n
    · exact hscript.elim
    · have hsettle : a.settle 0 f (.ask q next) =
          { a with flights := [⟨f.key, .running (.ask q next)⟩] } := by
        simp [settle, Script.advance, setStage, hflights]
      have hready : (a.settle 0 f (.ask q next)).madeReady 0 = [0] := by
        simp [hsettle, madeReady]
      rw [hready, runReady, hsettle]
      exact ih _ (hscript.2 _)
        { a with flights := [⟨f.key, .running (.ask q next)⟩], store := (b.answer q a.store).2 }
        _ rfl hslots

end Arena

namespace Game

/-- No turn is in progress. -/
def IsIdle (g : Game σ) : Prop := g.slots = []

/-- A turn alone is the run of its script, and leaves the game idle. -/
theorem play_eq (b : Backend σ) (pace : Pace) {g : Game σ} (hg : g.IsIdle) (t : Turn) :
    g.play b pace t =
      (⟨[((g.setting.play t).run b g.store).1],
          ((g.setting.play t).run b g.store).2.1.map (0, ·)⟩,
        { g with store := ((g.setting.play t).run b g.store).2.2 }) := by
  obtain ⟨setting, map, slots, store⟩ := g
  obtain rfl : slots = [] := hg
  cases pace with
  | straight =>
    simp [play, playTogether, maxSteps, Arena.runReady, Arena.step, Arena.begin, Arena.runOut,
      Arena.madeReady, Arena.setStage, Slots.slot, Slot.isFree, Slot.free, Slots.arrive,
      Slot.arrive, Slots.put, Slots.leave, Slot.leave, Slots.remove]
  | yielding =>
    have harena := Arena.runReady_settle b ((setting.play_asks t).mono (n := 39) (by omega))
      { setting, slots := [(⟨t.username, t.map⟩, ⟨1, some 0, []⟩)], store
        flights := [⟨⟨t.username, t.map⟩, .submitted t⟩], trace := [] }
      ⟨⟨t.username, t.map⟩, .submitted t⟩ _ rfl rfl
    simp [play, playTogether, maxSteps, Arena.runReady, Arena.step, Arena.begin, Slots.slot,
      Slot.isFree, Slot.free, Slots.arrive, Slot.arrive, Slots.put, harena]

theorem play_new (b : Backend σ) (pace : Pace) (setting : Setting) (map : String) (store : σ)
    (t : Turn) :
    (new setting map store).play b pace t =
      (⟨[((setting.play t).run b store).1], ((setting.play t).run b store).2.1.map (0, ·)⟩,
        new setting map ((setting.play t).run b store).2.2) :=
  play_eq b pace (g := new setting map store) rfl t

theorem play_isIdle (b : Backend σ) (pace : Pace) {g : Game σ} (hg : g.IsIdle) (t : Turn) :
    (g.play b pace t).2.IsIdle := by
  rw [play_eq b pace hg]
  exact hg

/-! ### Turns one after another -/

/-- Plays turns one after another. -/
def playInTurn (b : Backend σ) (pace : Pace) (g : Game σ) :
    List Turn → List (Turn × Option Halt) × Game σ
  | [] => ([], g)
  | t :: ts =>
    let (played, g) := g.play b pace t
    let (rest, g) := g.playInTurn b pace ts
    (played.turns ++ rest, g)

theorem playInTurn_append (b : Backend σ) (pace : Pace) (g : Game σ) (ts us : List Turn) :
    g.playInTurn b pace (ts ++ us) =
      ((g.playInTurn b pace ts).1 ++ ((g.playInTurn b pace ts).2.playInTurn b pace us).1,
        ((g.playInTurn b pace ts).2.playInTurn b pace us).2) := by
  induction ts generalizing g with
  | nil => rfl
  | cons t ts ih => simp [playInTurn, ih, List.append_assoc]

variable (b : Backend σ) (pace : Pace) {g : Game σ}

theorem playInTurn_isIdle (hg : g.IsIdle) (ts : List Turn) :
    (g.playInTurn b pace ts).2.IsIdle ∧ (g.playInTurn b pace ts).2.setting = g.setting := by
  induction ts generalizing g with
  | nil => exact ⟨hg, rfl⟩
  | cons t ts ih =>
    obtain ⟨hidle, hsetting⟩ := ih (play_isIdle b pace hg t)
    refine ⟨hidle, hsetting.trans ?_⟩
    rw [play_eq b pace hg]

/-- One more turn runs over the store that the others have left. -/
theorem playInTurn_concat (hg : g.IsIdle) (ts : List Turn) (t : Turn) :
    (g.playInTurn b pace (ts ++ [t])).1 =
        (g.playInTurn b pace ts).1 ++
          [((g.setting.play t).run b (g.playInTurn b pace ts).2.store).1] ∧
      (g.playInTurn b pace (ts ++ [t])).2.store =
        ((g.setting.play t).run b (g.playInTurn b pace ts).2.store).2.2 := by
  obtain ⟨hidle, hsetting⟩ := playInTurn_isIdle b pace hg ts
  have hplay := play_eq b pace hidle t
  rw [hsetting] at hplay
  rw [playInTurn_append]
  simp [playInTurn, hplay]

end Game

end TextAdventure
