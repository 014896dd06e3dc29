import TextAdventure.Language.Bundled
import TextAdventure.Proofs.Game.Contract
import TextAdventure.Proofs.Store.Identity
import TextAdventure.Proofs.Store.Unreliable
import TextAdventure.Proofs.Turn.Guards

/-!
# Games in guarded rooms

A game over guarded rooms never gives an effect for nothing, whatever is played and whatever goes wrong
with the store (`Game.effects_are_due`). Turns do not touch the rooms, so the store goes on answering
with guarded ones, and each turn keeps to what it promises on its own.
-/

namespace TextAdventure

namespace Unreliable

/-- All rooms that the store holds are guarded; records that are not of rooms do not matter. -/
def IsGuarded (u : Unreliable) : Prop :=
  ∀ r ∈ u.memory.records roomCollection, ∀ room, Room.read (.table r) = .valid room → room.IsGuarded

/-- A store with guarded rooms answers with them or fails, and goes on holding them. -/
theorem guarding_answeredBy : guarding.AnsweredBy backend IsGuarded := by
  intro q u hu _
  have hrooms : (backend.answer q u).2.memory.records roomCollection =
      u.memory.records roomCollection := by
    obtain hmemory | hmemory := u.memory_answer q <;> rw [hmemory]
    exact Store.records_answer_of_ne (by decide) q u.memory
  refine ⟨?_, fun r hr => hu r (hrooms ▸ hr)⟩
  cases q with
  | findRoom x y map =>
    intro room hroom
    obtain hanswer | ⟨e, hanswer⟩ := u.answer_findRoom x y map
    · rw [hanswer] at hroom
      cases hfind : u.memory.find? roomCollection (Query.roomSelector x y map) with
      | none => simp [hfind, Script.roomFound] at hroom
      | some record =>
        cases hread : Room.read (.table record) with
        | invalid problems => simp [hfind, Script.roomFound, hread] at hroom
        | valid found =>
          obtain rfl : found = room := by simpa [hfind, Script.roomFound, hread] using hroom
          exact hu record (List.mem_of_find?_eq_some hfind) found hread
    · simp [hanswer, Script.roomFound] at hroom
  | findPlayer username map => trivial
  | insertPlayer record => trivial
  | updatePlayer id change => trivial

end Unreliable

/-- Every query can be answered with a failure. -/
theorem exists_guarding_fits (q : Query) : ∃ answer, guarding.Fits q answer := by
  cases q with
  | findRoom x y map => exact ⟨.error (.refused ""), fun room hroom => nomatch hroom⟩
  | findPlayer username map => exact ⟨.ok none, trivial⟩
  | insertPlayer record => exact ⟨.error (.refused ""), trivial⟩
  | updatePlayer id change => exact ⟨.ok false, trivial⟩

namespace Game

/-- In a game over guarded rooms, whatever goes wrong with the store, each turn has a player at its
beginning from whom its notes lead on, step by step: what is applied is applied to the player whom the
notes before it tell of and makes the one whom they tell of with it, and if it has an effect, the
condition that it belongs to is due. A turn that has ended has the player of all its notes, so there
is no effect besides. -/
theorem effects_are_due {g : Game Unreliable} (hguarded : g.store.IsGuarded)
    (requests : List (String × String × Option String)) (pace : Pace) (schedule : List Nat) :
    let a := (g.submit (requests.map fun r => g.turn r.1 r.2.1 r.2.2)).follow
      Unreliable.backend pace schedule
    ∀ (i : Nat) (f : Flight), a.flights[i]? = some f → ∃ start,
      (∀ pre n post attr c p q, a.notesOf i = pre ++ n :: post → n = .applied attr c p q →
        p = g.setting.course start pre ∧ q = g.setting.course start (pre ++ [n]) ∧
        (c.effect ≠ none → c.IsDue p.items attr.conditions)) ∧
      ∀ u halt p, f.stage = .finished u halt → u.player = some p →
        p = g.setting.course start (a.notesOf i) := by
  intro a i f hf
  have hplay : ∀ t ∈ requests.map fun r => g.turn r.1 r.2.1 r.2.2,
      (g.setting.play t).Keeps guarding g.setting.IsFair [] := by
    intro t ht
    obtain ⟨line, hline⟩ := g.requests_start requests t ht
    rw [hline]
    exact g.setting.play_isFair line t.username t.map
  have hkeeping := Contract.follow (P := fun _ => g.setting.IsFair)
    Unreliable.guarding_answeredBy hguarded hplay pace schedule
  -- what a turn under way has noted is a beginning of what it can still come to
  obtain ⟨-, more, x, -, ⟨start, hgranted, hplayer⟩, hends⟩ :=
    hkeeping.exists_end hplay (fun q _ => exists_guarding_fits q) hf
  refine ⟨start, fun pre n post attr c p q hnotes hn => ?_, fun u halt p hstage hp => ?_⟩
  · exact hgranted.of_append pre n post hnotes attr c p q hn
  · obtain ⟨rfl, rfl⟩ := hends u halt hstage
    rw [List.append_nil] at hplayer
    exact hplayer p hp

/-- A chest that gives a gem to whoever has the key. -/
def chest : Attribute :=
  ⟨.command, "open", none, [],
    [⟨["key"], "You find a gem.", some ⟨none, ["gem"], none⟩⟩, ⟨[], "It is locked.", none⟩]⟩

/-- A game with a chest in a room that has a key. The store fails when it is called for the second
time. -/
def atChest : Game Unreliable :=
  let vault : Room := ⟨.null, 0, 0, "default", "vault", "A vault.",
    [⟨.command, "get", some "key", [], [⟨[], "You take the key.", some ⟨none, ["key"], none⟩⟩]⟩,
      chest]⟩
  .new ⟨Bundled.english, Bundled.englishMessages, [0, 0]⟩ "default"
    ⟨Store.ofCollections [(roomCollection, [vault.toRecord])],
      [.works, .fails "database unavailable" false]⟩

/-- Ann fails to come into the vault, finds the chest locked, takes the key and opens it. The gem is
due. -/
theorem effects_are_due_chest :
    let lines := ["look", "open", "get key", "open"]
    let a := (atChest.submit (lines.map fun line => atChest.turn line "ann" none)).follow
      Unreliable.backend .straight [0, 1, 2, 3]
    atChest.store.IsGuarded ∧ ∃ c p q, .applied chest c p q ∈ a.notesOf 3 ∧
      c.needs = ["key"] ∧ c.effect ≠ none ∧ c.IsDue p.items chest.conditions := by
  intro lines a
  have hguarded : atChest.store.IsGuarded := by
    intro r hr room hroom
    obtain rfl := List.mem_singleton.1 hr
    obtain rfl := Checked.valid.inj hroom
    decide
  let ann : Player := { Player.atPosition "ann" "default" 0 0 with id := .int 2 }
  have hmem : .applied chest ⟨["key"], "You find a gem.", some ⟨none, ["gem"], none⟩⟩
      { ann with items := .ofList ["key"] } { ann with items := .ofList ["key", "gem"] } ∈
        a.notesOf 3 := by
    decide +kernel
  have hflight : (a.flights[3]?).isSome = true := by
    decide +kernel
  obtain ⟨f, hf⟩ := Option.isSome_iff_exists.1 hflight
  obtain ⟨start, hdue, -⟩ := effects_are_due hguarded
    (lines.map fun line => (line, "ann", none)) .straight [0, 1, 2, 3] 3 f hf
  obtain ⟨pre, post, hnotes⟩ := List.append_of_mem hmem
  obtain ⟨-, -, hc⟩ := hdue pre _ post _ _ _ _ hnotes rfl
  exact ⟨hguarded, _, _, _, hmem, rfl, Option.some_ne_none _, hc (Option.some_ne_none _)⟩

end Game

end TextAdventure
