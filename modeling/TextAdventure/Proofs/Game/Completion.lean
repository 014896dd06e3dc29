import TextAdventure.Proofs.Game.Alone
import TextAdventure.Proofs.Turn.Course
import TextAdventure.Proofs.Turn.Messages
import TextAdventure.Store.Memory

/-!
# The completion of turns

A turn played with usable messages is completed exactly once, after all else, whatever the store
answers. Its replies are either all handed out, with nothing left to save, or none of them is, after
a failure of the store (`Game.play_completed_once`).
-/

namespace TextAdventure

namespace Game

variable {σ : Type}

/-- Whatever the store answers, a turn is completed exactly once, after its last query and its last
reply, and the player has left the room. If no look-up or insertion went wrong, the turn has no
error, its replies have been handed out in order, and nothing is left to save. Otherwise it has an
error and no replies, none was handed out, and its status was not saved. -/
theorem play_completed_once (b : Backend σ) (pace : Pace) {g : Game σ} (hg : g.IsIdle)
    (hs : g.setting.Usable) (line username : String) (map : Option String) :
    let t := g.turn line username map
    let h := (g.setting.play t).history b g.store
    ∃ (u : Turn) (before : History),
      g.play b pace t = (⟨[(u, none)], h.notes.map (0, ·)⟩, { g with store := h.replay b g.store }) ∧
        h.AnsweredBy b g.store ∧
        h = before ++ [.noted .completed] ∧ .noted .completed ∉ before ∧
        u.isComplete = true ∧ u.room = none ∧
        (¬h.Fails → u.error = none ∧ h.replied = u.replies ∧ u.pending = .none) ∧
        (h.Fails → u.error ≠ none ∧ u.replies = [] ∧ h.replied = [] ∧
          ∀ c ∈ h.changes, c.isStatus = false) := by
  intro t h
  obtain ⟨u, hrun, hends⟩ := hs.run_play b g.store line username t.map
  have hplay : g.play b pace t =
      (⟨[(u, none)], h.notes.map (0, ·)⟩, { g with store := h.replay b g.store }) := by
    rw [play_eq b pace hg, ← Script.notes_history, ← Script.replay_history]
    rw [show ((g.setting.play t).run b g.store).1 = (u, none) from hrun]
  have hanswered := Script.answeredBy_history b (g.setting.play t) g.store
  rcases hends with hu | hu
  · obtain ⟨before, hbefore, hquiet⟩ := hu.ending
    have hreplied : h.replied = u.replies := by
      rw [show h = before ++ u.handedOut.map .noted from hbefore, History.replied_append,
        hquiet.replied_eq, History.replied_handedOut, List.nil_append]
    refine ⟨u, before ++ (u.replies.map Note.replied).map .noted, hplay, hanswered, ?_, ?_,
      hu.isComplete, hu.room, fun _ => ⟨hu.error, hreplied, hu.pending⟩,
      fun hf => absurd hf hu.sound⟩
    · rw [show h = before ++ u.handedOut.map .noted from hbefore]
      simp [Turn.handedOut]
    · simp [hquiet.completed_not_mem]
  · obtain ⟨before, hbefore, hquiet⟩ := hu.ending
    have hreplied : h.replied = [] := by
      rw [show h = before ++ [.noted .completed] from hbefore, History.replied_append,
        hquiet.replied_eq]
      rfl
    exact ⟨u, before, hplay, hanswered, hbefore, hquiet.completed_not_mem, hu.isComplete, hu.room,
      fun hf => absurd hu.fails hf, fun _ => ⟨hu.error, hu.replies, hreplied, hu.status⟩⟩

/-- A turn of a new player in English, over an empty store, is completed. -/
theorem play_completed_once_english :
    let g := Game.new ⟨Bundled.english, Bundled.englishMessages, [0, 0]⟩ "default" Store.empty
    g.IsIdle ∧ g.setting.Usable ∧
      ∃ u, (g.play Store.backend .yielding (g.turn "look" "ann" none)).1.turns = [(u, none)] ∧
        u.isComplete = true ∧ u.room = none := by
  intro g
  refine ⟨rfl, Setting.usable_english _ 0 0, ?_⟩
  obtain ⟨u, before, hplay, -, -, -, hcomplete, hroom, -⟩ :=
    play_completed_once Store.backend .yielding (g := g) rfl (Setting.usable_english _ 0 0)
      "look" "ann" none
  exact ⟨u, congrArg (·.1.turns) hplay, hcomplete, hroom⟩

end Game

end TextAdventure
