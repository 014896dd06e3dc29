import TextAdventure.Proofs.Text.CaseFold
import TextAdventure.Room.Choice

/-!
# What triggers an attribute

The three ways to trigger an attribute as one equivalence (`Attribute.isTriggeredBy_iff`), and the
order of declaration as another (`Attribute.triggered?_eq_some_iff`). An exit answers to every name
that folds to one of its own (`Attribute.answersTo_iff`).
-/

namespace TextAdventure

namespace Attribute

variable {a : Attribute} {attributes : List Attribute} {goWord getWord verb object : String}

theorem answersTo_iff {name : String} :
    a.answersTo name = true ↔ ∃ n ∈ a.name :: a.aliases, Text.fold n = Text.fold name := by
  simp [answersTo]

@[simp] theorem answersTo_fold (a : Attribute) (name : String) :
    a.answersTo (Text.fold name) = a.answersTo name := by
  simp [answersTo]

/-- An attribute is triggered as an exit, as something to be taken or as a command. -/
theorem isTriggeredBy_iff :
    a.isTriggeredBy goWord getWord verb object = true ↔
      (Text.fold verb = Text.fold goWord ∧ a.kind = .exit ∧ a.answersTo object = true) ∨
      (Text.fold verb = Text.fold getWord ∧ Text.fold a.name = Text.fold getWord ∧
        Text.fold (a.item.getD "") = Text.fold object) ∨
      (a.kind = .command ∧ Text.fold a.name ≠ Text.fold getWord ∧ Text.fold a.name ≠ entryName ∧
        Text.fold a.name = Text.fold verb) := by
  simp [isTriggeredBy, and_assoc, or_assoc]

/-- An exit is triggered by going to one of its names. -/
theorem isTriggeredBy_go_iff (hexit : a.kind = .exit) (hne : Text.fold goWord ≠ Text.fold getWord) :
    a.isTriggeredBy goWord getWord goWord object = true ↔
      ∃ n ∈ a.name :: a.aliases, Text.fold n = Text.fold object := by
  simp [isTriggeredBy_iff, hexit, hne, answersTo_iff]

/-- Going triggers the exits that answer, and any command that is named like the word for it. -/
theorem isTriggeredBy_going_iff (hget : Text.fold goWord ≠ Text.fold getWord)
    (hentry : Text.fold goWord ≠ entryName) :
    a.isTriggeredBy goWord getWord goWord object = true ↔
      (a.kind = .exit ∧ a.answersTo object = true) ∨
        (a.kind = .command ∧ Text.fold a.name = Text.fold goWord) := by
  rw [isTriggeredBy_iff]
  constructor
  · rintro (⟨-, h⟩ | ⟨h, -⟩ | ⟨hcommand, -, -, hname⟩)
    · exact .inl h
    · exact absurd h hget
    · exact .inr ⟨hcommand, hname⟩
  · rintro (h | ⟨hcommand, hname⟩)
    · exact .inl ⟨rfl, h⟩
    · exact .inr (.inr ⟨hcommand, hname ▸ hget, hname ▸ hentry, hname⟩)

theorem isTriggeredBy_going_eq_false_iff (hget : Text.fold goWord ≠ Text.fold getWord)
    (hentry : Text.fold goWord ≠ entryName) :
    a.isTriggeredBy goWord getWord goWord object = false ↔
      (a.kind = .exit → a.answersTo object = false) ∧
        (a.kind = .command → Text.fold a.name ≠ Text.fold goWord) := by
  rw [← Bool.not_eq_true, isTriggeredBy_going_iff hget hentry]
  simp

/-- The attribute that is triggered is the first one that can be. -/
theorem triggered?_eq_some_iff :
    triggered? attributes goWord getWord verb object = some a ↔
      a.isTriggeredBy goWord getWord verb object = true ∧
        ∃ before after, attributes = before ++ a :: after ∧
          ∀ b ∈ before, b.isTriggeredBy goWord getWord verb object = false := by
  simp [triggered?, List.find?_eq_some_iff_append]

/-- The only attribute of a room is found if it is triggered. -/
theorem triggered?_singleton :
    triggered? [a] goWord getWord verb object = some a ↔
      a.isTriggeredBy goWord getWord verb object = true := by
  rw [triggered?, List.find?_cons]
  cases isTriggeredBy goWord getWord verb object a <;> simp

end Attribute

end TextAdventure
