import TextAdventure.Proofs.Language.NormalForm
import TextAdventure.Proofs.Room.Choice

/-!
# Which names can be typed

In a coherent language the objects of phrases are exactly the words that the vocabulary admits
(`Vocabulary.IsCoherent.exists_object_iff`): what is read is one of them, and each of them is read
when it is written behind a command word. An exit is matched by the folding of its names, so it can
be gone through if and only if one of these is such a word
(`Vocabulary.IsCoherent.exists_passage_iff`). Names of several words are out of reach, for what is
typed with a blank in it is read with the separator.
-/

namespace TextAdventure

namespace Vocabulary

variable {v : Vocabulary}

namespace IsCoherent

variable (hv : v.IsCoherent)
include hv

/-- What can be the object of a phrase. -/
theorem exists_object_iff {object : String} (hne : object ≠ "") :
    (∃ line p, v.parse? line = some p ∧ p.object = object) ↔ v.Admits object := by
  constructor
  · rintro ⟨line, p, h, rfl⟩
    exact hv.admits_object h hne
  · intro h
    exact ⟨_, _, parse?_written (hv.isCanonical_wordFor .go) (.inr h), rfl⟩

theorem fold_go_ne_fold_get : Text.fold (v.wordFor .go) ≠ Text.fold (v.wordFor .get) := by
  rw [(hv.isCanonical_wordFor .go).folded, (hv.isCanonical_wordFor .get).folded]
  exact wordFor_ne hv.distinct (by decide)

/-- Which exits can be gone through, in a room without anything else. -/
theorem exists_passage_iff {a : Attribute} (hexit : a.kind = .exit)
    (hnames : ∀ n ∈ a.name :: a.aliases, n ≠ "") :
    (∃ line p, v.parse? line = some p ∧ p.verb = v.wordFor .go ∧
      Attribute.triggered? [a] (v.wordFor .go) (v.wordFor .get) p.verb p.object = some a) ↔
      ∃ n ∈ a.name :: a.aliases, v.Admits (Text.fold n) := by
  constructor
  · rintro ⟨line, p, h, hverb, htriggered⟩
    rw [hverb, Attribute.triggered?_singleton,
      Attribute.isTriggeredBy_go_iff hexit hv.fold_go_ne_fold_get] at htriggered
    obtain ⟨n, hn, hfold⟩ := htriggered
    have hobject : p.object ≠ "" := by
      intro hempty
      rw [hempty] at hfold
      exact hnames n hn (Text.fold_eq_empty_iff.1 (hfold.trans (by decide)))
    have hadmits := hv.admits_object h hobject
    exact ⟨n, hn, by rwa [hfold, hadmits.folded]⟩
  · rintro ⟨n, hn, hadmits⟩
    refine ⟨_, _, parse?_written (hv.isCanonical_wordFor .go) (.inr hadmits), rfl, ?_⟩
    rw [Attribute.triggered?_singleton,
      Attribute.isTriggeredBy_go_iff hexit hv.fold_go_ne_fold_get]
    exact ⟨n, hn, by simp⟩

end IsCoherent

/-- In the bundled languages the objects of phrases are exactly the words that are their own
folding, have no blank in them and no punctuation at their ends, and are neither fluff nor linkers.
An exit that is alone in its room can be gone through if and only if the folding of one of its names
is such a word. -/
theorem typable_iff (hv : v ∈ [Bundled.english, Bundled.german]) :
    (∀ object, object ≠ "" →
      ((∃ line p, v.parse? line = some p ∧ p.object = object) ↔ v.Admits object)) ∧
    ∀ (room : Room) (a : Attribute), room.attributes = [a] → a.kind = .exit →
      (∀ n ∈ a.name :: a.aliases, n ≠ "") →
      ((∃ line p, v.parse? line = some p ∧ p.verb = v.wordFor .go ∧
          Attribute.triggered? room.attributes (v.wordFor .go) (v.wordFor .get) p.verb p.object =
            some a) ↔
        ∃ n ∈ a.name :: a.aliases, v.Admits (Text.fold n)) := by
  have hcoherent := isCoherent_of_bundled hv
  refine ⟨fun object hne => hcoherent.exists_object_iff hne, fun room a hroom hexit hnames => ?_⟩
  rw [hroom]
  exact hcoherent.exists_passage_iff hexit hnames

/-- The `Große Straße` cannot be typed, as it has a blank in it, but `Straße` can. -/
def street : Attribute where
  kind := .exit
  name := "Große Straße"
  item := none
  aliases := ["Straße", "die"]
  conditions := [⟨[], "", none⟩]

theorem typable_iff_street :
    (∃ line p, Bundled.german.parse? line = some p ∧ p.object = "strasse") ∧
      (¬∃ line p, Bundled.german.parse? line = some p ∧ p.object = "große straße") ∧
      ∃ line p, Bundled.german.parse? line = some p ∧ p.verb = "gehe" ∧
        Attribute.triggered? [street] "gehe" "nimm" p.verb p.object = some street := by
  have h := typable_iff (v := Bundled.german) (by simp)
  refine ⟨(h.1 "strasse" (by decide)).2 (by decide +kernel), ?_, ?_⟩
  · rw [h.1 "große straße" (by decide)]
    decide +kernel
  · exact (h.2 { Room.empty 0 0 defaultMap with attributes := [street] } street rfl rfl
      (by decide)).2 ⟨"Straße", by decide, by decide +kernel⟩

end Vocabulary

end TextAdventure
