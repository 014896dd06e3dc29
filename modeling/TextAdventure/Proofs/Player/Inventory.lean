import Mathlib.Data.List.Induction
import TextAdventure.Player.Inventory

/-!
# The last word on an item

Item changes are given as words, any number of which may be about the same item, and the names of
items may begin with signs of their own. How a word is read is said here without taking it apart: it
gives an item (`Inventory.Gives`) or takes one away (`Inventory.Takes`), and it is about no other item
(`Inventory.names_iff`).

Of a list of words only the last one about an item counts (`Inventory.mem_applyWords_iff`). The
induction is from the right, since the last word decides on the item that it names and leaves all
others to the words before it. So a list says of each item that it is given, that it is taken, or
nothing. Therefore it makes no difference to carry out a list twice, and lists about different items
can be carried out in either order (`Inventory.last_word_wins`).
-/

namespace TextAdventure

namespace Inventory

/-! ### How words are read -/

/-- A word gives an item: it is the name behind a plus, or it is the name itself, which then begins
with neither sign. -/
def Gives (word item : String) : Prop :=
  word = "+" ++ item ∨ word = item ∧ ∀ c ∈ item.toList.head?, c ≠ '+' ∧ c ≠ '-'

/-- A word takes an item away: it is the name behind a minus. -/
def Takes (word item : String) : Prop := word = "-" ++ item

/-- A word is about an item. -/
def Names (word item : String) : Prop := Gives word item ∨ Takes word item

/-- The item that a change is about. -/
def Change.item : Change → String
  | .give item => item
  | .take item => item

variable {inv : Inventory} {word x : String} {words others : List String}

theorem Takes.ofWord_eq (h : Takes word x) : Change.ofWord word = .take x := by
  subst h
  simp [Change.ofWord]

theorem Gives.ofWord_eq (h : Gives word x) : Change.ofWord word = .give x := by
  rcases h with rfl | ⟨rfl, hsign⟩
  · simp [Change.ofWord]
  · unfold Change.ofWord
    split
    · next hword => simp [hword] at hsign
    · next hword => simp [hword] at hsign
    · rfl

/-- Every word is about an item. -/
theorem exists_names (word : String) : ∃ x, Names word x := by
  cases hword : word.toList with
  | nil => exact ⟨word, .inl (.inr ⟨rfl, by simp [hword]⟩)⟩
  | cons c rest =>
    by_cases hplus : c = '+'
    · exact ⟨String.ofList rest, .inl (.inl (by simp [← String.toList_inj, hword, hplus]))⟩
    · by_cases hminus : c = '-'
      · exact ⟨String.ofList rest, .inr (by simp [Takes, ← String.toList_inj, hword, hminus])⟩
      · exact ⟨word, .inl (.inr ⟨rfl, by simp [hword, hplus, hminus]⟩)⟩

theorem ofWord_eq_give_iff : Change.ofWord word = .give x ↔ Gives word x := by
  refine ⟨fun h => ?_, Gives.ofWord_eq⟩
  obtain ⟨y, hgives | htakes⟩ := exists_names word
  · obtain rfl : y = x := Change.give.inj (hgives.ofWord_eq.symm.trans h)
    exact hgives
  · exact nomatch htakes.ofWord_eq.symm.trans h

theorem ofWord_eq_take_iff : Change.ofWord word = .take x ↔ Takes word x := by
  refine ⟨fun h => ?_, Takes.ofWord_eq⟩
  obtain ⟨y, hgives | htakes⟩ := exists_names word
  · exact nomatch hgives.ofWord_eq.symm.trans h
  · obtain rfl : y = x := Change.take.inj (htakes.ofWord_eq.symm.trans h)
    exact htakes

/-- A word is about the item of its change and about no other. -/
theorem names_iff : Names word x ↔ (Change.ofWord word).item = x := by
  rw [Names, ← ofWord_eq_give_iff, ← ofWord_eq_take_iff]
  cases Change.ofWord word <;> simp [Change.item]

/-! ### What a list of words comes to -/

/-- The last word about an item gives it. -/
def LastGives (words : List String) (x : String) : Prop :=
  ∃ before word after, words = before ++ word :: after ∧ Gives word x ∧ ∀ w ∈ after, ¬Names w x

theorem lastGives_concat :
    LastGives (words ++ [word]) x ↔ Gives word x ∨ LastGives words x ∧ ¬Names word x := by
  constructor
  · rintro ⟨before, w, after, hsplit, hgives, hafter⟩
    obtain rfl | ⟨init, last, rfl⟩ := after.eq_nil_or_concat
    · obtain ⟨-, hword⟩ := List.append_inj' hsplit rfl
      rw [List.singleton_inj.1 hword]
      exact .inl hgives
    · rw [List.concat_eq_append] at hsplit hafter
      rw [← List.cons_append, ← List.append_assoc] at hsplit
      obtain ⟨rfl, hword⟩ := List.append_inj' hsplit rfl
      obtain ⟨hinit, hlast⟩ := List.forall_mem_append.1 hafter
      rw [List.singleton_inj.1 hword]
      exact .inr ⟨⟨before, w, init, rfl, hgives, hinit⟩, hlast last List.mem_cons_self⟩
  · rintro (hgives | ⟨⟨before, w, after, rfl, hgives, hafter⟩, hword⟩)
    · exact ⟨words, word, [], rfl, hgives, List.forall_mem_nil _⟩
    · refine ⟨before, w, after ++ [word], by simp, hgives, ?_⟩
      exact List.forall_mem_append.2 ⟨hafter, List.forall_mem_singleton.2 hword⟩

theorem mem_change_ofWord :
    x ∈ inv.change (.ofWord word) ↔ Gives word x ∨ x ∈ inv ∧ ¬Takes word x := by
  rw [← ofWord_eq_give_iff, ← ofWord_eq_take_iff]
  cases Change.ofWord word <;> simp [change, eq_comm]

theorem applyWords_concat (inv : Inventory) (words : List String) (word : String) :
    inv.applyWords (words ++ [word]) = (inv.applyWords words).change (.ofWord word) := by
  simp [applyWords]

/-- An item is held after a list of words exactly if the last word about it gives it, or there is
none and it was held before. -/
theorem mem_applyWords_iff :
    x ∈ inv.applyWords words ↔ LastGives words x ∨ x ∈ inv ∧ ∀ w ∈ words, ¬Names w x := by
  induction words using List.reverseRecOn with
  | nil => simp [applyWords, LastGives]
  | append_singleton words word ih =>
    rw [applyWords_concat, mem_change_ofWord, ih, lastGives_concat, List.forall_mem_append,
      List.forall_mem_singleton, Names]
    grind

/-- Words that are not about an item make no difference to it. -/
theorem mem_applyWords_of_silent (h : ∀ w ∈ words, ¬Names w x) :
    x ∈ inv.applyWords words ↔ x ∈ inv := by
  have hlast : ¬LastGives words x := by
    rintro ⟨before, word, after, rfl, hgives, -⟩
    exact h word (by simp) (.inl hgives)
  rw [mem_applyWords_iff]
  exact ⟨fun hx => (hx.resolve_left hlast).1, fun hx => .inr ⟨hx, h⟩⟩

/-- Nothing comes of carrying out a list of words again. -/
theorem applyWords_applyWords (inv : Inventory) (words : List String) :
    (inv.applyWords words).applyWords words = inv.applyWords words := by
  refine ext_mem fun x => ?_
  by_cases hsilent : ∀ w ∈ words, ¬Names w x
  · exact mem_applyWords_of_silent hsilent
  · -- what was held before does not count, neither the first time nor the second
    simp [mem_applyWords_iff, hsilent]

/-- Words about other items may come before or after. -/
theorem mem_applyWords_comm_of_silent (h : ∀ w ∈ words, ¬Names w x) :
    x ∈ (inv.applyWords words).applyWords others ↔
      x ∈ (inv.applyWords others).applyWords words := by
  rw [mem_applyWords_of_silent h, mem_applyWords_iff, mem_applyWords_of_silent h,
    ← mem_applyWords_iff]

/-- Lists of words about different items can be carried out in either order. -/
theorem applyWords_comm (h : ∀ v ∈ words, ∀ w ∈ others, ∀ x, Names v x → ¬Names w x)
    (inv : Inventory) :
    (inv.applyWords words).applyWords others = (inv.applyWords others).applyWords words := by
  refine ext_mem fun x => ?_
  by_cases hsilent : ∀ w ∈ words, ¬Names w x
  · exact mem_applyWords_comm_of_silent hsilent
  · push Not at hsilent
    obtain ⟨v, hv, hnames⟩ := hsilent
    exact (mem_applyWords_comm_of_silent fun w hw => h v hv w hw x hnames).symm

/-- The last word about an item decides whether it is held; without one, it is held if it was held
before. So a list of words comes to the same when it is carried out twice, and lists that are about
different items come to the same in either order. -/
theorem last_word_wins (words : List String) :
    (∀ (inv : Inventory) (x : String), x ∈ inv.applyWords words ↔
      LastGives words x ∨ x ∈ inv ∧ ∀ w ∈ words, ¬Names w x) ∧
    (∀ inv : Inventory, (inv.applyWords words).applyWords words = inv.applyWords words) ∧
    ∀ others, (∀ v ∈ words, ∀ w ∈ others, ∀ x, Names v x → ¬Names w x) → ∀ inv : Inventory,
      (inv.applyWords words).applyWords others = (inv.applyWords others).applyWords words :=
  ⟨fun _ _ => mem_applyWords_iff, fun inv => applyWords_applyWords inv words,
    fun _ h inv => applyWords_comm h inv⟩

/-- A lamp is given and taken away again, and then a thing that is called `-lamp` is taken away and
given. The other words are about `+lamp` and a rope. -/
theorem last_word_wins_lamp :
    let words := ["lamp", "-lamp", "--lamp", "+-lamp"]
    let others := ["-+lamp", "rope"]
    let inv := ofList ["lamp", "+lamp", "-lamp"]
    (∀ v ∈ words, ∀ w ∈ others, ∀ x, Names v x → ¬Names w x) ∧
      (inv.applyWords words).applyWords others = (inv.applyWords others).applyWords words ∧
      "lamp" ∉ inv.applyWords words ∧ LastGives words "-lamp" ∧ "-lamp" ∈ inv.applyWords words := by
  intro words others inv
  have hapart : ∀ v ∈ words, ∀ w ∈ others, ∀ x, Names v x → ¬Names w x := by
    have hitems : ∀ v ∈ words, ∀ w ∈ others, (Change.ofWord v).item ≠ (Change.ofWord w).item := by
      decide +kernel
    intro v hv w hw x hx hx'
    exact hitems v hv w hw ((names_iff.1 hx).trans (names_iff.1 hx').symm)
  obtain ⟨hmem, -, hcomm⟩ := last_word_wins words
  have hlast : LastGives words "-lamp" :=
    ⟨["lamp", "-lamp", "--lamp"], "+-lamp", [], rfl, .inl rfl, List.forall_mem_nil _⟩
  exact ⟨hapart, hcomm others hapart inv, by decide +kernel, hlast, (hmem inv _).2 (.inl hlast)⟩

end Inventory

end TextAdventure
