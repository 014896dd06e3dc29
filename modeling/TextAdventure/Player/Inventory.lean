/-!
# Inventories

The items a player holds. An inventory is a set of names, kept as a strictly increasing list, so
that two inventories with the same items are equal (`Inventory.ext_mem`). Item changes are given
as words: a leading minus takes an item away, and all else gives one, without a leading plus.
-/

namespace TextAdventure

/-- The items a player holds, in increasing order of their names. -/
structure Inventory where
  names : List String
  sorted : names.Pairwise (· < ·) := by simp
  deriving DecidableEq, Repr

namespace Inventory

/-- Puts a name into an increasing list, unless it is there already. -/
def insertName (x : String) : List String → List String
  | [] => [x]
  | y :: ys => if x = y then y :: ys else if x < y then x :: y :: ys else y :: insertName x ys

theorem mem_insertName {x z : String} {names : List String} :
    z ∈ insertName x names ↔ z = x ∨ z ∈ names := by
  induction names with
  | nil => simp [insertName]
  | cons y ys ih =>
    unfold insertName
    split
    · next h => subst h; simp
    · split
      · simp
      · simp only [List.mem_cons, ih]; exact or_left_comm

theorem pairwise_insertName {x : String} {names : List String} (h : names.Pairwise (· < ·)) :
    (insertName x names).Pairwise (· < ·) := by
  induction names with
  | nil => simp [insertName]
  | cons y ys ih =>
    have hy := List.pairwise_cons.1 h
    unfold insertName
    split
    · exact h
    · next hne =>
      split
      · next hlt =>
        refine List.pairwise_cons.2 ⟨fun z hz => ?_, h⟩
        rcases List.mem_cons.1 hz with rfl | hz
        · exact hlt
        · exact String.lt_trans hlt (hy.1 z hz)
      · next hlt =>
        refine List.pairwise_cons.2 ⟨fun z hz => ?_, ih hy.2⟩
        rcases mem_insertName.1 hz with rfl | hz
        · exact Decidable.byContradiction fun hge =>
            hne (String.le_antisymm (String.not_lt.1 hge) (String.not_lt.1 hlt))
        · exact hy.1 z hz

/-- The inventory without items. -/
def empty : Inventory where
  names := []

instance : Inhabited Inventory := ⟨empty⟩

/-- Gives an item. -/
def insert (inv : Inventory) (item : String) : Inventory where
  names := insertName item inv.names
  sorted := pairwise_insertName inv.sorted

/-- Takes an item away. -/
def erase (inv : Inventory) (item : String) : Inventory where
  names := inv.names.filter (· ≠ item)
  sorted := inv.sorted.filter _

/-- The inventory of the given items. -/
def ofList (items : List String) : Inventory := items.foldl insert empty

instance : Membership String Inventory := ⟨fun inv item => item ∈ inv.names⟩

instance (item : String) (inv : Inventory) : Decidable (item ∈ inv) :=
  inferInstanceAs (Decidable (item ∈ inv.names))

/-- Whether an item is held. -/
def holds (inv : Inventory) (item : String) : Bool := inv.names.contains item

theorem mem_def {item : String} {inv : Inventory} : item ∈ inv ↔ item ∈ inv.names := Iff.rfl

@[simp] theorem holds_iff {inv : Inventory} {item : String} :
    inv.holds item = true ↔ item ∈ inv := by
  simp [holds, mem_def]

@[simp] theorem not_mem_empty (item : String) : ¬item ∈ empty := by simp [mem_def, empty]

@[simp] theorem mem_insert {inv : Inventory} {item other : String} :
    other ∈ inv.insert item ↔ other = item ∨ other ∈ inv := mem_insertName

@[simp] theorem mem_erase {inv : Inventory} {item other : String} :
    other ∈ inv.erase item ↔ other ∈ inv ∧ other ≠ item := by
  simp [mem_def, erase]

/-- Inventories with the same items are equal. -/
theorem ext_mem {a b : Inventory} (h : ∀ item, item ∈ a ↔ item ∈ b) : a = b := by
  obtain ⟨as, ha⟩ := a
  obtain ⟨bs, hb⟩ := b
  have key : ∀ {as bs : List String}, as.Pairwise (· < ·) → bs.Pairwise (· < ·) →
      (∀ item, item ∈ as ↔ item ∈ bs) → as = bs := by
    intro as
    induction as with
    | nil =>
      intro bs _ _ h
      cases bs with
      | nil => rfl
      | cons y ys => exact absurd ((h y).2 (by simp)) (by simp)
    | cons x xs ih =>
      intro bs ha hb h
      cases bs with
      | nil => exact absurd ((h x).1 (by simp)) (by simp)
      | cons y ys =>
        have hx := List.pairwise_cons.1 ha
        have hy := List.pairwise_cons.1 hb
        have hxy : x = y := by
          rcases List.mem_cons.1 ((h x).1 (by simp)) with e | hx'
          · exact e
          · rcases List.mem_cons.1 ((h y).2 (by simp)) with e | hy'
            · exact e.symm
            · exact absurd (String.lt_trans (hx.1 y hy') (hy.1 x hx')) (String.lt_irrefl x)
        subst hxy
        congr 1
        refine ih hx.2 hy.2 fun item => ?_
        have := h item
        simp only [List.mem_cons] at this
        constructor
        · intro hm
          rcases this.1 (Or.inr hm) with rfl | hm'
          · exact absurd (hx.1 _ hm) (String.lt_irrefl _)
          · exact hm'
        · intro hm
          rcases this.2 (Or.inr hm) with rfl | hm'
          · exact absurd (hy.1 _ hm) (String.lt_irrefl _)
          · exact hm'
  have := key ha hb h
  subst this
  rfl

/-! ### Item changes -/

/-- A change of an inventory. -/
inductive Change where
  | give (item : String)
  | take (item : String)
  deriving DecidableEq, Repr

/-- The change that a word stands for. Only one leading sign is taken off. -/
def Change.ofWord (word : String) : Change :=
  match word.toList with
  | '-' :: rest => .take (String.ofList rest)
  | '+' :: rest => .give (String.ofList rest)
  | _ => .give word

/-- Makes a change. -/
def change (inv : Inventory) : Change → Inventory
  | .give item => inv.insert item
  | .take item => inv.erase item

/-- Makes the changes that words stand for, in order. -/
def applyWords (inv : Inventory) (words : List String) : Inventory :=
  words.foldl (fun inv word => inv.change (.ofWord word)) inv

end Inventory

end TextAdventure
