import Mathlib.Data.List.Nodup
import TextAdventure.Proofs.Game.Queue
import TextAdventure.Proofs.Game.Steps

/-!
# The table of slots and the turns inside

A turn is inside from its arrival until it leaves: it waits for the slot of its player, or it holds it.
The table of slots is exact (`Slots.Exact`) if it lists the slots of those players who have turns
inside, and each listed slot counts them and knows which one holds it and which ones wait.

A turn acts upon the table in four ways: it arrives, it takes the slot when it comes to its turn, it
leaves, and a waiting turn that is broken off gives up. Each of them changes one slot and how one turn
stands, and a slot with no turns left goes off the table; so all four come down to one lemma
(`Exact.settle`), which asks of the changed slot alone that it is right about the turns of its player.
-/

namespace TextAdventure

/-- How a turn stands to the slot of its player. -/
inductive Standing where
  | ahead
  | queued
  | within
  | gone
  deriving DecidableEq, Repr

/-- Whether a turn waits for the slot or holds it. -/
def Standing.isInside : Standing → Bool
  | .queued | .within => true
  | .ahead | .gone => false

/-- How a turn in a stage stands to the slot. -/
def Stage.standing : Stage → Standing
  | .submitted _ => .ahead
  | .waiting _ => .queued
  | .running _ => .within
  | .finished .. => .gone

/-- Whose turns there are, and how they stand; each is known by its place. -/
abbrev Roll := List (TurnKey × Standing)

namespace Roll

/-- How many turns of a player are inside. -/
def inside (roll : Roll) (key : TurnKey) : Nat :=
  roll.countP fun e => e.1 = key ∧ e.2.isInside

variable {roll : Roll} {key other : TurnKey} {i j : Nat} {st st' : Standing}

theorem inside_pos_iff :
    0 < roll.inside key ↔ ∃ (i : Nat) (st : Standing), roll[i]? = some (key, st) ∧ st.isInside = true := by
  rw [inside, List.countP_pos_iff]
  constructor
  · rintro ⟨⟨k, st⟩, hmem, hinside⟩
    obtain ⟨rfl, hst⟩ := of_decide_eq_true hinside
    obtain ⟨i, hi⟩ := List.mem_iff_getElem?.1 hmem
    exact ⟨i, st, hi, hst⟩
  · rintro ⟨i, st, hi, hst⟩
    exact ⟨(key, st), List.mem_of_getElem? hi, decide_eq_true ⟨rfl, hst⟩⟩

section Set

variable (hi : roll[i]? = some (key, st))
include hi

theorem getElem?_set_self : (roll.set i (key, st'))[i]? = some (key, st') :=
  List.getElem?_set_self (List.getElem?_eq_some_iff.1 hi).1

/-- How the other turns stand does not change. -/
theorem getElem?_set_iff {k : TurnKey} {sj : Standing} :
    (roll.set i (key, st'))[j]? = some (k, sj) ↔
      (j = i ∧ k = key ∧ sj = st') ∨ (j ≠ i ∧ roll[j]? = some (k, sj)) := by
  by_cases hj : j = i
  · subst hj
    rw [getElem?_set_self hi]
    simp [eq_comm]
  · rw [List.getElem?_set_ne (Ne.symm hj)]
    simp [hj]

/-- The number of turns inside changes with how the one stands. -/
theorem inside_set (next : Standing) : inside (roll.set i (key, next)) key + st.isInside.toNat =
    roll.inside key + next.isInside.toNat := by
  obtain ⟨hlength, hget⟩ := List.getElem?_eq_some_iff.1 hi
  have hcounted : st.isInside = true → 0 < roll.inside key := fun hst =>
    inside_pos_iff.2 ⟨i, st, hi, hst⟩
  unfold inside at hcounted ⊢
  rw [List.countP_set hlength, hget]
  simp only [true_and, Bool.decide_eq_true]
  cases hst : st.isInside with
  | false => cases next.isInside <;> rfl
  | true =>
    have hpos := hcounted hst
    cases next.isInside <;>
      simp only [if_true, Bool.false_eq_true, if_false, Bool.toNat_true, Bool.toNat_false] <;> omega

theorem inside_set_of_ne (hother : other ≠ key) :
    inside (roll.set i (key, st')) other = roll.inside other := by
  obtain ⟨hlength, hget⟩ := List.getElem?_eq_some_iff.1 hi
  unfold inside
  rw [List.countP_set hlength, hget]
  simp [Ne.symm hother]

end Set

end Roll

namespace Slot

/-- A waiting turn gives up. -/
def giveUp (s : Slot) (turn : Nat) : Slot :=
  { s with pending := s.pending - 1, waiting := s.waiting.erase turn }

end Slot

namespace Slots

/-- Puts down what has become of a slot; one without turns goes off the table. -/
def settle (key : TurnKey) (s : Slot) (slots : Slots) : Slots :=
  if s.pending = 0 then remove key slots else put key s slots

/-- A waiting turn gives up on the slot of its player. -/
def giveUp (slots : Slots) (key : TurnKey) (turn : Nat) : Slots :=
  settle key ((slots.slot key).giveUp turn) slots

/-- The players who are listed. -/
def keys (slots : Slots) : List TurnKey := slots.map (·.1)

/-- The table lists the slots of those who have turns inside, each slot once, and each counts them and
knows how they stand. -/
structure Exact (slots : Slots) (roll : Roll) : Prop where
  nodup : slots.keys.Nodup
  listed : ∀ key, key ∈ slots.keys ↔ 0 < roll.inside key
  pending : ∀ key, (slots.slot key).pending = roll.inside key
  holder : ∀ key i, (slots.slot key).holder = some i ↔ roll[i]? = some (key, .within)
  waiting : ∀ key i, i ∈ (slots.slot key).waiting ↔ roll[i]? = some (key, .queued)
  distinct : ∀ key, (slots.slot key).waiting.Nodup

variable {slots : Slots} {roll : Roll} {key other : TurnKey} {s : Slot} {i : Nat}
  {st st' : Standing}

theorem mem_keys_put : other ∈ (put key s slots).keys ↔ other = key ∨ other ∈ slots.keys := by
  unfold keys
  induction slots with
  | nil => simp [put]
  | cons e slots ih =>
    obtain ⟨k, old⟩ := e
    by_cases hk : k = key
    · simp [put, hk]
    · simp only [put, hk, if_false, List.map_cons, List.mem_cons, ih]
      exact or_left_comm

theorem nodup_keys_put (h : slots.keys.Nodup) : (put key s slots).keys.Nodup := by
  unfold keys at h ⊢
  induction slots with
  | nil => simp [put]
  | cons e slots ih =>
    obtain ⟨k, old⟩ := e
    obtain ⟨hk, hrest⟩ := List.nodup_cons.1 h
    by_cases heq : k = key
    · simpa [put, heq] using h
    · simp only [put, heq, if_false, List.map_cons]
      refine List.nodup_cons.2 ⟨fun hmem => ?_, ih hrest⟩
      exact (mem_keys_put.1 hmem).elim heq hk

/-- What is put in the place of an entry goes where the first one of its key is. -/
theorem put_append_cons {before after : Slots} (h : ∀ e ∈ before, e.1 ≠ key) (old : Slot) :
    put key s (before ++ (key, old) :: after) = before ++ (key, s) :: after := by
  induction before with
  | nil => simp [put]
  | cons e before ih =>
    obtain ⟨hne, hbefore⟩ := List.forall_mem_cons.1 h
    simp only [List.cons_append, put, if_neg hne, ih hbefore]

/-- What is put without being listed comes last. -/
theorem put_of_forall_ne (h : ∀ e ∈ slots, e.1 ≠ key) : put key s slots = slots ++ [(key, s)] := by
  induction slots with
  | nil => rfl
  | cons e slots ih =>
    obtain ⟨hne, hslots⟩ := List.forall_mem_cons.1 h
    simp only [List.cons_append, put, if_neg hne, ih hslots]

theorem mem_keys_remove : other ∈ (remove key slots).keys ↔ other ≠ key ∧ other ∈ slots.keys := by
  simp only [keys, remove, List.mem_map, List.mem_filter, decide_eq_true_eq]
  constructor
  · rintro ⟨e, ⟨hmem, hne⟩, rfl⟩
    exact ⟨hne, e, hmem, rfl⟩
  · rintro ⟨hne, e, hmem, rfl⟩
    exact ⟨e, ⟨hmem, hne⟩, rfl⟩

/-- What has been put down goes off the table with its key. -/
theorem remove_put (key : TurnKey) (s : Slot) (slots : Slots) :
    remove key (put key s slots) = remove key slots := by
  induction slots with
  | nil => simp [put, remove]
  | cons e slots ih =>
    obtain ⟨k, old⟩ := e
    by_cases hk : k = key
    · simp [put, remove, hk]
    · unfold remove at ih ⊢
      rw [put, if_neg hk, List.filter_cons_of_pos (by simpa using hk),
        List.filter_cons_of_pos (by simpa using hk), ih]

theorem slot_settle_of_ne (h : other ≠ key) : (settle key s slots).slot other = slots.slot other := by
  unfold settle
  split
  · exact slot_remove_of_ne h slots
  · exact slot_put_of_ne h s slots

theorem nodup_keys_settle (h : slots.keys.Nodup) : (settle key s slots).keys.Nodup := by
  unfold settle
  split
  · exact h.sublist (List.filter_sublist.map _)
  · exact nodup_keys_put h

theorem mem_keys_settle : other ∈ (settle key s slots).keys ↔
    (other = key ∧ 0 < s.pending) ∨ (other ≠ key ∧ other ∈ slots.keys) := by
  unfold settle
  by_cases hpending : s.pending = 0
  · rw [if_pos hpending, mem_keys_remove]
    simp [hpending]
  · rw [if_neg hpending, mem_keys_put]
    by_cases hother : other = key
    · simp [hother, Nat.pos_of_ne_zero hpending]
    · simp [hother]

theorem arrive_eq_settle (slots : Slots) (key : TurnKey) (i : Nat) :
    slots.arrive key i = settle key ((slots.slot key).arrive i) slots := by
  have hpending : ((slots.slot key).arrive i).pending ≠ 0 := by
    unfold Slot.arrive
    split <;> simp
  rw [settle, if_neg hpending, arrive]

theorem take_eq_settle (h : (slots.slot key).pending ≠ 0) :
    slots.take key = settle key (slots.slot key).take slots := by
  rw [settle, if_neg (by exact h), take]

theorem leave_eq_settle (slots : Slots) (key : TurnKey) :
    slots.leave key = settle key (slots.slot key).leave slots := rfl

namespace Exact

theorem nil {roll : Roll} (h : ∀ e ∈ roll, e.2 = .ahead) : Exact [] roll := by
  have hahead : ∀ {i : Nat} {key : TurnKey} {st : Standing}, roll[i]? = some (key, st) →
      st = .ahead := fun hi => h _ (List.mem_of_getElem? hi)
  have hinside : ∀ key, roll.inside key = 0 := by
    intro key
    by_contra hne
    obtain ⟨i, st, hi, hst⟩ := Roll.inside_pos_iff.1 (Nat.pos_of_ne_zero hne)
    rw [hahead hi] at hst
    cases hst
  refine ⟨List.nodup_nil, fun key => ?_, fun key => (hinside key).symm, fun key i => ?_,
    fun key i => ?_, fun key => List.nodup_nil⟩
  · simp [keys, hinside]
  · exact ⟨nofun, fun hi => nomatch hahead hi⟩
  · exact ⟨fun hi => absurd hi List.not_mem_nil, fun hi => nomatch hahead hi⟩

/-- One slot is settled, and how one turn of its player stands. -/
theorem settle (h : slots.Exact roll) (hi : roll[i]? = some (key, st))
    (hpending : s.pending = Roll.inside (roll.set i (key, st')) key)
    (hholder : ∀ j, s.holder = some j ↔ (roll.set i (key, st'))[j]? = some (key, .within))
    (hwaiting : ∀ j, j ∈ s.waiting ↔ (roll.set i (key, st'))[j]? = some (key, .queued))
    (hdistinct : s.waiting.Nodup) : (slots.settle key s).Exact (roll.set i (key, st')) := by
  have hself : (slots.settle key s).slot key = s := by
    unfold Slots.settle
    split
    · next hnone =>
      -- with no turns inside, the slot is as free as one that is not listed
      have hout : ∀ (j : Nat) (sj : Standing), (roll.set i (key, st'))[j]? = some (key, sj) →
          sj.isInside = false := by
        intro j sj hj
        by_contra hinside
        have hpos := Roll.inside_pos_iff.2 ⟨j, sj, hj, eq_true_of_ne_false hinside⟩
        omega
      have hholder' : s.holder = none := by
        refine Option.eq_none_iff_forall_ne_some.2 fun j hj => ?_
        exact Bool.noConfusion (hout j .within ((hholder j).1 hj))
      have hwaiting' : s.waiting = [] := by
        refine List.eq_nil_iff_forall_not_mem.2 fun j hj => ?_
        exact Bool.noConfusion (hout j .queued ((hwaiting j).1 hj))
      rw [slot_remove_self]
      obtain ⟨pending, holder, waiting⟩ := s
      subst hnone hholder' hwaiting'
      rfl
    · exact slot_put_self key s slots
  have hstands : ∀ other ≠ key, ∀ (j : Nat) (sj : Standing),
      (roll.set i (key, st'))[j]? = some (other, sj) ↔ roll[j]? = some (other, sj) := by
    intro other hother j sj
    rw [Roll.getElem?_set_iff hi]
    constructor
    · rintro (⟨-, rfl, -⟩ | ⟨-, hj⟩)
      · exact absurd rfl hother
      · exact hj
    · intro hj
      refine .inr ⟨?_, hj⟩
      rintro rfl
      obtain ⟨rfl, -⟩ := Prod.mk.inj (Option.some.inj (hj.symm.trans hi))
      exact hother rfl
  refine ⟨nodup_keys_settle h.nodup, fun k => ?_, fun k => ?_, fun k => ?_, fun k => ?_, fun k => ?_⟩
  · rw [mem_keys_settle]
    by_cases hk : k = key
    · subst hk
      simp [hpending]
    · rw [Roll.inside_set_of_ne hi hk, ← h.listed k]
      simp [hk]
  · by_cases hk : k = key
    · rw [hk, hself, hpending]
    · rw [slot_settle_of_ne hk, Roll.inside_set_of_ne hi hk, h.pending]
  · by_cases hk : k = key
    · rw [hk, hself]
      exact hholder
    · rw [slot_settle_of_ne hk]
      exact fun j => (h.holder k j).trans (hstands k hk j .within).symm
  · by_cases hk : k = key
    · rw [hk, hself]
      exact hwaiting
    · rw [slot_settle_of_ne hk]
      exact fun j => (h.waiting k j).trans (hstands k hk j .queued).symm
  · by_cases hk : k = key
    · rw [hk, hself]
      exact hdistinct
    · rw [slot_settle_of_ne hk]
      exact h.distinct k

/-- Who holds the slot and who waits are different turns. -/
theorem stands_alone (h : slots.Exact roll) (hi : roll[i]? = some (key, st)) :
    ((slots.slot key).holder = some i ↔ st = .within) ∧
      (i ∈ (slots.slot key).waiting ↔ st = .queued) := by
  rw [h.holder, h.waiting, hi]
  simp

/-- A turn arrives at a slot that is free, and has it. -/
theorem arrive_free (h : slots.Exact roll) (hi : roll[i]? = some (key, .ahead))
    (hfree : (slots.slot key).isFree = true) :
    (slots.arrive key i).Exact (roll.set i (key, .within)) := by
  obtain ⟨hholder, hwaiting⟩ := Slot.isFree_iff.1 hfree
  have hcount := Roll.inside_set hi .within
  rw [arrive_eq_settle, Slot.arrive, if_pos hfree]
  refine h.settle hi ?_ (fun j => ?_) (fun j => ?_) (h.distinct key)
  · rw [h.pending]
    exact hcount.symm
  · rw [Roll.getElem?_set_iff hi, ← h.holder, hholder]
    simp [eq_comm]
  · rw [Roll.getElem?_set_iff hi, ← h.waiting, hwaiting]
    simp

/-- A turn arrives at a slot that is taken, and waits. -/
theorem arrive_taken (h : slots.Exact roll) (hi : roll[i]? = some (key, .ahead))
    (htaken : (slots.slot key).isFree = false) :
    (slots.arrive key i).Exact (roll.set i (key, .queued)) := by
  have hcount := Roll.inside_set hi .queued
  have halone := h.stands_alone hi
  have hnew : i ∉ (slots.slot key).waiting := fun hmem => nomatch halone.2.1 hmem
  rw [arrive_eq_settle, Slot.arrive, if_neg (Bool.eq_false_iff.1 htaken)]
  refine h.settle hi ?_ (fun j => ?_) (fun j => ?_) ?_
  · rw [h.pending]
    exact hcount.symm
  · rw [Roll.getElem?_set_iff hi, ← h.holder]
    grind
  · rw [Roll.getElem?_set_iff hi, ← h.waiting]
    grind
  · exact List.nodup_append.2 ⟨h.distinct key, List.nodup_singleton i, by grind⟩

/-- The turn that is next takes the slot. -/
theorem take (h : slots.Exact roll) (hi : roll[i]? = some (key, .queued))
    (hnext : (slots.slot key).isNext i = true) :
    (slots.take key).Exact (roll.set i (key, .within)) := by
  obtain ⟨hholder, hhead⟩ := Slot.isNext_iff.1 hnext
  obtain ⟨rest, hwaiting⟩ := List.head?_eq_some_iff.1 hhead
  have hcount := Roll.inside_set hi .within
  have hpos : 0 < roll.inside key := Roll.inside_pos_iff.2 ⟨i, .queued, hi, rfl⟩
  have hdistinct := h.distinct key
  rw [hwaiting, List.nodup_cons] at hdistinct
  have hpending : (slots.slot key).pending ≠ 0 := by
    rw [h.pending]
    omega
  rw [take_eq_settle hpending, Slot.take, hwaiting]
  refine h.settle hi ?_ (fun j => ?_) (fun j => ?_) hdistinct.2
  · rw [h.pending]
    exact (Nat.add_right_cancel hcount).symm
  · rw [Roll.getElem?_set_iff hi, ← h.holder, hholder]
    simp [eq_comm]
  · rw [Roll.getElem?_set_iff hi, ← h.waiting, hwaiting]
    grind

/-- The holder leaves. -/
theorem leave (h : slots.Exact roll) (hi : roll[i]? = some (key, .within)) :
    (slots.leave key).Exact (roll.set i (key, .gone)) := by
  have hcount := Roll.inside_set hi .gone
  have hpos : 0 < roll.inside key := Roll.inside_pos_iff.2 ⟨i, .within, hi, rfl⟩
  have hholder := (h.holder key i).2 hi
  have halone := h.stands_alone hi
  rw [leave_eq_settle, Slot.leave]
  refine h.settle hi ?_ (fun j => ?_) (fun j => ?_) (h.distinct key)
  · show (slots.slot key).pending - 1 = _
    rw [h.pending]
    simp only [Standing.isInside, Bool.toNat_true, Bool.toNat_false] at hcount
    omega
  · rw [Roll.getElem?_set_iff hi, ← h.holder, hholder]
    grind
  · rw [Roll.getElem?_set_iff hi, ← h.waiting]
    grind

/-- A waiting turn gives up. -/
theorem giveUp (h : slots.Exact roll) (hi : roll[i]? = some (key, .queued)) :
    (slots.giveUp key i).Exact (roll.set i (key, .gone)) := by
  have hcount := Roll.inside_set hi .gone
  have hpos : 0 < roll.inside key := Roll.inside_pos_iff.2 ⟨i, .queued, hi, rfl⟩
  have halone := h.stands_alone hi
  have hdistinct := h.distinct key
  rw [Slots.giveUp, Slot.giveUp]
  refine h.settle hi ?_ (fun j => ?_) (fun j => ?_) (hdistinct.erase i)
  · show (slots.slot key).pending - 1 = _
    rw [h.pending]
    simp only [Standing.isInside, Bool.toNat_true, Bool.toNat_false] at hcount
    omega
  · rw [Roll.getElem?_set_iff hi, ← h.holder]
    grind
  · rw [Roll.getElem?_set_iff hi, ← h.waiting, hdistinct.mem_erase_iff]
    grind

/-- If there is nobody inside, the table is empty. -/
theorem eq_nil (h : slots.Exact roll) (hroll : ∀ e ∈ roll, e.2.isInside = false) : slots = [] := by
  refine List.eq_nil_iff_forall_not_mem.2 fun e he => ?_
  have hlisted : e.1 ∈ slots.keys := List.mem_map_of_mem he
  obtain ⟨i, st, hi, hst⟩ := Roll.inside_pos_iff.1 ((h.listed e.1).1 hlisted)
  exact Bool.noConfusion ((hroll _ (List.mem_of_getElem? hi)).symm.trans hst)

end Exact

end Slots

end TextAdventure
