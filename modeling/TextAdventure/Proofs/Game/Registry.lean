import TextAdventure.Proofs.Game.Roll

/-!
# Slots that turns hold on to

A turn looks its slot up once, when it arrives, and makes one if there is none. From then on it goes
by that slot, while the table may change; and the last turn to leave takes the entry of its player off
the table, which fails if there is no such entry (`Registry`). Taking an entry off too early would leave
two turns of one player with different slots.

This never happens. The table of slots, in which a slot is looked up again for whatever is done to it,
comes to the same as the one that turns hold on to: whatever happens to the turns, no entry is missing
when it is taken off, the slots that are listed are those of the table, and all turns of a player that
are inside go by the one that is listed (`Game.slots_are_exact`). The reason is that the table is exact
at every moment, so an entry goes away only when nobody goes by it.
-/

namespace TextAdventure

/-- What a turn does to the slot of its player. -/
inductive SlotAct where
  | arrives
  | takes
  | leaves
  | givesUp
  deriving DecidableEq, Repr

/-- Slots as turns hold on to them. -/
structure Registry where
  /-- All slots that have been made; each is known by its place. -/
  made : List Slot
  /-- The table: which slot is that of which player. -/
  listed : List (TurnKey × Nat)
  /-- The slots that the turns go by. -/
  goesBy : List (Nat × Nat)
  deriving DecidableEq, Repr

namespace Registry

/-- The registry at its beginning. -/
def empty : Registry := ⟨[], [], []⟩

/-- The slot at a place. -/
def slotAt (r : Registry) (n : Nat) : Slot := r.made.getD n .free

/-- The table with the slots themselves. -/
def slots (r : Registry) : Slots := r.listed.map fun e => (e.1, r.slotAt e.2)

/-- A turn arrives: it goes by the slot that is listed, or makes one and lists it. -/
def enter (r : Registry) (key : TurnKey) (i : Nat) : Registry :=
  match r.listed.lookup key with
  | some n =>
    { r with made := r.made.set n ((r.slotAt n).arrive i), goesBy := (i, n) :: r.goesBy }
  | none =>
    { made := r.made ++ [Slot.free.arrive i]
      listed := r.listed ++ [(key, r.made.length)]
      goesBy := (i, r.made.length) :: r.goesBy }

/-- A turn takes the slot that it goes by. -/
def take (r : Registry) (i : Nat) : Option Registry :=
  (r.goesBy.lookup i).map fun n => { r with made := r.made.set n (r.slotAt n).take }

/-- A turn leaves the slot that it goes by, or gives up on it. If it was the last one there, it takes
the entry of its player off the table; there must be one. -/
def exit (r : Registry) (key : TurnKey) (i : Nat) (change : Slot → Slot) : Option Registry :=
  (r.goesBy.lookup i).bind fun n =>
    let s := change (r.slotAt n)
    let r := { r with made := r.made.set n s }
    if s.pending ≠ 0 then some r
    else if (r.listed.lookup key).isSome then
      some { r with listed := r.listed.filter fun e => e.1 ≠ key }
    else none

/-- A turn of a player acts upon its slot. -/
def act (key : TurnKey) (i : Nat) (r : Registry) : SlotAct → Option Registry
  | .arrives => some (r.enter key i)
  | .takes => r.take i
  | .leaves => r.exit key i .leave
  | .givesUp => r.exit key i fun s => s.giveUp i

/-- A turn acts upon its slot several times. -/
def acts (key : TurnKey) (i : Nat) (r : Registry) (as : List SlotAct) : Option Registry :=
  as.foldlM (act key i) r

/-! ### The table of a registry -/

section Table

variable {key other : TurnKey} {listed : List (TurnKey × Nat)}

theorem lookup_map (f : Nat → Slot) :
    (listed.map fun e => (e.1, f e.2)).lookup key = (listed.lookup key).map f := by
  induction listed with
  | nil => rfl
  | cons e listed ih =>
    rw [List.map_cons, List.lookup_cons, List.lookup_cons]
    split
    · rfl
    · exact ih

theorem mem_of_lookup {n : Nat} (h : listed.lookup key = some n) : (key, n) ∈ listed := by
  obtain ⟨before, after, rfl, -⟩ := List.lookup_eq_some_iff.1 h
  exact List.mem_append_right before List.mem_cons_self

theorem lookup_filter_of_ne (h : other ≠ key) :
    (listed.filter fun e => e.1 ≠ key).lookup other = listed.lookup other := by
  induction listed with
  | nil => rfl
  | cons e listed ih =>
    obtain ⟨k, n⟩ := e
    by_cases hk : k = key
    · have hother : (other == k) = false := beq_false_of_ne (hk ▸ h)
      rw [List.filter_cons_of_neg (by simpa using hk), List.lookup_cons, hother, ih]
    · rw [List.filter_cons_of_pos (by simpa using hk), List.lookup_cons, List.lookup_cons, ih]

variable {r : Registry} {n : Nat}

/-- The slot of a player is the one that is listed. -/
theorem slot_slots (h : r.listed.lookup key = some n) : r.slots.slot key = r.slotAt n := by
  rw [slots, Slots.slot, lookup_map, h]
  rfl

theorem slot_slots_of_none (h : r.listed.lookup key = none) : r.slots.slot key = .free := by
  rw [slots, Slots.slot, lookup_map, h]
  rfl

/-- A listed slot is changed: it is put into its place in the table, and no other place has it. -/
theorem slots_set (h : r.listed.lookup key = some n) (hnumbers : (r.listed.map (·.2)).Nodup)
    (hmade : n < r.made.length) (s : Slot) :
    slots { r with made := r.made.set n s } = Slots.put key s r.slots := by
  obtain ⟨made, listed, goesBy⟩ := r
  obtain ⟨before, after, hlisted, hbefore⟩ := List.lookup_eq_some_iff.1 h
  dsimp only at hlisted hnumbers hmade
  subst hlisted
  rw [List.map_append, List.map_cons] at hnumbers
  obtain ⟨-, hnumbers, hdisjoint⟩ := List.nodup_append.1 hnumbers
  have hothers : ∀ e ∈ before ++ after, (made.set n s).getD e.2 .free = made.getD e.2 .free := by
    intro e he
    have hne : n ≠ e.2 := by
      rintro rfl
      obtain he | he := List.mem_append.1 he
      · exact hdisjoint e.2 (List.mem_map_of_mem he) e.2 List.mem_cons_self rfl
      · exact (List.nodup_cons.1 hnumbers).1 (List.mem_map.2 ⟨e, he, rfl⟩)
    rw [List.getD_eq_getElem?_getD, List.getD_eq_getElem?_getD, List.getElem?_set_ne hne]
  have hself : (made.set n s).getD n .free = s := by
    rw [List.getD_eq_getElem?_getD, List.getElem?_set_self hmade, Option.getD_some]
  have hmap : ∀ part ⊆ before ++ after, (part.map fun e => (e.1, (made.set n s).getD e.2 .free)) =
      part.map fun e => (e.1, made.getD e.2 .free) := by
    intro part hpart
    exact List.map_congr_left fun e he => by rw [hothers e (hpart he)]
  have hput : ∀ e ∈ before.map fun e => (e.1, made.getD e.2 .free), e.1 ≠ key := by
    intro e he
    obtain ⟨e', he', rfl⟩ := List.mem_map.1 he
    exact Ne.symm (bne_iff_ne.1 (hbefore e' he'))
  simp only [slots, slotAt, List.map_append, List.map_cons, hself]
  rw [hmap before (List.subset_append_left _ _), hmap after (List.subset_append_right _ _),
    Slots.put_append_cons hput]

/-- A new slot comes last in the table. -/
theorem slots_append (h : r.listed.lookup key = none) (hmade : ∀ e ∈ r.listed, e.2 < r.made.length)
    (s : Slot) (goesBy : List (Nat × Nat)) :
    slots ⟨r.made ++ [s], r.listed ++ [(key, r.made.length)], goesBy⟩ = Slots.put key s r.slots := by
  have hold : ∀ e ∈ r.listed,
      slotAt ⟨r.made ++ [s], r.listed ++ [(key, r.made.length)], goesBy⟩ e.2 = r.slotAt e.2 := by
    intro e he
    rw [slotAt, slotAt, List.getD_eq_getElem?_getD, List.getD_eq_getElem?_getD,
      List.getElem?_append_left (hmade e he)]
  have hnew : slotAt ⟨r.made ++ [s], r.listed ++ [(key, r.made.length)], goesBy⟩
      r.made.length = s := by
    rw [slotAt, List.getD_eq_getElem?_getD, List.getElem?_append_right (Nat.le_refl _), Nat.sub_self]
    rfl
  have hput : ∀ e ∈ r.slots, e.1 ≠ key := by
    intro e he
    obtain ⟨e', he', rfl⟩ := List.mem_map.1 he
    exact Ne.symm (bne_iff_ne.1 (List.lookup_eq_none_iff.1 h e' he'))
  rw [Slots.put_of_forall_ne hput]
  unfold slots
  rw [List.map_append, List.map_singleton, hnew]
  exact congrArg (· ++ _) (List.map_congr_left fun e he => by rw [hold e he])

/-- A player is taken off the table. -/
theorem slots_filter (r : Registry) (key : TurnKey) :
    slots { r with listed := r.listed.filter fun e => e.1 ≠ key } = Slots.remove key r.slots := by
  rw [slots, slots, Slots.remove, List.filter_map]
  rfl

end Table

/-! ### Acting upon slots -/

/-- The registry lists the slots of an exact table, each under one key, and the turns inside go by the
slot that is listed for their player. -/
structure Mirrors (r : Registry) (slots : Slots) (roll : Roll) : Prop where
  exact : slots.Exact roll
  slots : r.slots = slots
  numbers : (r.listed.map (·.2)).Nodup
  made : ∀ e ∈ r.listed, e.2 < r.made.length
  goesBy : ∀ (i : Nat) (key : TurnKey) (st : Standing), roll[i]? = some (key, st) →
    st.isInside = true → ∃ n, r.goesBy.lookup i = some n ∧ r.listed.lookup key = some n

namespace Mirrors

variable {r : Registry} {slots : Slots} {roll : Roll} {key : TurnKey} {i n : Nat}
  {st st' : Standing}

theorem empty (h : ∀ e ∈ roll, e.2 = .ahead) : Mirrors .empty [] roll where
  exact := .nil h
  slots := rfl
  numbers := List.nodup_nil
  made := List.forall_mem_nil _
  goesBy := by
    intro i key st hi hst
    have hahead : st = .ahead := h _ (List.mem_of_getElem? hi)
    rw [hahead] at hst
    cases hst

/-- The slot of a player who has a turn inside is the one that the turn goes by. -/
theorem exists_slotAt (h : r.Mirrors slots roll) (hi : roll[i]? = some (key, st))
    (hst : st.isInside = true) : ∃ n, r.goesBy.lookup i = some n ∧ r.listed.lookup key = some n ∧
      slots.slot key = r.slotAt n := by
  obtain ⟨n, hgoes, hlisted⟩ := h.goesBy i key st hi hst
  exact ⟨n, hgoes, hlisted, by rw [← h.slots, slot_slots hlisted]⟩

/-- A listed slot is changed, and the turn goes by the same slot as before, if it is inside. -/
theorem change (h : r.Mirrors slots roll) (hi : roll[i]? = some (key, st))
    (hn : r.listed.lookup key = some n) {s : Slot} {goesBy : List (Nat × Nat)}
    (hself : goesBy.lookup i = some n) (hothers : ∀ j ≠ i, goesBy.lookup j = r.goesBy.lookup j)
    (hexact : (Slots.put key s slots).Exact (roll.set i (key, st'))) :
    Mirrors { r with made := r.made.set n s, goesBy } (Slots.put key s slots)
      (roll.set i (key, st')) where
  exact := hexact
  slots := by
    rw [← h.slots]
    exact slots_set hn h.numbers (h.made _ (mem_of_lookup hn)) s
  numbers := h.numbers
  made := by
    intro e he
    rw [List.length_set]
    exact h.made e he
  goesBy := by
    intro j k sj hj hsj
    obtain ⟨rfl, rfl, -⟩ | ⟨hne, hj⟩ := (Roll.getElem?_set_iff hi).1 hj
    · exact ⟨n, hself, hn⟩
    · rw [hothers j hne]
      exact h.goesBy j k sj hj hsj

/-- A turn arrives. -/
theorem enter (h : r.Mirrors slots roll) (hi : roll[i]? = some (key, .ahead))
    (hexact : (slots.arrive key i).Exact (roll.set i (key, st'))) :
    (r.enter key i).Mirrors (slots.arrive key i) (roll.set i (key, st')) := by
  have hothers : ∀ (n j : Nat), j ≠ i → ((i, n) :: r.goesBy).lookup j = r.goesBy.lookup j := by
    intro n j hj
    rw [List.lookup_cons, beq_false_of_ne hj]
  unfold Registry.enter
  split
  · next n hn =>
    have hslot : slots.slot key = r.slotAt n := by rw [← h.slots, slot_slots hn]
    rw [Slots.arrive, hslot] at hexact ⊢
    exact h.change hi hn List.lookup_cons_self (hothers n) hexact
  · next hnone =>
    have hslot : slots.slot key = .free := by rw [← h.slots, slot_slots_of_none hnone]
    rw [Slots.arrive, hslot] at hexact ⊢
    refine ⟨hexact, ?_, ?_, ?_, ?_⟩
    · rw [← h.slots]
      exact slots_append hnone h.made _ _
    · rw [List.map_append]
      refine List.nodup_append.2 ⟨h.numbers, List.nodup_singleton _, fun m hm m' hm' => ?_⟩
      obtain ⟨e, he, rfl⟩ := List.mem_map.1 hm
      obtain rfl := List.mem_singleton.1 hm'
      exact Nat.ne_of_lt (h.made e he)
    · intro e he
      rw [List.length_append]
      obtain he | he := List.mem_append.1 he
      · exact Nat.lt_add_right _ (h.made e he)
      · obtain rfl := List.mem_singleton.1 he
        exact Nat.lt_succ_self _
    · intro j k sj hj hsj
      rw [List.lookup_append]
      obtain ⟨rfl, rfl, -⟩ | ⟨hne, hj⟩ := (Roll.getElem?_set_iff hi).1 hj
      · rw [hnone]
        exact ⟨_, List.lookup_cons_self, List.lookup_cons_self⟩
      · obtain ⟨m, hgoes, hlisted⟩ := h.goesBy j k sj hj hsj
        rw [hothers _ j hne, hlisted]
        exact ⟨m, hgoes, rfl⟩

/-- A turn takes its slot. -/
theorem take (h : r.Mirrors slots roll) (hi : roll[i]? = some (key, .queued))
    (hexact : (slots.take key).Exact (roll.set i (key, .within))) :
    ∃ r', r.take i = some r' ∧ r'.Mirrors (slots.take key) (roll.set i (key, .within)) := by
  obtain ⟨n, hgoes, hlisted, hslot⟩ := h.exists_slotAt hi rfl
  rw [Slots.take, hslot] at hexact ⊢
  rw [Registry.take, hgoes]
  exact ⟨_, rfl, h.change hi hlisted hgoes (fun _ _ => rfl) hexact⟩

/-- A turn leaves its slot, in one way or another. -/
theorem exit (h : r.Mirrors slots roll) (hi : roll[i]? = some (key, st)) (hst : st.isInside = true)
    (change : Slot → Slot)
    (hexact : (slots.settle key (change (slots.slot key))).Exact (roll.set i (key, .gone))) :
    ∃ r', r.exit key i change = some r' ∧
      r'.Mirrors (slots.settle key (change (slots.slot key))) (roll.set i (key, .gone)) := by
  obtain ⟨n, hgoes, hlisted, hslot⟩ := h.exists_slotAt hi hst
  rw [Registry.exit, hgoes]
  rw [hslot] at hexact ⊢
  dsimp only [Option.bind_some]
  by_cases hpending : (change (r.slotAt n)).pending = 0
  · have hslots : Registry.slots { r with made := r.made.set n (change (r.slotAt n)) } =
        Slots.put key (change (r.slotAt n)) slots := by
      rw [← h.slots]
      exact slots_set hlisted h.numbers (h.made _ (mem_of_lookup hlisted)) _
    rw [if_neg (not_not.2 hpending), hlisted, if_pos Option.isSome_some]
    rw [Slots.settle, if_pos hpending] at hexact ⊢
    refine ⟨_, rfl, hexact, ?_, ?_, ?_, ?_⟩
    · rw [slots_filter { r with made := r.made.set n (change (r.slotAt n)) }, hslots,
        Slots.remove_put]
    · exact h.numbers.sublist (List.filter_sublist.map _)
    · intro e he
      rw [List.length_set]
      exact h.made e (List.mem_filter.1 he).1
    · -- a turn that is still inside is not of this player, whom the exact table does not list
      intro j k sj hj hsj
      have hpos : 0 < Roll.inside (roll.set i (key, .gone)) k :=
        Roll.inside_pos_iff.2 ⟨j, sj, hj, hsj⟩
      have hkey : k ≠ key := (Slots.mem_keys_remove.1 ((hexact.listed k).2 hpos)).1
      obtain ⟨-, rfl, -⟩ | ⟨-, hj⟩ := (Roll.getElem?_set_iff hi).1 hj
      · exact absurd rfl hkey
      · rw [lookup_filter_of_ne hkey]
        exact h.goesBy j k sj hj hsj
  · rw [if_pos hpending]
    rw [Slots.settle, if_neg hpending] at hexact ⊢
    exact ⟨_, rfl, h.change hi hlisted hgoes (fun _ _ => rfl) hexact⟩

end Mirrors

end Registry

end TextAdventure
