import TextAdventure.Proofs.Room.Record
import TextAdventure.Proofs.Store.Reopening
import TextAdventure.World.Basic

/-!
# Stores filled from a world

A store that is filled with the records of a world answers for rooms as the world itself does: a
look-up in either takes the first room at the position, and the record that it finds is read as the
room that it was written for (`World.find?_numbered`). Only the identity is the store's own. Rooms
that share a position do no harm, since the store keeps the order of the world.
-/

namespace TextAdventure

open Query (roomSelector)

/-! ### Worlds that were read -/

theorem bind_eq_ok_iff {ε α β : Type} {x : Except ε α} {f : α → Except ε β} {b : β} :
    x >>= f = .ok b ↔ ∃ a, x = .ok a ∧ f a = .ok b := by
  cases x with
  | error e => exact ⟨nofun, nofun⟩
  | ok a => exact ⟨fun h => ⟨a, rfl, h⟩, fun ⟨_, ha, h⟩ => Except.ok.inj ha ▸ h⟩

/-- What comes out of a list one by one came from its members. -/
theorem exists_of_mapM_eq_ok {ε α β : Type} {f : α → Except ε β} {xs : List α} {ys : List β}
    (h : xs.mapM f = .ok ys) {y : β} (hy : y ∈ ys) : ∃ x ∈ xs, f x = .ok y := by
  induction xs generalizing ys with
  | nil =>
    rw [List.mapM_nil] at h
    cases h
    exact nomatch hy
  | cons x xs ih =>
    simp only [List.mapM_cons, bind_eq_ok_iff] at h
    obtain ⟨z, hz, zs, hzs, h⟩ := h
    cases h
    rcases List.mem_cons.1 hy with rfl | hy
    · exact ⟨x, List.mem_cons_self, hz⟩
    · obtain ⟨u, hu, hread⟩ := ih hzs hy
      exact ⟨u, List.mem_cons_of_mem _ hu, hread⟩

/-- A world is sound if all attributes of its rooms have cases. -/
def World.HasCases (w : World) : Prop := ∀ r ∈ w.rooms, r.HasCases

instance (w : World) : Decidable w.HasCases :=
  inferInstanceAs (Decidable (∀ r ∈ w.rooms, r.HasCases))

/-- The rooms of a world that was read were read themselves. -/
theorem World.hasCases_of_read {data : Value} {w : World} (h : read data = .ok w) :
    w.HasCases := by
  simp only [read, bind_eq_ok_iff] at h
  obtain ⟨_, -, map, -, _, -, origin, -, _, -, values, -, rooms, hrooms, -, -, h⟩ := h
  cases h
  intro r hr
  obtain ⟨v, -, hv⟩ := exists_of_mapM_eq_ok hrooms hr
  unfold readRoom at hv
  split at hv
  · exact nomatch hv
  · split at hv
    · next hread =>
      cases hv
      exact Room.hasCases_of_read hread
    · exact nomatch hv

/-! ### Looking rooms up -/

/-- Whether a room is at a position of a map. -/
def Room.isAt (x y : Int) (map : String) (r : Room) : Bool := r.x == x && r.y == y && r.map == map

/-- The record of a room fits the selector of a position if the room is there. -/
theorem Room.matches_selector (r : Room) (n x y : Int) (map : String) :
    (Store.identified r.toRecord n).matches (roomSelector x y map) = r.isAt x y map := by
  have hx : (Store.identified r.toRecord n).lookup? (.text "x") = some (.int r.x) := rfl
  have hy : (Store.identified r.toRecord n).lookup? (.text "y") = some (.int r.y) := rfl
  have hmap : (Store.identified r.toRecord n).lookup? (.text "map") = some (.text r.map) := rfl
  simp only [Fields.matches, roomSelector, List.all_cons, List.all_nil, hx, hy, hmap,
    Value.equals_int_int, Bool.and_true, isAt, Bool.and_assoc]
  rfl

namespace World

/-- The look-up in the numbered records of some rooms brings the first room at a position. -/
theorem find?_numbered (rooms : List Room) (first x y : Int) (map : String) :
    ∃ n, (Store.numbered first (rooms.map (·.toRecord))).find?
        (·.matches (roomSelector x y map)) =
      (rooms.find? (·.isAt x y map)).map fun r => Store.identified r.toRecord n := by
  induction rooms generalizing first with
  | nil => exact ⟨0, rfl⟩
  | cons r rooms ih =>
    have hnext : Store.numbered first ((r :: rooms).map (·.toRecord)) =
        Store.identified r.toRecord first ::
          Store.numbered (first + 1) (rooms.map (·.toRecord)) := by
      simp [Store.numbered, Int.add_comm, Int.add_left_comm]
    rw [hnext, List.find?_cons, List.find?_cons, r.matches_selector]
    cases r.isAt x y map with
    | true => exact ⟨first, rfl⟩
    | false => exact ih (first + 1)

/-- The store that is filled with the rooms of the world. -/
def seeded (w : World) : Store := .ofCollections [(roomCollection, w.records)]

theorem records_seeded (w : World) :
    w.seeded.records roomCollection = Store.numbered 1 w.records :=
  Store.records_insertAll .empty roomCollection w.records

/-- A world's room at a position is the first one there. -/
theorem roomAt?_eq (w : World) (x y : Int) {map : String} (hmap : map ≠ "") :
    w.roomAt? x y map = w.rooms.find? (·.isAt x y map) := by
  simp only [roomAt?, hmap, if_false]
  rfl

/-- What the look-up of a room brings in a store with the records of the world. -/
theorem HasCases.roomFound {w : World} (h : w.HasCases) {s : Store}
    (hs : s.records roomCollection = Store.numbered 1 w.records) (x y : Int) (map : String) :
    ∃ n : Int, Script.roomFound x y map (.ok (s.find? roomCollection (roomSelector x y map))) =
      .ok ((w.rooms.find? (·.isAt x y map)).map ({ · with id := .int n })) := by
  obtain ⟨n, hfind⟩ := find?_numbered w.rooms 1 x y map
  refine ⟨n, ?_⟩
  rw [Store.find?, hs, records, hfind]
  cases hroom : w.rooms.find? (·.isAt x y map) with
  | none => rfl
  | some r =>
    have hr := Room.read_identified (h r (List.mem_of_find?_eq_some hroom)) n
    simp only [Option.map_some, Script.roomFound, hr]

/-- Filling a store loses nothing of a world that was read: the look-up of a room brings the one that
the world has at the position, all but its identity, and none where the world has none. Every record
is read as the room that it was written for. -/
theorem findRoom_seeded {data : Value} {w : World} (h : read data = .ok w) (x y : Int)
    {map : String} (hmap : map ≠ "") :
    (∃ n : Int, ((Script.findRoom x y map).run Store.backend w.seeded).1 =
      .ok ((w.roomAt? x y map).map ({ · with id := .int n }))) ∧
      ∀ r ∈ w.rooms, Room.read (.table r.toRecord) = .valid { r with id := .null } := by
  have hw := hasCases_of_read h
  refine ⟨?_, fun r hr => Room.read_toRecord (hw r hr)⟩
  rw [roomAt?_eq w x y hmap]
  exact hw.roomFound w.records_seeded x y map

/-- Two rooms that share a position: the store finds the first one, as the world does, and it leads on
by a distance, by a word and by nothing at all. -/
theorem findRoom_seeded_shared :
    let condition (effect : List (Value × Value)) : Value := .table
      [(.text "message", .text "On you go."), (.text "effect", .table effect)]
    let porch : Value := .table
      [(.text "x", .int 0), (.text "y", .int 0), (.text "name", .text "porch"),
        (.text "description", .text "A porch."),
        (.text "attributes", .list [.table
          [(.text "type", .text "exit"), (.text "name", .text "out"), (.text "item", .null),
            (.text "conditions", .list
              [condition [(.text "move", .list [.int 1, .bool false])],
                condition [(.text "move", .text "north"), (.text "status", .text "win")],
                condition [(.text "items", .list [.text "-key"])]])]])]
    let cellar : Value := .table
      [(.text "x", .int 0), (.text "y", .int 0), (.text "name", .text "cellar"),
        (.text "description", .text "A cellar.")]
    let w : World := ⟨"default", (0, 0),
      [⟨.null, 0, 0, "default", "porch", "A porch.",
        [⟨.exit, "out", none, [],
          [⟨[], "On you go.", some ⟨some (.delta 1 0), [], none⟩⟩,
            ⟨[], "On you go.", some ⟨some (.word "north"), [], some .win⟩⟩,
            ⟨[], "On you go.", some ⟨none, ["-key"], none⟩⟩]⟩]⟩,
        ⟨.null, 0, 0, "default", "cellar", "A cellar.", []⟩]⟩
    read (.table [(.text "rooms", .list [porch, cellar])]) = .ok w ∧ "default" ≠ "" ∧
      (w.roomAt? 0 0 "default").map (·.name) = some "porch" ∧
      (∃ n : Int, ((Script.findRoom 0 0 "default").run Store.backend w.seeded).1 =
        .ok ((w.roomAt? 0 0 "default").map ({ · with id := .int n }))) ∧
      ∀ r ∈ w.rooms, Room.read (.table r.toRecord) = .valid { r with id := .null } := by
  intro condition porch cellar w
  have hread : read (.table [(.text "rooms", .list [porch, cellar])]) = .ok w := rfl
  exact ⟨hread, by decide, by decide, findRoom_seeded hread 0 0 (by decide)⟩

end World

end TextAdventure
