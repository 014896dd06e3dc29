import Mathlib.Data.List.Chain
import TextAdventure.Proofs.Turn.Course

/-!
# The protocol of a turn

What a turn asks of the store, and in which order. It looks up its player and inserts one exactly if
none was found; it looks up the room of the player; then it goes its legs, each of which saves the
items if they have changed, saves the position and looks up the room there; and at last it saves
what is left. Such a route has at most `maxRoomChain` legs, and a position is left to be saved only
after the last of them (`Route`).

A turn asks for all of such a route, or for a beginning of it that ends in a query which went wrong
(`Setting.Proceeds`, `Setting.play_proceeds`). That a look-up comes right after the position was
saved rests on one thing: while a turn acts, it marks a position to be saved exactly if it marks an
arrival to be announced (`Turn.IsEven`).
-/

namespace TextAdventure

namespace Query

/-- Whether a room is looked up. -/
def isRoomLookup : Query → Bool
  | .findRoom .. => true
  | _ => false

/-- A query may come right before another one of the same turn. -/
def Leads : Query → Query → Prop
  | .findPlayer .., .insertPlayer _ | .findPlayer .., .findRoom .. => True
  | .insertPlayer _, .findRoom .. => True
  | .findRoom .., .updatePlayer .. => True
  | .updatePlayer _ (.position x y), .findRoom x' y' _ => x' = x ∧ y' = y
  | .updatePlayer id (.items _), .updatePlayer id' (.position ..)
  | .updatePlayer id (.items _), .updatePlayer id' (.status _)
  | .updatePlayer id (.position ..), .updatePlayer id' (.status _) => id' = id
  | _, _ => False

end Query

namespace History

/-- The queries that are asked, in order. -/
def queries (h : History) : List Query :=
  h.filterMap fun
    | .asked q _ => some q
    | .noted _ => none

/-- The last query has an answer that a turn cannot go on with, and no query before it has. -/
def FailsLast (h : History) : Prop :=
  ∃ (before : History) (q : Query) (answer : q.Answer) (ns : List Note),
    h = before ++ .asked q answer :: ns.map .noted ∧ q.Fails answer ∧ ¬before.Fails

@[simp] theorem queries_append (g h : History) : queries (g ++ h) = queries g ++ queries h :=
  List.filterMap_append

@[simp] theorem queries_notes (ns : List Note) : queries (ns.map .noted) = [] := by
  rw [queries, List.filterMap_map]
  exact List.filterMap_eq_nil_iff.2 fun _ _ => rfl

@[simp] theorem queries_nil : queries [] = [] := rfl

@[simp] theorem queries_asked_cons (q : Query) (answer : q.Answer) (h : History) :
    queries (.asked q answer :: h) = q :: queries h := rfl

@[simp] theorem queries_noted_cons (n : Note) (h : History) :
    queries (.noted n :: h) = queries h := rfl

/-- A query that went wrong is the last one, whatever notes are taken then. -/
theorem FailsLast.noted {h : History} (hlast : h.FailsLast) (ns : List Note) :
    FailsLast (h ++ ns.map .noted) := by
  obtain ⟨before, q, answer, ms, rfl, hfails, hsound⟩ := hlast
  exact ⟨before, q, answer, ms ++ ns, by simp, hfails, hsound⟩

end History

/-! ### Routes -/

/-- The changes of the items and of the place, as far as there are any, in the order in which they
are saved. -/
def Change.ofMove (items : Option Inventory) (place : Option (Int × Int)) : List Change :=
  items.toList.map .items ++ place.toList.map fun place => .position place.1 place.2

/-- One leg of the way of a player: the items that are saved before it, and where it leads. -/
structure Leg where
  items : Option Inventory
  x : Int
  y : Int

/-- The queries of a leg: what is saved, and the look-up of the room. -/
def Leg.queries (p : Player) (l : Leg) : List Query :=
  (Change.ofMove l.items (some (l.x, l.y))).map (.updatePlayer p.id) ++ [.findRoom l.x l.y p.map]

/-- The way of a player in one turn, and what is saved at the end of it. -/
structure Route where
  legs : List Leg
  items : Option Inventory
  position : Option (Int × Int)
  status : Option Status
  length_le : legs.length ≤ maxRoomChain
  /-- A position is left only if there may be no more legs. -/
  length_eq : position ≠ none → legs.length = maxRoomChain

namespace Route

/-- What is saved at the end of a route. -/
def closing (r : Route) : List Change :=
  Change.ofMove r.items r.position ++ r.status.toList.map .status

/-- What a turn asks for its player: the room, what comes on the way, and what is saved at last. -/
def queries (p : Player) (r : Route) : List Query :=
  .findRoom p.x p.y p.map :: r.legs.flatMap (·.queries p) ++ r.closing.map (.updatePlayer p.id)

/-- A route so far, with nothing saved after its last leg. -/
def soFar (legs : List Leg) (h : legs.length ≤ maxRoomChain) : Route :=
  ⟨legs, none, none, none, h, nofun⟩

theorem queries_soFar (p : Player) (legs : List Leg) (h : legs.length ≤ maxRoomChain) :
    (soFar legs h).queries p = .findRoom p.x p.y p.map :: legs.flatMap (·.queries p) := by
  simp [queries, closing, soFar, Change.ofMove]

theorem countP_legs (p : Player) (legs : List Leg) :
    (legs.flatMap (·.queries p)).countP Query.isRoomLookup = legs.length := by
  induction legs with
  | nil => rfl
  | cons l legs ih =>
    have hleg : (l.queries p).countP Query.isRoomLookup = 1 := by
      cases hitems : l.items <;> simp [Leg.queries, Change.ofMove, hitems, Query.isRoomLookup]
    rw [List.flatMap_cons, List.countP_append, hleg, ih, List.length_cons, Nat.add_comm]

/-- On a route no more rooms are looked up than may be entered in one turn. -/
theorem countP_queries_le (p : Player) (r : Route) :
    (r.queries p).countP Query.isRoomLookup ≤ maxRoomChain + 1 := by
  have hclosing : (r.closing.map (Query.updatePlayer p.id)).countP Query.isRoomLookup = 0 := by
    rw [List.countP_map]
    exact List.countP_eq_zero.2 fun _ _ h => Bool.noConfusion h
  have hlegs := r.length_le
  rw [queries, List.cons_append, List.countP_cons, List.countP_append, countP_legs, hclosing]
  simp only [Query.isRoomLookup, if_true]
  omega

/-- On a route rooms are looked up and changes of the player are saved. -/
theorem mem_queries {p : Player} {r : Route} {q : Query} (h : q ∈ r.queries p) :
    (∃ x y map, q = .findRoom x y map) ∨ ∃ c, q = .updatePlayer p.id c := by
  simp only [queries, Leg.queries, List.cons_append, List.mem_cons, List.mem_append,
    List.mem_flatMap, List.mem_map, List.not_mem_nil, or_false] at h
  rcases h with rfl | ⟨l, -, ⟨c, -, rfl⟩ | rfl⟩ | ⟨c, -, rfl⟩
  · exact .inl ⟨_, _, _, rfl⟩
  · exact .inr ⟨c, rfl⟩
  · exact .inl ⟨_, _, _, rfl⟩
  · exact .inr ⟨c, rfl⟩

theorem isChain_closing (p : Player) (r : Route) (x y : Int) (map : String) :
    (Query.findRoom x y map :: r.closing.map (.updatePlayer p.id)).IsChain Query.Leads := by
  obtain ⟨-, items, position, status, -, -⟩ := r
  cases items <;> cases position <;> cases status <;>
    simp [closing, Change.ofMove, Query.Leads]

/-- On a route every query may come right after the one before it. -/
theorem isChain_queries (p : Player) (r : Route) : (r.queries p).IsChain Query.Leads := by
  have hlegs : ∀ (legs : List Leg) (x y : Int) (map : String),
      (.findRoom x y map :: (legs.flatMap (·.queries p) ++
        r.closing.map (.updatePlayer p.id))).IsChain Query.Leads := by
    intro legs
    induction legs with
    | nil => exact r.isChain_closing p
    | cons l legs ih =>
      intro x y map
      have hnext := ih l.x l.y p.map
      cases hitems : l.items <;>
        simpa [Leg.queries, Change.ofMove, hitems, Query.Leads] using hnext
  exact hlegs r.legs p.x p.y p.map

end Route

/-! ### Turns that mark what they change -/

/-- What is to be announced is to be saved, and the other way round. -/
def Turn.IsEven (t : Turn) : Prop := t.pending.arrival = t.pending.position

namespace Turn.IsEven

variable {t : Turn} (ht : t.IsEven)
include ht

theorem of_pending {u : Turn} (hu : u.pending = t.pending) : u.IsEven := by
  rw [IsEven, hu]
  exact ht

theorem say (messages : Value) (key : String) : (t.say messages key).1.IsEven := by
  rw [Turn.say_eq]
  exact ht

theorem applyCondition (directions : Directions) (c : Condition) :
    (t.applyCondition directions c).IsEven := by
  unfold Turn.applyCondition
  dsimp only
  split
  · -- an effect marks both if it moves the player, and neither otherwise
    exact congrArg (· || _) ht
  · exact ht

theorem trigger {directions : Directions} {p : Player} {a : Attribute} {u : Turn}
    (h : t.trigger directions p a = some u) : u.IsEven := by
  obtain ⟨c, -, rfl⟩ := Option.map_eq_some_iff.1 h
  exact ht.applyCondition directions c

variable (s : Setting)

theorem reset (everything : Bool) : (s.reset t everything).1.IsEven := by
  unfold Setting.reset
  split
  · exact ht
  · split
    · exact ht
    · exact say (by rfl) _ _

theorem perform (p : Player) (room : Room) (r : Reaction) : (s.perform t p room r).1.IsEven := by
  cases r with
  | ignored => exact ht
  | notUnderstood => exact ht.say _ _
  | reset everything => exact ht.reset s everything
  | resetRefused => exact ht.say _ _
  | triggers a =>
    simp only [Setting.perform]
    split
    · next h => exact ht.trigger h
    · exact ht.say _ _
  | look =>
    simp only [Setting.perform, Setting.look]
    split
    · exact ht.say _ _
    · exact ht
  | exits =>
    simp only [Setting.perform, Setting.listExits]
    split
    · exact ht.say _ _
    · split <;> exact ht
  | unmatched verb object => exact say (ht.of_pending (by rfl)) _ _

theorem dispatch : (s.dispatch t).1.IsEven := by
  unfold Setting.dispatch
  split
  · exact ht
  · exact perform (ht.of_pending (by rfl)) s _ _ _

theorem enterRoom (room : Room) : (s.enterRoom t room).IsEven := by
  unfold Setting.enterRoom
  split
  · exact ht
  · next p _ =>
    dsimp only
    split
    · exact ht
    · next a _ =>
      cases h : ((t.note (.entered room)).reply (.text room.description)).trigger s.directions p a
      with
      | none => exact ht
      | some u => exact (ht.of_pending (by rfl)).trigger h

end Turn.IsEven

/-- Coming to a room leaves an arrival to be announced only if it moves the player on. -/
theorem Setting.arrive_isEven (s : Setting) {t : Turn} (ht : t.pending.position = false)
    (p : Player) (room : Option Room) : (s.arrive t p room).1.IsEven := by
  have hcleared : ∀ room, Turn.IsEven
      { t with room, pending := { t.pending with arrival := false } } := fun _ => ht.symm
  unfold Setting.arrive
  split
  · dsimp only
    split
    · exact ((hcleared none).of_pending (by rfl)).say _ _
    · next harrival => exact (Bool.eq_false_iff.2 harrival).trans ht.symm
  · dsimp only
    split
    · exact ((hcleared none).of_pending (by rfl)).enterRoom s _
    · next harrival => exact (Bool.eq_false_iff.2 harrival).trans ht.symm

namespace Setting

variable (s : Setting)

/-- What a turn asks, by its history: a whole route after it has got its player, or a beginning of
one up to a query that went wrong. -/
inductive Proceeds (username map : String) (h : History) : Prop
  | whole {opening rest : History} {start : Player} (heq : h = opening ++ rest)
      (hopens : s.Opens username map opening start) (route : Route)
      (hqueries : rest.queries = route.queries start) (hsound : ¬h.Fails)
  | aborted {opening rest : History} {start : Player} (heq : h = opening ++ rest)
      (hopens : s.Opens username map opening start) (route : Route)
      (hqueries : rest.queries <+: route.queries start) (hlast : h.FailsLast)
  /-- The player cannot be looked up. -/
  | unknown (hqueries : h.queries = [.findPlayer username map]) (hlast : h.FailsLast)
  /-- No player was found, and none can be inserted. -/
  | unstored {place : Int × Int} {rest : History} (hplace : s.origin.start = .ok place)
      (heq : h = .asked (.findPlayer username map) (.ok none) :: rest)
      (hqueries : rest.queries =
        [.insertPlayer (Player.atPosition username map place.1 place.2).toRecord])
      (hlast : h.FailsLast)

namespace Opens

variable {s} {username map : String} {opening : History} {start : Player}

theorem countP_queries (h : s.Opens username map opening start) :
    opening.queries.countP Query.isRoomLookup = 0 := by
  cases h <;> rfl

/-- After the player has been found or inserted, the room may be looked up. -/
theorem isChain_queries (h : s.Opens username map opening start) {q : Query} {qs : List Query}
    (hq : q.isRoomLookup = true) (hchain : (q :: qs).IsChain Query.Leads) :
    (opening.queries ++ q :: qs).IsChain Query.Leads := by
  obtain ⟨x, y, m, rfl⟩ : ∃ x y m, q = .findRoom x y m := by
    cases q <;> first | exact ⟨_, _, _, rfl⟩ | cases hq
  cases h with
  | found record p hread => simpa [Query.Leads] using hchain
  | created place hplace stored id hid hnull => simpa [Query.Leads] using hchain

end Opens

variable {s} {username map : String} {start p : Player} {past : History} {done : List Query}
  {t : Turn}

namespace Proceeds

/-- Notes do not matter for the protocol. -/
theorem noted {h : History} (hproceeds : s.Proceeds username map h) (ns : List Note) :
    s.Proceeds username map (h ++ ns.map .noted) := by
  cases hproceeds with
  | whole heq hopens route hqueries hsound =>
    exact .whole (by rw [heq, List.append_assoc]) hopens route (by simpa using hqueries)
      (by simpa using hsound)
  | aborted heq hopens route hqueries hlast =>
    exact .aborted (by rw [heq, List.append_assoc]) hopens route (by simpa using hqueries)
      (hlast.noted ns)
  | unknown hqueries hlast => exact .unknown (by simpa using hqueries) (hlast.noted ns)
  | unstored hplace heq hqueries hlast =>
    exact .unstored hplace (by rw [heq, List.cons_append]) (by simpa using hqueries)
      (hlast.noted ns)

/-- What is asked is the beginning of a sequence in which every query may come right after the one
before it, and in which no more rooms are looked up than may be entered in one turn. -/
theorem exists_word {h : History} (hproceeds : s.Proceeds username map h) :
    ∃ word : List Query, h.queries <+: word ∧ word.IsChain Query.Leads ∧
      word.countP Query.isRoomLookup ≤ maxRoomChain + 1 := by
  have hroute : ∀ {opening rest : History} {start : Player} (route : Route), h = opening ++ rest →
      s.Opens username map opening start → rest.queries <+: route.queries start →
      ∃ word : List Query, h.queries <+: word ∧ word.IsChain Query.Leads ∧
        word.countP Query.isRoomLookup ≤ maxRoomChain + 1 := by
    rintro opening rest start route rfl hopens hbegins
    refine ⟨opening.queries ++ route.queries start, ?_,
      hopens.isChain_queries rfl (route.isChain_queries start), ?_⟩
    · rw [History.queries_append]
      exact (List.prefix_append_right_inj _).2 hbegins
    · rw [List.countP_append, hopens.countP_queries, Nat.zero_add]
      exact route.countP_queries_le start
  cases hproceeds with
  | whole heq hopens route hqueries _ => exact hroute route heq hopens (hqueries ▸ List.prefix_rfl)
  | aborted heq hopens route hqueries _ => exact hroute route heq hopens hqueries
  | unknown hqueries _ =>
    refine ⟨_, List.prefix_rfl, ?_, ?_⟩
    · simp [hqueries]
    · simp [hqueries, Query.isRoomLookup]
  | unstored _ heq hqueries _ =>
    refine ⟨_, List.prefix_rfl, ?_, ?_⟩
    · simp [heq, hqueries, Query.Leads]
    · simp [heq, hqueries, Query.isRoomLookup]

end Proceeds

/-! ### The parts of a turn -/

/-- A turn works with a player, and has asked for no more than `done` since it got the player. -/
structure Going (s : Setting) (username map : String) (start : Player) (done : List Query)
    (past : History) (t : Turn) (p : Player) : Prop where
  player : t.player = some p
  id_eq : p.id = start.id
  map_eq : p.map = start.map
  error : t.error = none
  sound : ¬past.Fails
  opens : ∃ opening rest, past = opening ++ rest ∧ s.Opens username map opening start ∧
    rest.queries = done

/-- How a part of a turn ends: the turn still works with its player, or it has been halted, having
proceeded as it should. -/
def Halfway (s : Setting) (username map : String) (start : Player) (R : List Query → Turn → Prop)
    (past : History) (x : Turn × Option Halt) : Prop :=
  match x with
  | (t, none) => ∃ done p, s.Going username map start done past t p ∧ R done t
  | (_, some _) => s.Proceeds username map past

namespace Going

/-- A turn that has gone a whole route may be halted then. -/
theorem whole (h : s.Going username map start done past t p) (route : Route)
    (hroute : route.queries start = done) : s.Proceeds username map past := by
  obtain ⟨opening, rest, hpast, hopens, hrest⟩ := h.opens
  exact .whole hpast hopens route (hrest.trans hroute.symm) h.sound

/-- A turn may be halted on its route by a query that goes wrong. -/
theorem abort (h : s.Going username map start done past t p) (route : Route) {q : Query}
    {answer : q.Answer} (hroute : done ++ [q] <+: route.queries start) (hfails : q.Fails answer) :
    s.Proceeds username map (past ++ [.asked q answer]) := by
  obtain ⟨opening, rest, hpast, hopens, hrest⟩ := h.opens
  refine .aborted (by rw [hpast, List.append_assoc]) hopens route ?_
    ⟨past, q, answer, [], rfl, hfails, h.sound⟩
  simpa [hrest] using hroute

theorem noted (h : s.Going username map start done past t p) (ns : List Note) :
    s.Going username map start done (past ++ ns.map .noted) t p := by
  obtain ⟨opening, rest, hpast, hopens, hrest⟩ := h.opens
  exact
    { h with
      sound := by simpa using h.sound
      opens := ⟨opening, rest ++ ns.map .noted, by simp [hpast], hopens, by simpa using hrest⟩ }

theorem ask (h : s.Going username map start done past t p) {q : Query} (answer : q.Answer)
    (hanswer : ¬q.Fails answer) :
    s.Going username map start (done ++ [q]) (past ++ [.asked q answer]) t p := by
  obtain ⟨opening, rest, hpast, hopens, hrest⟩ := h.opens
  exact
    { h with
      sound := by simpa [hanswer] using h.sound
      opens := ⟨opening, rest ++ [.asked q answer], by simp [hpast], hopens, by simpa using hrest⟩ }

/-- A turn that acts and passes its notes on still works with its player. -/
theorem act (h : s.Going username map start done past t p) {u : Turn} (hu : t.Onward u) :
    ∃ q, s.Going username map start done (past ++ u.notes.map .noted) { u with notes := [] } q := by
  obtain ⟨q, hq, hpq⟩ := hu.player p h.player
  exact ⟨q,
    { h.noted u.notes with
      player := hq
      id_eq := hpq.id.trans h.id_eq
      map_eq := hpq.map.trans h.map_eq
      error := hu.error.trans h.error }⟩

/-- A change of the player is saved, whatever comes of it. -/
theorem save (h : s.Going username map start done past t p) {q : Player} (hq : q.id = start.id)
    (c : Change) (answer : (Query.updatePlayer q.id c).Answer) :
    s.Going username map start (done ++ [.updatePlayer start.id c])
      (past ++ [.asked (.updatePlayer q.id c) answer] ++
        (Script.saveNotes q c answer).map .noted) t p := by
  rw [← hq]
  exact (h.ask answer fun hfails => hfails).noted _

/-- An act that is passed on is a part of the turn, and a crash in it halts the turn on its way. -/
theorem pass (h : s.Going username map start done past t p) {step : Turn × Option Crash}
    (hstep : t.Onward step.1) (route : Route) (hroute : route.queries start = done) :
    (Run.pass step).Always
      (s.Halfway username map start fun done' u => done' = done ∧ u.pending = step.1.pending)
      past := by
  obtain ⟨u, crash⟩ := step
  obtain ⟨q, hq⟩ := h.act hstep
  match crash with
  | none => exact ⟨done, q, hq, rfl, rfl⟩
  | some c => exact hq.whole route hroute

end Going

/-- A part goes on with the next one unless the turn was halted. -/
theorem Halfway.andThen {R R' : List Query → Turn → Prop} {r : Run} {next : Turn → Run}
    (hr : r.Always (s.Halfway username map start R) past)
    (hnext : ∀ g done t p, s.Going username map start done g t p → R done t →
      (next t).Always (s.Halfway username map start R') g) :
    (r.andThen next).Always (s.Halfway username map start R') past := by
  refine hr.andThen (fun g t ht => ?_) fun _ _ _ ht => ht
  obtain ⟨done, p, hp, hR⟩ := ht
  exact hnext g done t p hp hR

/-- Looking up the room of the player and entering it. -/
theorem enter_proceeds (h : s.Going username map start done past t p)
    (hposition : t.pending.position = false) (route : Route)
    (hroute : route.queries start = done ++ [.findRoom p.x p.y p.map]) :
    (s.enter t).Always
      (s.Halfway username map start fun done' u =>
        done' = done ++ [.findRoom p.x p.y p.map] ∧ u.IsEven) past := by
  unfold enter
  split
  · next hnone => exact absurd (hnone.symm.trans h.player) (by simp)
  · next q hq =>
    obtain rfl : q = p := Option.some.inj (hq.symm.trans h.player)
    intro answer
    cases hroom : Script.roomFound q.x q.y q.map answer with
    | error e =>
      simp only [Script.bind, hroom]
      exact h.abort route (hroute ▸ List.prefix_rfl) (fails_of_roomFound hroom)
    | ok room =>
      simp only [Script.bind, hroom]
      have hasked := h.ask answer (not_fails_of_roomFound hroom)
      have hentered : s.Going username map start (done ++ [.findRoom q.x q.y q.map])
          (past ++ [.asked (.findRoom q.x q.y q.map) answer])
          { t with statusAtEntry := t.statusAtEntry.or (some q.status) } q := { hasked with }
      refine (hentered.pass (s.arrive_onward _ q room) route hroute).imp fun g x hx => ?_
      obtain ⟨u, _ | halt⟩ := x
      · obtain ⟨done', r, hr, hdone, hpending⟩ := hx
        refine ⟨done', r, hr, hdone, ?_⟩
        exact (s.arrive_isEven (by exact hposition) q room).of_pending hpending
      · exact hx

/-- The place of a player that is yet to be announced. -/
def comingTo (t : Turn) (p : Player) : Option (Int × Int) :=
  if t.pending.arrival then some (p.x, p.y) else none

/-- Saving what has changed: the position is saved if there is an arrival to be announced. -/
theorem persist_proceeds (h : s.Going username map start done past t p) (ht : t.IsEven) :
    (persist t).Always
      (fun g u => ∃ items, s.Going username map start
        (done ++ (Change.ofMove items (comingTo u p)).map (.updatePlayer start.id)) g u p ∧
          u.pending.position = false)
      past := by
  have hitems : (persistItems p t).Always
      (fun g u => ∃ items : Option Inventory, s.Going username map start
        (done ++ items.toList.map fun items => .updatePlayer start.id (.items items)) g u p ∧
          u.IsEven) past := by
    unfold persistItems
    split
    · intro answer
      exact ⟨some p.items, { h.save h.id_eq (.items p.items) answer with }, ht⟩
    · exact ⟨none, by simpa using h, ht⟩
  unfold persist
  rw [h.player]
  refine (hitems.imp fun g u hu => ?_).bind
  obtain ⟨items, hu, heven⟩ := hu
  unfold persistPosition
  rw [← heven]
  split
  · next harrival =>
    intro answer
    have hsaved := hu.save hu.id_eq (.position p.x p.y) answer
    refine ⟨items, { hsaved with opens := ?_ }, rfl⟩
    simpa [Change.ofMove, comingTo, harrival, Function.comp_def] using hsaved.opens
  · next harrival =>
    refine ⟨items, ?_, heven.symm.trans (by simpa using harrival)⟩
    simpa [Change.ofMove, comingTo, harrival, Function.comp_def] using hu

/-- Announcing the rooms that the player comes to: each is a leg of the route. -/
theorem announce_proceeds (n : Nat) (legs : List Leg) (items : Option Inventory)
    (hlegs : legs.length + n = maxRoomChain)
    (h : s.Going username map start
      (.findRoom start.x start.y start.map :: legs.flatMap (·.queries start) ++
        (Change.ofMove items (comingTo t p)).map (.updatePlayer start.id)) past t p)
    (hposition : t.pending.position = false) :
    (s.announce n t).Always
      (s.Halfway username map start fun done _ =>
        ∃ route : Route, route.status = none ∧ route.queries start = done) past := by
  -- the number of rooms that may still be entered is what the route lacks of its greatest length
  induction n generalizing past t p legs items with
  | zero =>
    unfold announce
    split
    · next harrival =>
      obtain ⟨q, hq⟩ := h.act (u := { t with pending := { t.pending with arrival := false } }.log
        (.chainCutOff t.username maxRoomChain))
        ((t.arrival_onward t.room false).trans (Turn.log_onward _ _))
      refine ⟨_, q, hq, ⟨legs, items, comingTo t p, none, by omega, fun _ => hlegs⟩, rfl, ?_⟩
      simp [Route.queries, Route.closing]
    · next harrival =>
      refine ⟨_, p, h, ⟨legs, items, none, none, by omega, nofun⟩, rfl, ?_⟩
      simp [Route.queries, Route.closing, comingTo, harrival]
  | succ n ih =>
    unfold announce
    split
    · next harrival =>
      have hlegs' : (legs ++ [(⟨items, p.x, p.y⟩ : Leg)]).length + n = maxRoomChain := by
        simp only [List.length_append, List.length_singleton]
        omega
      refine Halfway.andThen (enter_proceeds h hposition
        (.soFar (legs ++ [⟨items, p.x, p.y⟩]) (by omega)) ?_) fun g done u q hu hR => ?_
      · simp [Route.queries_soFar, comingTo, harrival, Leg.queries, h.map_eq]
      · obtain ⟨rfl, heven⟩ := hR
        refine ((persist_proceeds hu heven).imp fun g v hv => ?_).bind
        obtain ⟨items', hv, hposition'⟩ := hv
        refine ih (p := q) _ items' hlegs' ?_ hposition'
        simpa [comingTo, harrival, Leg.queries, h.map_eq] using hv
    · next harrival =>
      refine ⟨_, p, h, ⟨legs, items, none, none, by omega, nofun⟩, rfl, ?_⟩
      simp [Route.queries, Route.closing, comingTo, harrival]

/-- An act that is passed on asks nothing, so a turn that has proceeded as it should ends so. -/
theorem Proceeds.pass (h : s.Proceeds username map past) (step : Turn × Option Crash) :
    (Run.pass step).Always (fun g _ => s.Proceeds username map g) past :=
  h.noted _

/-- Announcing and saving the status: it is the last thing that is saved. -/
theorem announceStatus_proceeds (h : s.Going username map start done past t p) (route : Route)
    (hstatus : route.status = none) (hroute : route.queries start = done) :
    (s.announceStatus t).Always
      (s.Halfway username map start fun done _ => ∃ route : Route, route.queries start = done)
      past := by
  unfold announceStatus
  split
  · next hnone => exact absurd (hnone.symm.trans h.player) (by simp)
  · next q hq =>
    obtain rfl : q = p := Option.some.inj (hq.symm.trans h.player)
    split
    · obtain ⟨rs, crash, hsaid, -⟩ := remind_eq s t q
      rw [hsaid]
      refine Halfway.andThen (h.pass { Turn.Onward.refl t with } route hroute)
        fun g done u q hu hR => ?_
      exact ⟨done, q, { hu with }, route, hroute.trans hR.1.symm⟩
    · obtain ⟨rs, crash, hsaid, -⟩ := tellStatus_eq s t q
      rw [hsaid]
      refine Halfway.andThen (h.pass { Turn.Onward.refl t with } route hroute)
        fun g done' u r hu hR answer => ?_
      have hsaved := (hu.noted [.log (.statusChanged q.username u.statusAtEntry q.status)]).save
        h.id_eq (.status q.status) answer
      refine ⟨_, r, { hsaved with }, { route with status := some q.status }, ?_⟩
      simp [hR.1, ← hroute, Route.queries, Route.closing, hstatus]

/-- Handing out the replies. -/
theorem finish_proceeds (h : s.Going username map start done past t p) (route : Route)
    (hstatus : route.status = none) (hroute : route.queries start = done) :
    (s.finish t).Always (fun g _ => s.Proceeds username map g) past := by
  unfold finish
  rw [h.error]
  refine ((announceStatus_proceeds h route hstatus hroute).imp fun g x hx => ?_).bind
  match x, hx with
  | (u, none), ⟨done, q, hu, route, hroute⟩ => exact (hu.whole route hroute).pass _
  | (_, some _), hx => exact hx

/-- Getting the player of a new turn. -/
theorem identify_proceeds {place : Int × Int} (hplace : s.origin.start = .ok place)
    (line username map : String) :
    (s.identify (.start line username map)).Always
      (fun g x => match x with
        | (t, none) => ∃ p, s.Going username map p [] g t p ∧ t.pending.position = false
        | (_, some _) => s.Proceeds username map g) [] := by
  intro answer
  match answer with
  | .error e => exact .unknown rfl ⟨[], _, _, [], rfl, trivial, History.not_fails_nil⟩
  | .ok (some record) =>
    cases hread : Player.read (.table record) with
    | invalid problems =>
      simp only [Script.playerFound, hread, Script.bind]
      exact .unknown rfl ⟨[], _, _, [], rfl, ⟨problems, hread⟩, History.not_fails_nil⟩
    | valid p =>
      simp only [Script.playerFound, hread, Script.bind]
      refine ⟨p, ?_, rfl⟩
      exact
        { player := rfl, id_eq := rfl, map_eq := rfl, error := rfl
          sound := by simp [Query.Fails, hread]
          opens := ⟨_, [], (List.append_nil _).symm, .found record p hread, rfl⟩ }
  | .ok none =>
    simp only [Script.playerFound, Script.bind, Turn.start, hplace]
    intro answer
    cases hcreated : Script.playerCreated
        (Player.atPosition username map place.1 place.2) answer with
    | error e =>
      simp only [hcreated, Script.bind]
      exact .unstored hplace rfl rfl
        ⟨[.asked (.findPlayer username map) (.ok none)], _, _, [], rfl,
          fails_of_playerCreated hcreated, by simp [Query.Fails]⟩
    | ok p =>
      simp only [hcreated, Script.bind]
      obtain ⟨stored, id, rfl, hid, hnull, rfl⟩ := eq_of_playerCreated hcreated
      refine ⟨{ Player.atPosition username map place.1 place.2 with id }, ?_, rfl⟩
      exact
        { player := rfl, id_eq := rfl, map_eq := rfl, error := rfl
          sound := by simp [Query.Fails, hid, hnull]
          opens := ⟨_, [], (List.append_nil _).symm, .created place hplace stored id hid hnull,
            rfl⟩ }

/-- The course of a turn up to its last announcement. -/
theorem advanceTurn_proceeds {place : Int × Int} (hplace : s.origin.start = .ok place)
    (line username map : String) :
    (s.advanceTurn (.start line username map)).Always
      (fun g x => match x with
        | (t, none) => ∃ start done p, s.Going username map start done g t p ∧
            ∃ route : Route, route.status = none ∧ route.queries start = done
        | (_, some _) => s.Proceeds username map g) [] := by
  refine Script.Always.bind ((identify_proceeds hplace line username map).imp fun g x hx => ?_)
  match x, hx with
  | (_, some _), hx => exact hx
  | (t, none), ⟨start, ht, hposition⟩ =>
    have hfirst : (Route.soFar [] (Nat.zero_le _)).queries start =
        [.findRoom start.x start.y start.map] := Route.queries_soFar start [] _
    refine Script.Always.imp (P := s.Halfway username map start fun done _ =>
      ∃ route : Route, route.status = none ∧ route.queries start = done) ?_ fun g x hx => ?_
    · refine Halfway.andThen (enter_proceeds ht hposition _ hfirst) fun g done t p ht hR => ?_
      obtain ⟨rfl, heven⟩ := hR
      refine Halfway.andThen (ht.pass (s.dispatch_onward t) _ hfirst) fun g done u p hu hR => ?_
      obtain ⟨rfl, hpending⟩ := hR
      have heven' : u.IsEven := (heven.dispatch s).of_pending hpending
      refine ((persist_proceeds hu heven').imp fun g v hv => ?_).bind
      obtain ⟨items, hv, hposition⟩ := hv
      exact announce_proceeds maxRoomChain [] items (Nat.zero_add _) hv hposition
    · match x, hx with
      | (t, none), ⟨done, p, hp, hroute⟩ => exact ⟨start, done, p, hp, hroute⟩
      | (_, some _), hx => exact hx

/-- Whatever the store answers, a turn asks for a whole route, or for a beginning of one up to a
query that went wrong. -/
theorem proceeds_of_place {place : Int × Int} (hplace : s.origin.start = .ok place)
    (line username map : String) :
    (s.play (.start line username map)).Always (fun h _ => s.Proceeds username map h) [] := by
  refine Script.Always.bind ((advanceTurn_proceeds hplace line username map).imp fun g x hx => ?_)
  match x, hx with
  | (_, some (.crash _)), hx => exact hx
  | (_, some (.storage e)), hx => exact hx.pass _
  | (t, none), ⟨start, done, p, ht, route, hstatus, hroute⟩ =>
    exact finish_proceeds ht route hstatus hroute

/-- Whatever the store answers, a turn keeps to the protocol. So a room is looked up right after the
position was saved, or as the first one; items are saved before the position, and the status comes
last; and there is an end to the rooms that are looked up, even if each of them sends the player
on. -/
theorem play_proceeds (vocabulary : Vocabulary) (messages : Value) (x y : Int) (more : List Int)
    (line username map : String) :
    let s : Setting := ⟨vocabulary, messages, x :: y :: more⟩
    (s.play (.start line username map)).Always
      (fun h _ => s.Proceeds username map h ∧ h.queries.IsChain Query.Leads ∧
        h.queries.countP Query.isRoomLookup ≤ maxRoomChain + 1) [] := by
  intro s
  refine (proceeds_of_place (s := s) rfl line username map).imp fun h _ hh => ⟨hh, ?_⟩
  obtain ⟨word, hbegins, hchain, hcount⟩ := hh.exists_word
  have hasked : h.queries.IsChain Query.Leads := List.IsChain.prefix hchain hbegins
  exact ⟨hasked, hbegins.sublist.countP_le.trans hcount⟩

end Setting

end TextAdventure
