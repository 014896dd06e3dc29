import TextAdventure.Game.Slots
import TextAdventure.Turn.Play

/-!
# Games

A game plays the turns of many players over one store. Turns of different players may interleave
at their queries to the store; those of one player follow one another in the order of arrival.

`Arena.step` moves one turn on by one step, and any sequence of steps is an interleaving.
`Arena.runReady` is the schedule by which a game goes on: turns that are ready take their steps in
the order in which they became ready.
-/

namespace TextAdventure

/-- Where a turn in flight stands. -/
inductive Stage where
  /-- The turn has not arrived at its slot yet. -/
  | submitted (t : Turn)
  /-- The turn waits for its slot. -/
  | waiting (t : Turn)
  /-- The turn holds its slot. -/
  | running (script : Run)
  /-- The turn has left. -/
  | finished (t : Turn) (halt : Option Halt)

/-- A turn in flight. -/
structure Flight where
  key : TurnKey
  stage : Stage

/-- Turns in flight over a store. A turn is known by its number, its place among the flights. -/
structure Arena (σ : Type) where
  setting : Setting
  slots : Slots
  store : σ
  flights : List Flight
  /-- The notes of all turns in the order in which they were taken, each with its turn. -/
  trace : List (Nat × Note)

/-- How far a turn goes in one step. -/
inductive Pace where
  /-- The store answers at once, and a turn that has its slot runs to its end. -/
  | straight
  /-- Before each query to the store the other turns come to their steps. -/
  | yielding
  deriving DecidableEq, Repr

namespace Arena

variable {σ : Type}

/-- Records the stage of a turn. -/
def setStage (a : Arena σ) (i : Nat) (f : Flight) (stage : Stage) : Arena σ :=
  { a with flights := a.flights.set i { f with stage } }

/-- Lets a turn that holds its slot go on to its next query; if it ends, it leaves its slot. -/
def settle (a : Arena σ) (i : Nat) (f : Flight) (script : Run) : Arena σ :=
  let (notes, rest) := script.advance
  let a := { a with trace := a.trace ++ notes.map (i, ·) }
  match rest with
  | .done (t, halt) =>
    { a.setStage i f (.finished t halt) with slots := a.slots.leave f.key }
  | rest => a.setStage i f (.running rest)

/-- Lets a turn that holds its slot run to its end. -/
def runOut (b : Backend σ) (a : Arena σ) (i : Nat) (f : Flight) (script : Run) : Arena σ :=
  let ((t, halt), notes, store) := script.run b a.store
  { a.setStage i f (.finished t halt) with
    store
    slots := a.slots.leave f.key
    trace := a.trace ++ notes.map (i, ·) }

/-- Starts a turn that has just taken its slot. -/
def begin (b : Backend σ) (pace : Pace) (a : Arena σ) (i : Nat) (f : Flight) (t : Turn) : Arena σ :=
  match pace with
  | .straight => a.runOut b i f (a.setting.play t)
  | .yielding => a.settle i f (a.setting.play t)

/-- Moves one turn on by one step, if it can move. -/
def step (b : Backend σ) (pace : Pace) (a : Arena σ) (i : Nat) : Arena σ :=
  match a.flights[i]? with
  | none => a
  | some f =>
    match f.stage with
    | .submitted t =>
      let free := (a.slots.slot f.key).isFree
      let a := { a with slots := a.slots.arrive f.key i }
      if free then a.begin b pace i f t else a.setStage i f (.waiting t)
    | .waiting t =>
      if (a.slots.slot f.key).isNext i then
        { a with slots := a.slots.take f.key }.begin b pace i f t
      else a
    | .running (.ask q next) =>
      let (answer, store) := b.answer q a.store
      { a with store }.settle i f (next answer)
    | .running script => a.settle i f script
    | .finished .. => a

/-- The turns that are ready after a turn took its step: the turn itself if it is still running,
and if it has left its slot, the one that waited for it next. -/
def madeReady (a : Arena σ) (i : Nat) : List Nat :=
  match a.flights[i]? with
  | none => []
  | some f =>
    match f.stage with
    | .running _ => [i]
    | .finished .. => (a.slots.slot f.key).waiting.head?.toList
    | _ => []

/-- Lets the turns that are ready take their steps in order, for at most a number of steps. -/
def runReady (b : Backend σ) (pace : Pace) : Nat → List Nat → Arena σ → Arena σ
  | 0, _, a => a
  | _, [], a => a
  | n + 1, i :: ready, a =>
    let a := a.step b pace i
    runReady b pace n (ready ++ a.madeReady i) a

end Arena

/-- A game: its setting, the map that new turns are played on, its slots and its store. -/
structure Game (σ : Type) where
  setting : Setting
  map : String
  slots : Slots
  store : σ

namespace Game

variable {σ : Type}

/-- A game at its beginning. -/
def new (setting : Setting) (map : String) (store : σ) : Game σ :=
  { setting, map, slots := [], store }

/-- A turn of a player; an empty name stands for the map of the game. -/
def turn (g : Game σ) (line username : String) (map : Option String) : Turn :=
  let map := map.getD ""
  .start line username (if map = "" then g.map else map)

/-- A turn takes fewer steps than this: it waits at most once and asks at most thirty queries. -/
def maxSteps : Nat := 40

/-- What has come of turns that were played. -/
structure Played where
  turns : List (Turn × Option Halt)
  /-- The notes of all turns in the order in which they were taken, each with its turn. -/
  trace : List (Nat × Note)

/-- Plays turns that are submitted at the same time, in this order. -/
def playTogether (b : Backend σ) (pace : Pace) (g : Game σ) (turns : List Turn) :
    Played × Game σ :=
  let flights := turns.map fun t => { key := ⟨t.username, t.map⟩, stage := .submitted t }
  let a : Arena σ :=
    { setting := g.setting, slots := g.slots, store := g.store, flights, trace := [] }
  let a := a.runReady b pace (maxSteps * turns.length) (List.range turns.length)
  let results := a.flights.map fun f =>
    match f.stage with
    | .finished t halt => (t, halt)
    | .submitted t | .waiting t => (t, none)
    | .running _ => (.start "" f.key.username f.key.map, none)
  (⟨results, a.trace⟩, { g with slots := a.slots, store := a.store })

/-- Plays one turn. -/
def play (b : Backend σ) (pace : Pace) (g : Game σ) (t : Turn) : Played × Game σ :=
  g.playTogether b pace [t]

end Game

end TextAdventure
