import TextAdventure.Store.Query
import TextAdventure.Turn.Basic

/-!
# Scripts

A computation that asks a store and takes notes on its way, held apart from what answers it. A
script can be run to its end at once, or step by step with steps of other scripts in between.
-/

namespace TextAdventure

/-- A computation that asks queries, takes notes and ends with a result. -/
inductive Script (α : Type) where
  | done (a : α)
  | note (notes : List Note) (next : Script α)
  | ask (q : Query) (next : q.Answer → Script α)

namespace Script

/-- Goes on with the result. -/
def bind {α β : Type} : Script α → (α → Script β) → Script β
  | .done a, f => f a
  | .note ns next, f => .note ns (next.bind f)
  | .ask q next, f => .ask q fun a => (next a).bind f

instance : Monad Script where
  pure := .done
  bind := bind

theorem bind_done {α : Type} (x : Script α) : x.bind .done = x := by
  induction x with
  | done a => rfl
  | note ns next ih => simp [bind, ih]
  | ask q next ih => simp [bind, ih]

theorem bind_assoc {α β γ : Type} (x : Script α) (f : α → Script β) (g : β → Script γ) :
    (x.bind f).bind g = x.bind fun a => (f a).bind g := by
  induction x with
  | done a => rfl
  | note ns next ih => simp [bind, ih]
  | ask q next ih => simp [bind, ih]

instance : LawfulMonad Script := .mk' Script bind_done (fun _ _ => rfl) bind_assoc

/-- Runs a script to its end; the notes come in the order in which they were taken. -/
def run {σ α : Type} (b : Backend σ) : Script α → σ → α × List Note × σ
  | .done a, s => (a, [], s)
  | .note ns next, s =>
    let (a, more, s) := next.run b s
    (a, ns ++ more, s)
  | .ask q next, s =>
    let (answer, s) := b.answer q s
    (next answer).run b s

/-- Goes on until the next query or the end; the notes taken on the way are returned. -/
def advance {α : Type} : Script α → List Note × Script α
  | .note ns next =>
    let (more, rest) := next.advance
    (ns ++ more, rest)
  | s => ([], s)

end Script

end TextAdventure
