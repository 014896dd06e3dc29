import TextAdventure.Turn.Script

/-!
# Histories of scripts

A script leaves a history behind: the queries it has asked, each with its answer, and the notes it
has taken, in one order. `Script.Always` says that a statement about the history and the result
holds whatever the answers are; it goes through `bind` step by step (`Script.Always.bind`), so
that a script is followed part by part, the history so far in hand.

A run over a backend is one such course of events: what always holds holds of the history of the
run (`Script.Always.of_run`), the notes of the run are those of its history (`notes_history`), and
the store after it is the one that answered the queries of its history (`replay_history`).
-/

namespace TextAdventure

/-- One thing that happens in the course of a script. -/
inductive Happening where
  /-- A query is asked and answered. -/
  | asked (q : Query) (answer : q.Answer)
  /-- A note is taken. -/
  | noted (n : Note)

/-- What happens in the course of a script, in order. -/
abbrev History := List Happening

namespace History

/-- The notes that are taken. -/
def notes (h : History) : List Note :=
  h.filterMap fun
    | .noted n => some n
    | .asked .. => none

/-- The store after it has answered the queries once more. -/
def replay {σ : Type} (b : Backend σ) : History → σ → σ
  | [], s => s
  | .noted _ :: h, s => replay b h s
  | .asked q _ :: h, s => replay b h (b.answer q s).2

/-- The queries are answered as a backend answers them. -/
def AnsweredBy {σ : Type} (b : Backend σ) : History → σ → Prop
  | [], _ => True
  | .noted _ :: h, s => AnsweredBy b h s
  | .asked q answer :: h, s => answer = (b.answer q s).1 ∧ AnsweredBy b h (b.answer q s).2

@[simp] theorem notes_append (g h : History) : notes (g ++ h) = notes g ++ notes h :=
  List.filterMap_append

@[simp] theorem notes_map_noted (ns : List Note) : notes (ns.map .noted) = ns := by
  rw [notes, List.filterMap_map]
  exact List.filterMap_some

@[simp] theorem notes_asked_cons (q : Query) (answer : q.Answer) (h : History) :
    notes (.asked q answer :: h) = notes h := rfl

@[simp] theorem mem_notes {n : Note} {h : History} : n ∈ notes h ↔ .noted n ∈ h := by
  simp only [notes, List.mem_filterMap]
  constructor
  · rintro ⟨_ | m, hm, e⟩
    · cases e
    · cases e; exact hm
  · exact fun h => ⟨_, h, rfl⟩

section Replay

variable {σ : Type} (b : Backend σ)

theorem replay_append (g h : History) (s : σ) :
    replay b (g ++ h) s = replay b h (replay b g s) := by
  induction g generalizing s with
  | nil => rfl
  | cons e g ih => cases e <;> exact ih _

theorem replay_notes (ns : List Note) (s : σ) : replay b (ns.map .noted) s = s := by
  induction ns with
  | nil => rfl
  | cons n ns ih => exact ih

theorem answeredBy_append (g h : History) (s : σ) :
    AnsweredBy b (g ++ h) s ↔ AnsweredBy b g s ∧ AnsweredBy b h (replay b g s) := by
  induction g generalizing s with
  | nil => simp [AnsweredBy, replay]
  | cons e g ih => cases e <;> simp [AnsweredBy, replay, ih, and_assoc]

theorem answeredBy_notes (ns : List Note) (s : σ) : AnsweredBy b (ns.map .noted) s := by
  induction ns with
  | nil => trivial
  | cons n ns ih => exact ih

end Replay

end History

/-- Every query can be answered somehow: the store may refuse it. -/
instance (q : Query) : Nonempty q.Answer := by
  cases q <;> exact ⟨.error (.refused "")⟩

namespace Script

variable {α β σ : Type}

/-- Whatever the answers are, the history and the result satisfy a statement; `past` is what has
happened before. -/
def Always (P : History → α → Prop) : History → Script α → Prop
  | past, .done a => P past a
  | past, .note ns next => next.Always P (past ++ ns.map .noted)
  | past, .ask q next => ∀ answer, (next answer).Always P (past ++ [.asked q answer])

/-- The history of a run over a backend. -/
def history (b : Backend σ) : Script α → σ → History
  | .done _, _ => []
  | .note ns next, s => ns.map .noted ++ next.history b s
  | .ask q next, s =>
    .asked q (b.answer q s).1 :: (next (b.answer q s).1).history b (b.answer q s).2

namespace Always

variable {P Q : History → α → Prop} {past : History}

/-- Consequence. -/
theorem imp {x : Script α} (h : x.Always P past) (hPQ : ∀ h a, P h a → Q h a) :
    x.Always Q past := by
  induction x generalizing past with
  | done a => exact hPQ _ _ h
  | note ns next ih => exact ih h
  | ask q next ih => exact fun answer => ih answer (h answer)

theorem of_forall (h : ∀ g a, P g a) (x : Script α) (past : History) : x.Always P past := by
  induction x generalizing past with
  | done a => exact h _ _
  | note ns next ih => exact ih _
  | ask q next ih => exact fun answer => ih answer _

theorem and {x : Script α} (hP : x.Always P past) (hQ : x.Always Q past) :
    x.Always (fun h a => P h a ∧ Q h a) past := by
  induction x generalizing past with
  | done a => exact ⟨hP, hQ⟩
  | note ns next ih => exact ih hP hQ
  | ask q next ih => exact fun answer => ih answer (hP answer) (hQ answer)

/-- What has happened before may be taken into the statement. -/
theorem prepend {x : Script α} {g : History} (h : x.Always (fun h a => P (g ++ h) a) past) :
    x.Always P (g ++ past) := by
  induction x generalizing past with
  | done a => exact h
  | note ns next ih => simpa [Script.Always] using ih h
  | ask q next ih =>
    intro answer
    rw [List.append_assoc]
    exact ih answer (h answer)

theorem after {x : Script α} {g : History} (h : x.Always (fun h a => P (g ++ h) a) []) :
    x.Always P g := by
  simpa using h.prepend

/-- A script that goes on with another is followed through both. -/
theorem bind {x : Script α} {f : α → Script β} {R : History → β → Prop}
    (h : x.Always (fun g a => (f a).Always R g) past) : (x.bind f).Always R past := by
  induction x generalizing past with
  | done a => exact h
  | note ns next ih => exact ih h
  | ask q next ih => exact fun answer => ih answer (h answer)

/-- What has happened before stays. -/
theorem extends_past (x : Script α) (past : History) :
    x.Always (fun h _ => ∃ more, h = past ++ more) past := by
  induction x generalizing past with
  | done a => exact ⟨[], (List.append_nil past).symm⟩
  | note ns next ih =>
    refine (ih (past ++ ns.map .noted)).imp fun h _ ⟨more, hmore⟩ => ?_
    exact ⟨ns.map .noted ++ more, by rw [hmore, List.append_assoc]⟩
  | ask q next ih =>
    intro answer
    refine (ih answer (past ++ [.asked q answer])).imp fun h _ ⟨more, hmore⟩ => ?_
    exact ⟨.asked q answer :: more, by rw [hmore, List.append_assoc]; rfl⟩

/-- What always holds holds of every run. -/
theorem of_run {x : Script α} (h : x.Always P past) (b : Backend σ) (s : σ) :
    P (past ++ x.history b s) (x.run b s).1 := by
  induction x generalizing past s with
  | done a => simpa [history, run, Script.Always] using h
  | note ns next ih =>
    have := ih h s
    rwa [List.append_assoc] at this
  | ask q next ih =>
    have := ih _ (h (b.answer q s).1) (b.answer q s).2
    rwa [List.append_assoc] at this

/-- Some course of events is there to satisfy what always holds. -/
theorem exists_history {x : Script α} (h : x.Always P past) : ∃ g a, P (past ++ g) a := by
  induction x generalizing past with
  | done a => exact ⟨[], a, by simpa [Script.Always] using h⟩
  | note ns next ih =>
    obtain ⟨g, a, hg⟩ := ih h
    exact ⟨ns.map .noted ++ g, a, by rwa [← List.append_assoc]⟩
  | ask q next ih =>
    obtain ⟨answer⟩ := (inferInstance : Nonempty q.Answer)
    obtain ⟨g, a, hg⟩ := ih answer (h answer)
    exact ⟨.asked q answer :: g, a, by simpa using hg⟩

/-- Going on to the next query keeps what always holds. -/
theorem advance {x : Script α} (h : x.Always P past) :
    x.advance.2.Always P (past ++ x.advance.1.map .noted) := by
  induction x generalizing past with
  | done a => simpa [Script.advance] using h
  | note ns next ih => simpa [Script.advance, List.append_assoc] using ih h
  | ask q next => simpa [Script.advance] using h

end Always

/-! ### Going on to the next query -/

/-- Going on ends at a query or at the end. -/
theorem advance_cases (x : Script α) :
    (∃ ns a, x.advance = (ns, .done a)) ∨ ∃ ns q k, x.advance = (ns, .ask q k) := by
  induction x with
  | done a => exact .inl ⟨[], a, rfl⟩
  | ask q k => exact .inr ⟨[], q, k, rfl⟩
  | note ns x ih =>
    rcases ih with ⟨ms, a, h⟩ | ⟨ms, q, k, h⟩
    · exact .inl ⟨ns ++ ms, a, by simp [advance, h]⟩
    · exact .inr ⟨ns ++ ms, q, k, by simp [advance, h]⟩

/-- Going on to the next query leaves the result and the store as they will be. -/
theorem run_advance (b : Backend σ) (x : Script α) (s : σ) :
    (x.advance.2.run b s).1 = (x.run b s).1 ∧ (x.advance.2.run b s).2.2 = (x.run b s).2.2 := by
  induction x with
  | done a => exact ⟨rfl, rfl⟩
  | note ns next ih => exact ih
  | ask q next => exact ⟨rfl, rfl⟩

/-! ### Runs and their histories -/

section Run

variable (b : Backend σ)

theorem run_bind {β : Type} (x : Script α) (f : α → Script β) (s : σ) :
    ((x.bind f).run b s).1 = ((f (x.run b s).1).run b (x.run b s).2.2).1 := by
  induction x generalizing s with
  | done a => rfl
  | note ns next ih => exact ih s
  | ask q next ih => exact ih _ _

theorem history_bind {β : Type} (x : Script α) (f : α → Script β) (s : σ) :
    (x.bind f).history b s = x.history b s ++ (f (x.run b s).1).history b (x.run b s).2.2 := by
  induction x generalizing s with
  | done a => rfl
  | note ns next ih => simp [history, Script.bind, run, ih]
  | ask q next ih => simp [history, Script.bind, run, ih]

theorem notes_history (x : Script α) (s : σ) : (x.history b s).notes = (x.run b s).2.1 := by
  induction x generalizing s with
  | done a => rfl
  | note ns next ih => simp [history, run, ih]
  | ask q next ih => simp [history, run, ih]

theorem replay_history (x : Script α) (s : σ) :
    (x.history b s).replay b s = (x.run b s).2.2 := by
  induction x generalizing s with
  | done a => rfl
  | note ns next ih =>
    rw [history, History.replay_append, History.replay_notes]
    exact ih s
  | ask q next ih => exact ih _ _

theorem answeredBy_history (x : Script α) (s : σ) : (x.history b s).AnsweredBy b s := by
  induction x generalizing s with
  | done a => trivial
  | note ns next ih =>
    refine (History.answeredBy_append b _ _ s).2 ⟨History.answeredBy_notes b ns s, ?_⟩
    rw [History.replay_notes]
    exact ih s
  | ask q next ih => exact ⟨rfl, ih _ _⟩

end Run

end Script

end TextAdventure
