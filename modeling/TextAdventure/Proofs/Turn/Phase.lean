import TextAdventure.Game.Slots
import TextAdventure.Proofs.Turn.Finished

/-!
# Phases of a turn

How far a turn has come, as its queries tell: it begins, it has found no player, it works with a
player, or it is over as far as its player is concerned. The phase settles what the turn may ask
next (`Turn.Phase.Allows`): only the look-up of its player at first, an insertion only if none was
found, then rooms and changes of that one player. The status is changed last, and a player who plays
no more is changed only by a reset. `Setting.play_obeys` proves that every turn keeps to this,
whatever the store answers.
-/

namespace TextAdventure

/-- How far a turn has come with its player. -/
inductive Turn.Phase where
  /-- The player has not been looked up. -/
  | begun
  /-- No player was found. -/
  | missing
  /-- The turn works with a player, who had this status when the turn began. -/
  | playing (id : Value) (status : Status)
  /-- Nothing more is asked for the player. -/
  | over

namespace Turn.Phase

/-- What the turn of a player may ask in a phase; `resets` tells whether its line is a reset. -/
def Allows (key : TurnKey) (resets : Prop) : Phase → Query → Prop
  | .begun, .findPlayer username map => username = key.username ∧ map = key.map
  | .missing, .insertPlayer record =>
    ∃ x y, record = (Player.atPosition key.username key.map x y).toRecord
  | .playing _ _, .findRoom .. => True
  | .playing id status, .updatePlayer id' _ => id' = id ∧ (status = .alive ∨ resets)
  | _, _ => False

/-- The phase after a query was answered. -/
def next : Phase → (q : Query) → q.Answer → Phase
  | .begun, .findPlayer username _, answer =>
    match Script.playerFound username answer with
    | .ok none => .missing
    | .ok (some p) => .playing p.id p.status
    | .error _ => .over
  | .missing, .insertPlayer _, answer =>
    match (answer : Except StorageError Fields) with
    | .error _ => .over
    | .ok stored =>
      match stored.get? "_id" with
      | none | some .null => .over
      | some id => .playing id .alive
  | .playing id status, .findRoom .., _ => .playing id status
  | .playing id status, .updatePlayer _ change, _ =>
    if change.isStatus then .over else .playing id status
  | _, _, _ => .over

end Turn.Phase

namespace History

/-- The phase that a turn has come to, given the one it was in before. -/
def phase : Turn.Phase → History → Turn.Phase
  | ph, [] => ph
  | ph, .noted _ :: h => phase ph h
  | ph, .asked q answer :: h => phase (ph.next q answer) h

/-- Every query is one that the turn of a player may ask in the phase it has come to. -/
def Obeys (key : TurnKey) (resets : Prop) : Turn.Phase → History → Prop
  | _, [] => True
  | ph, .noted _ :: h => Obeys key resets ph h
  | ph, .asked q answer :: h => ph.Allows key resets q ∧ Obeys key resets (ph.next q answer) h

variable {key : TurnKey} {resets : Prop}

@[simp] theorem phase_append (g h : History) (ph : Turn.Phase) :
    phase ph (g ++ h) = phase (phase ph g) h := by
  induction g generalizing ph with
  | nil => rfl
  | cons e g ih => cases e <;> exact ih _

@[simp] theorem phase_notes (ns : List Note) (ph : Turn.Phase) : phase ph (ns.map .noted) = ph := by
  induction ns with
  | nil => rfl
  | cons n ns ih => exact ih

theorem obeys_append {g h : History} {ph : Turn.Phase} :
    Obeys key resets ph (g ++ h) ↔ Obeys key resets ph g ∧ Obeys key resets (phase ph g) h := by
  induction g generalizing ph with
  | nil => simp [Obeys, phase]
  | cons e g ih => cases e <;> simp [Obeys, phase, ih, and_assoc]

/-- Without queries there is nothing to obey. -/
theorem obeys_of_queries_nil {h : History} (hqueries : h.queries = []) (ph : Turn.Phase) :
    Obeys key resets ph h := by
  induction h with
  | nil => trivial
  | cons e h ih =>
    cases e with
    | noted n => exact ih hqueries
    | asked q answer => cases hqueries

theorem obeys_of_queries_singleton {h : History} {q : Query} (hqueries : h.queries = [q])
    {ph : Turn.Phase} (hq : ph.Allows key resets q) : Obeys key resets ph h := by
  induction h with
  | nil => cases hqueries
  | cons e h ih =>
    cases e with
    | noted n => exact ih hqueries
    | asked q' answer =>
      obtain ⟨rfl, hrest⟩ := List.cons.inj hqueries
      exact ⟨hq, obeys_of_queries_nil hrest _⟩

/-- A turn that works with a player looks up rooms and saves changes of the player, the status last;
if the player plays no more and is not reset, it looks up rooms only. -/
theorem obeys_playing {h : History} {id : Value} {status : Status}
    (hqueries : ∀ q ∈ h.queries, (∃ x y map, q = .findRoom x y map) ∨ ∃ c, q = .updatePlayer id c)
    (hchain : h.queries.IsChain Query.Leads)
    (hstatus : status = .alive ∨ resets ∨ h.OnlyLooks) :
    Obeys key resets (.playing id status) h := by
  induction h with
  | nil => trivial
  | cons e h ih =>
    cases e with
    | noted n => exact ih hqueries hchain (by simpa using hstatus)
    | asked q answer =>
      have hrest := ih (fun q hq => hqueries q (List.mem_cons_of_mem _ hq))
        (List.isChain_of_isChain_cons hchain) (hstatus.imp_right (Or.imp_right fun hlooks =>
          (onlyLooks_asked_cons.1 hlooks).2))
      obtain ⟨x, y, map, rfl⟩ | ⟨c, rfl⟩ := hqueries q List.mem_cons_self
      · exact ⟨trivial, hrest⟩
      · refine ⟨⟨rfl, hstatus.imp_right fun hstatus => ?_⟩, ?_⟩
        · exact hstatus.resolve_right fun hlooks =>
            Bool.noConfusion (onlyLooks_asked_cons.1 hlooks).1
        · cases c with
          | status st =>
            -- nothing comes after the status
            refine obeys_of_queries_nil ?_ _
            cases hnext : queries h with
            | nil => rfl
            | cons q qs =>
              rw [queries_asked_cons, hnext, List.isChain_cons_cons] at hchain
              exact hchain.1.elim
          | items inv => exact hrest
          | position x y => exact hrest

end History

namespace Setting

variable {s : Setting} {key : TurnKey}

/-- A turn that has got its player works with that player. -/
theorem Opens.phase_eq {opening : History} {start : Player}
    (h : s.Opens key.username key.map opening start) :
    opening.phase .begun = .playing start.id start.status := by
  cases h with
  | found record p hread =>
    simp [History.phase, Turn.Phase.next, Script.playerFound, hread]
  | created place hplace stored id hid hnull =>
    simp [History.phase, Turn.Phase.next, Script.playerFound, hid, Player.atPosition]

theorem Opens.obeys {opening : History} {start : Player} {resets : Prop}
    (h : s.Opens key.username key.map opening start) : opening.Obeys key resets .begun := by
  cases h with
  | found record p hread => exact ⟨⟨rfl, rfl⟩, trivial⟩
  | created place hplace stored id hid hnull => exact ⟨⟨rfl, rfl⟩, ⟨_, _, rfl⟩, trivial⟩

/-- After a player has been found who plays no more, only rooms are looked up, unless the line is a
reset. -/
def LeavesFinished (s : Setting) (line : String) (key : TurnKey) (h : History) : Prop :=
  ∀ answer (rest : History) p, h = .asked (.findPlayer key.username key.map) answer :: rest →
    Script.playerFound key.username answer = .ok (some p) → p.isFinished = true →
      ¬s.Resets line → rest.OnlyLooks

theorem play_leavesFinished (line : String) :
    (s.play (.start line key.username key.map)).Always
      (fun h _ => s.LeavesFinished line key h) [] := by
  rw [play_eq_ask]
  intro answer
  refine Script.Always.after ?_
  by_cases hfinished : ∃ p, Script.playerFound key.username answer = .ok (some p) ∧
      p.isFinished = true ∧ ¬s.Resets line
  · obtain ⟨p, hfound, hp, hline⟩ := hfinished
    have hresumed := resume_finished hp hline key.username key.map
    show (s.resume _ (Script.playerFound key.username answer)).Always _ []
    rw [hfound]
    refine hresumed.imp fun h x hx answer' rest q heq _ _ _ => ?_
    cases heq
    exact hx.1
  · refine Script.Always.of_forall (fun h x answer' rest p heq hfound hp hline => ?_) _ _
    cases heq
    exact absurd ⟨p, hfound, hp, hline⟩ hfinished

/-- A turn that keeps to the protocol keeps to its phases. -/
theorem Proceeds.obeys {line : String} {h : History} (hproceeds : s.Proceeds key.username key.map h)
    (hfinished : s.LeavesFinished line key h) : h.Obeys key (s.Resets line) .begun := by
  have hroute : ∀ {opening rest : History} {start : Player} (route : Route), h = opening ++ rest →
      s.Opens key.username key.map opening start → rest.queries <+: route.queries start →
      h.Obeys key (s.Resets line) .begun := by
    rintro opening rest start route rfl hopens hbegins
    have hchain : rest.queries.IsChain Query.Leads :=
      List.IsChain.prefix (route.isChain_queries start) hbegins
    refine History.obeys_append.2 ⟨hopens.obeys, ?_⟩
    rw [hopens.phase_eq]
    refine History.obeys_playing (fun q hq => route.mem_queries (hbegins.subset hq)) hchain ?_
    cases hopens with
    | found record p hread =>
      by_cases hline : s.Resets line
      · exact .inr (.inl hline)
      · by_cases halive : start.status = .alive
        · exact .inl halive
        · refine .inr (.inr (hfinished _ _ start rfl ?_ ?_ hline))
          · simp [Script.playerFound, hread]
          · simpa [Player.isFinished] using halive
    | created => exact .inl rfl
  cases hproceeds with
  | whole heq hopens route hqueries _ => exact hroute route heq hopens (hqueries ▸ List.prefix_rfl)
  | aborted heq hopens route hqueries _ => exact hroute route heq hopens hqueries
  | unknown hqueries _ => exact History.obeys_of_queries_singleton hqueries ⟨rfl, rfl⟩
  | unstored _ heq hqueries _ =>
    rw [heq]
    exact ⟨⟨rfl, rfl⟩, History.obeys_of_queries_singleton hqueries ⟨_, _, rfl⟩⟩

/-- Whatever the store answers, a turn asks only what it may in its phase. -/
theorem play_obeys {place : Int × Int} (hplace : s.origin.start = .ok place) (line : String)
    (key : TurnKey) :
    (s.play (.start line key.username key.map)).Always
      (fun h _ => h.Obeys key (s.Resets line) .begun) [] :=
  ((proceeds_of_place hplace line key.username key.map).and (play_leavesFinished line)).imp
    fun _ _ h => h.1.obeys h.2

end Setting

end TextAdventure
