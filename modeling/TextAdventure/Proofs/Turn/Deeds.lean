import TextAdventure.Proofs.Turn.Acting

/-!
# What is done to a player within a turn

The notes of a turn tell step by step what is done to its player: conditions of attributes are
applied, and the player may be reset (`Setting.course`). They obey two laws (`Setting.Lawful`). A room
is entered only by a player who has been moved since a room was last entered, or who is new. And a
player who is dead or has won stays so until a reset, with one exception: the entry attribute of a
room into which an effect has moved the player is applied all the same, whatever the status.

Both laws come from what is pending. While an arrival is, the player has been moved since the last
entry, and a finished one by an effect (`Setting.MayEnter`); right after an entry, only an effect can
have left an arrival (`Setting.HasEntered`). Coming to a room leads from the first to the second
(`MayEnter.arrive`), and acting upon a line back to the first (`HasEntered.dispatch`).
-/

namespace TextAdventure

namespace Note

/-- A room is entered. -/
def isEntry : Note → Bool
  | .entered _ => true
  | _ => false

/-- The player is reset. -/
def isReset : Note → Bool
  | .log (.playerReset ..) => true
  | _ => false

/-- Something is done to the player, or a room is entered; all other notes only report. -/
def isDeed : Note → Bool
  | .entered _ | .applied .. | .log (.playerReset ..) => true
  | _ => false

theorem isEntry_of_not_isDeed {n : Note} (h : n.isDeed = false) : n.isEntry = false := by
  cases n <;> first | rfl | cases h

end Note

/-- Each of some notes may come after those before it. -/
def InOrder (May : List Note → Note → Prop) (ns : List Note) : Prop :=
  ∀ pre n post, ns = pre ++ n :: post → May pre n

namespace InOrder

variable {May : List Note → Note → Prop} {ns ms : List Note}

theorem nil : InOrder May [] := fun pre n post h => by simp at h

theorem concat (h : InOrder May ns) {n : Note} (hn : May ns n) : InOrder May (ns ++ [n]) := by
  intro pre m post heq
  obtain rfl | ⟨init, last, rfl⟩ := post.eq_nil_or_concat
  · obtain ⟨rfl, hm⟩ := List.append_inj' heq rfl
    rwa [← List.singleton_inj.1 hm]
  · rw [List.concat_eq_append, ← List.cons_append, ← List.append_assoc] at heq
    obtain ⟨rfl, -⟩ := List.append_inj' heq rfl
    exact h pre m init rfl

/-- Notes that may come after any others. -/
theorem append (h : InOrder May ns) (hms : ∀ m ∈ ms, ∀ pre, May pre m) :
    InOrder May (ns ++ ms) := by
  induction ms generalizing ns with
  | nil => rwa [List.append_nil]
  | cons m ms ih =>
    obtain ⟨hm, hms⟩ := List.forall_mem_cons.1 hms
    rw [List.append_cons]
    exact ih (h.concat (hm ns)) hms

theorem of_append (h : InOrder May (ns ++ ms)) : InOrder May ns := fun pre n post heq =>
  h pre n (post ++ ms) (by rw [heq, List.append_assoc, List.cons_append])

end InOrder

/-- Something of a kind has been noted since a room was last entered. -/
def SinceEntry (kind : Note → Bool) (ns : List Note) : Prop :=
  ∃ pre n post, ns = pre ++ n :: post ∧ kind n = true ∧ ∀ m ∈ post, m.isEntry = false

namespace SinceEntry

variable {kind : Note → Bool} {ns : List Note}

theorem append (h : SinceEntry kind ns) {ms : List Note} (hms : ∀ m ∈ ms, m.isEntry = false) :
    SinceEntry kind (ns ++ ms) := by
  obtain ⟨pre, n, post, rfl, hn, hpost⟩ := h
  refine ⟨pre, n, post ++ ms, by simp, hn, fun m hm => ?_⟩
  exact (List.mem_append.1 hm).elim (hpost m) (hms m)

theorem concat (ns : List Note) {n : Note} (hn : kind n = true) : SinceEntry kind (ns ++ [n]) :=
  ⟨ns, n, [], rfl, hn, List.forall_mem_nil _⟩

theorem imp {kind' : Note → Bool} (h : SinceEntry kind ns)
    (hkind : ∀ n, kind n = true → kind' n = true) : SinceEntry kind' ns := by
  obtain ⟨pre, n, post, hns, hn, hpost⟩ := h
  exact ⟨pre, n, post, hns, hkind n hn, hpost⟩

end SinceEntry

namespace Setting

variable (s : Setting)

/-- The player after what a note tells of. -/
def afterNote (p : Player) : Note → Player
  | .applied _ c _ _ =>
    match c.effect with
    | some e => e.apply s.directions p
    | none => p
  | .log (.playerReset _ everything) =>
    match s.origin.place with
    | .ok place => p.resetTo place everything
    | .error _ => p
  | _ => p

/-- The player after all that some notes tell of. -/
def course (start : Player) (ns : List Note) : Player := ns.foldl s.afterNote start

/-- An effect moves the player. -/
def sweeps : Note → Bool
  | .applied _ c _ _ => (c.effect.bind (·.distance? s.directions)).isSome
  | _ => false

/-- The player is moved, by an effect or by a reset. -/
def moves (n : Note) : Bool := s.sweeps n || n.isReset

/-- The attribute is that of a room which is being entered, and into which an effect has moved the
player. -/
def SweptInto (a : Attribute) (ns : List Note) : Prop :=
  ∃ pre room post, ns = pre ++ .entered room :: post ∧ room.entry? = some a ∧
    SinceEntry s.sweeps pre ∧ ∀ m ∈ post, m.isDeed = false

/-- A room may be entered: the player has been moved since the last time, or is new and has entered
none yet. -/
def Expects (new : Prop) (ns : List Note) : Prop :=
  (new ∧ ∀ m ∈ ns, m.isEntry = false) ∨ SinceEntry s.moves ns

/-- What may be noted after other notes. -/
structure Allows (new : Prop) (start : Player) (ns : List Note) (n : Note) : Prop where
  entry : n.isEntry = true → s.Expects new ns
  status : (s.course start ns).isFinished = true →
    (s.afterNote (s.course start ns) n).status ≠ (s.course start ns).status →
      n.isReset = true ∨ ∃ a c p q, n = .applied a c p q ∧ s.SweptInto a ns

/-- Each note may come after those before it. -/
def Lawful (new : Prop) (start : Player) (ns : List Note) : Prop :=
  ∀ pre n post, ns = pre ++ n :: post → s.Allows new start pre n

section Notes

variable {s} {new : Prop} {start p : Player} {ns ms : List Note}

theorem afterNote_of_not_isDeed {n : Note} (h : n.isDeed = false) (p : Player) :
    s.afterNote p n = p := by
  unfold afterNote
  split
  · cases h
  · cases h
  · rfl

theorem course_concat (start : Player) (ns : List Note) (n : Note) :
    s.course start (ns ++ [n]) = s.afterNote (s.course start ns) n := by
  rw [course, List.foldl_append]
  rfl

/-- Reports leave the player as it is. -/
theorem course_append (start : Player) (ns : List Note) (hms : ∀ m ∈ ms, m.isDeed = false) :
    s.course start (ns ++ ms) = s.course start ns := by
  induction ms generalizing ns with
  | nil => rw [List.append_nil]
  | cons m ms ih =>
    obtain ⟨hm, hms⟩ := List.forall_mem_cons.1 hms
    rw [List.append_cons, ih _ hms, course_concat, afterNote_of_not_isDeed hm]

theorem Allows.of_not_isDeed {n : Note} (h : n.isDeed = false) : s.Allows new start ns n where
  entry := fun hentry => by rw [Note.isEntry_of_not_isDeed h] at hentry; cases hentry
  status := fun _ hne => absurd (congrArg Player.status (afterNote_of_not_isDeed h _)) hne

theorem lawful_nil : s.Lawful new start [] := InOrder.nil

theorem Lawful.concat (h : s.Lawful new start ns) {n : Note} (hn : s.Allows new start ns n) :
    s.Lawful new start (ns ++ [n]) :=
  InOrder.concat h hn

theorem Lawful.append (h : s.Lawful new start ns) (hms : ∀ m ∈ ms, m.isDeed = false) :
    s.Lawful new start (ns ++ ms) :=
  InOrder.append h fun m hm _ => .of_not_isDeed (hms m hm)

theorem Expects.append (h : s.Expects new ns) (hms : ∀ m ∈ ms, m.isEntry = false) :
    s.Expects new (ns ++ ms) := by
  refine h.imp (fun ⟨hnew, hns⟩ => ⟨hnew, fun m hm => ?_⟩) fun h => h.append hms
  exact (List.mem_append.1 hm).elim (hns m) (hms m)

theorem expects_of_swept (h : SinceEntry s.sweeps ns) : s.Expects new ns :=
  .inr (h.imp fun n hn => by simp [moves, hn])

end Notes

/-! ### The state of a turn between notes -/

/-- The player of a turn is the one that its notes tell of, and the notes are lawful; `past` are
those that have been passed on already. -/
structure IsAt (new : Prop) (start : Player) (past : List Note) (t : Turn) (p : Player) : Prop where
  player : t.player = some p
  course : s.course start (past ++ t.notes) = p
  lawful : s.Lawful new start (past ++ t.notes)

/-- While an arrival is pending, the player may enter a room, and a finished one was moved by an
effect. -/
structure MayEnter (new : Prop) (start : Player) (past : List Note) (t : Turn) (p : Player) : Prop
    extends s.IsAt new start past t p where
  expects : t.pending.arrival = true → s.Expects new (past ++ t.notes)
  swept : t.pending.arrival = true → p.isFinished = true →
    SinceEntry s.sweeps (past ++ t.notes)

/-- The player has entered a room, and an arrival is pending only if an effect has moved the player
since. -/
structure HasEntered (new : Prop) (start : Player) (past : List Note) (t : Turn) (p : Player) : Prop
    extends s.IsAt new start past t p where
  swept : t.pending.arrival = true → SinceEntry s.sweeps (past ++ t.notes)

section Acts

variable {s} {new : Prop} {start p : Player} {past ms : List Note} {t u : Turn}

namespace IsAt

/-- Reports are taken. -/
theorem append (h : s.IsAt new start past t p) (hplayer : u.player = t.player)
    (hnotes : u.notes = t.notes ++ ms) (hms : ∀ m ∈ ms, m.isDeed = false) :
    s.IsAt new start past u p where
  player := hplayer.trans h.player
  course := by rw [hnotes, ← List.append_assoc, course_append _ _ hms, h.course]
  lawful := by rw [hnotes, ← List.append_assoc]; exact h.lawful.append hms

/-- Something is done, and noted. -/
theorem take (h : s.IsAt new start past t p) {n : Note} (hplayer : u.player = some (s.afterNote p n))
    (hnotes : u.notes = t.notes ++ [n]) (hn : s.Allows new start (past ++ t.notes) n) :
    s.IsAt new start past u (s.afterNote p n) where
  player := hplayer
  course := by rw [hnotes, ← List.append_assoc, course_concat, h.course]
  lawful := by rw [hnotes, ← List.append_assoc]; exact h.lawful.concat hn

/-- The notes are passed on. -/
theorem passOn (h : s.IsAt new start past t p) :
    s.IsAt new start (past ++ t.notes) { t with notes := [] } p where
  player := h.player
  course := by rw [List.append_nil]; exact h.course
  lawful := by rw [List.append_nil]; exact h.lawful

end IsAt

theorem HasEntered.mayEnter (h : s.HasEntered new start past t p) : s.MayEnter new start past t p :=
  { h with
    expects := fun harrival => expects_of_swept (h.swept harrival)
    swept := fun harrival _ => h.swept harrival }

theorem HasEntered.append (h : s.HasEntered new start past t p) (hplayer : u.player = t.player)
    (hpending : u.pending = t.pending) (hnotes : u.notes = t.notes ++ ms)
    (hms : ∀ m ∈ ms, m.isDeed = false) : s.HasEntered new start past u p :=
  { h.toIsAt.append hplayer hnotes hms with
    swept := by
      intro harrival
      rw [hnotes, ← List.append_assoc]
      rw [hpending] at harrival
      exact (h.swept harrival).append fun m hm => Note.isEntry_of_not_isDeed (hms m hm) }

theorem HasEntered.reply (h : s.HasEntered new start past t p) (r : Value) :
    s.HasEntered new start past (t.reply r) p :=
  ⟨⟨h.player, h.course, h.lawful⟩, h.swept⟩

theorem HasEntered.say (h : s.HasEntered new start past t p) (key : String) :
    s.HasEntered new start past (t.say s.messages key).1 p := by
  rw [Turn.say_eq]
  exact ⟨⟨h.player, h.course, h.lawful⟩, h.swept⟩

theorem HasEntered.passOn (h : s.HasEntered new start past t p) :
    s.HasEntered new start (past ++ t.notes) { t with notes := [] } p :=
  { h.toIsAt.passOn with
    swept := by rw [List.append_nil]; exact h.swept }

theorem MayEnter.passOn (h : s.MayEnter new start past t p) :
    s.MayEnter new start (past ++ t.notes) { t with notes := [] } p :=
  { h.toIsAt.passOn with
    expects := by rw [List.append_nil]; exact h.expects
    swept := by rw [List.append_nil]; exact h.swept }

/-! ### The single acts -/

theorem isDeed_of_mem_notes {directions : Directions} {e : Effect} {n : Note}
    (h : n ∈ e.notes directions p) : n.isDeed = false := by
  simp only [Effect.notes, List.mem_append] at h
  rcases h with (h | h) | h
  · split at h <;> simp_all [Note.isDeed]
  · split at h <;> simp_all [Note.isDeed]
  · split at h <;> simp_all [Note.isDeed]

theorem isDeed_of_mem_readingNotes {line : String} {r : Reading} {n : Note}
    (h : n ∈ readingNotes line r) : n.isDeed = false := by
  cases r <;> simp_all [readingNotes, Note.isDeed]

theorem isDeed_of_mem_saveNotes (p : Player) (c : Change) (answer : Except StorageError Bool) :
    ∀ n ∈ Script.saveNotes p c answer, n.isDeed = false := by
  match answer with
  | .error e => simp [Script.saveNotes, Note.isDeed]
  | .ok false => simp [Script.saveNotes, Note.isDeed]
  | .ok true => simp [Script.saveNotes]

/-- A condition is applied: its effect is reported, and then noted as done. -/
theorem applyCondition_eq (hp : t.player = some p) (a : Attribute) (c : Condition) (q : Player) :
    ∃ ms, (t.applyCondition s.directions c).notes = t.notes ++ ms ∧
      (∀ m ∈ ms, m.isDeed = false) ∧
      (t.applyCondition s.directions c).player = some (s.afterNote p (.applied a c p q)) ∧
      (t.applyCondition s.directions c).pending.arrival =
        (t.pending.arrival || s.sweeps (.applied a c p q)) := by
  unfold Turn.applyCondition
  cases heffect : c.effect with
  | none =>
    exact ⟨[], by simp [Turn.reply], List.forall_mem_nil _,
      by simp [Turn.reply, afterNote, heffect, hp], by simp [Turn.reply, sweeps, heffect]⟩
  | some e =>
    have hreply : (t.reply (.text c.message)).player = some p := hp
    simp only [hreply]
    exact ⟨e.notes s.directions p, rfl, fun _ => isDeed_of_mem_notes, by simp [afterNote, heffect],
      by simp [sweeps, heffect, Effect.mark, Turn.reply]⟩

/-- An attribute is at work. -/
theorem IsAt.trigger (h : s.IsAt new start past t p) {a : Attribute}
    (hu : t.trigger s.directions p a = some u)
    (hswept : p.isFinished = true → s.SweptInto a (past ++ t.notes)) :
    ∃ q more, s.IsAt new start past u q ∧ u.notes = t.notes ++ more ∧
      (∀ m ∈ more, m.isEntry = false) ∧
      (u.pending.arrival = true →
        t.pending.arrival = true ∨ SinceEntry s.sweeps (past ++ u.notes)) := by
  unfold Turn.trigger at hu
  obtain ⟨c, -, hu⟩ := Option.map_eq_some_iff.1 hu
  obtain ⟨ms, hnotes, hms, hplayer, harrival⟩ :=
    applyCondition_eq (s := s) h.player a c ((t.applyCondition s.directions c).player.getD p)
  obtain ⟨n, hn⟩ : ∃ n, Note.applied a c p ((t.applyCondition s.directions c).player.getD p) = n :=
    ⟨_, rfl⟩
  dsimp only at hu
  rw [hn] at hplayer harrival hu
  obtain rfl := hu
  have hallows : s.Allows new start (past ++ (t.notes ++ ms)) n := by
    refine ⟨fun hentry => ?_, fun hfinished _ => .inr ⟨a, c, p, _, hn.symm, ?_⟩⟩
    · subst hn
      cases hentry
    · -- the reports in between do not matter
      rw [← List.append_assoc, course_append _ _ hms, h.course] at hfinished
      obtain ⟨pre, room, post, heq, hentry, hpre, hpost⟩ := hswept hfinished
      refine ⟨pre, room, post ++ ms, by rw [← List.append_assoc, heq]; simp, hentry, hpre, ?_⟩
      exact List.forall_mem_append.2 ⟨hpost, hms⟩
  have hreported : s.IsAt new start past { t with notes := t.notes ++ ms } p :=
    h.append rfl rfl hms
  have hnotes' : ((t.applyCondition s.directions c).note n).notes = t.notes ++ ms ++ [n] := by
    rw [Turn.note, hnotes]
  refine ⟨s.afterNote p n, ms ++ [n], hreported.take hplayer hnotes' hallows,
    by rw [hnotes', List.append_assoc], ?_, fun hpending => ?_⟩
  · refine List.forall_mem_append.2 ⟨fun m hm => Note.isEntry_of_not_isDeed (hms m hm), ?_⟩
    subst hn
    exact List.forall_mem_singleton.2 rfl
  · rw [hnotes', ← List.append_assoc]
    rw [show ((t.applyCondition s.directions c).note n).pending.arrival = _ from harrival,
      Bool.or_eq_true] at hpending
    exact hpending.imp_right fun hsweeps => SinceEntry.concat _ hsweeps

/-- A room is entered. -/
theorem IsAt.enterRoom (h : s.IsAt new start past t p) (harrival : t.pending.arrival = false)
    (hexpects : s.Expects new (past ++ t.notes))
    (hswept : p.isFinished = true → SinceEntry s.sweeps (past ++ t.notes)) (room : Room) :
    ∃ q, s.HasEntered new start past (s.enterRoom t room) q := by
  let described := (t.note (.entered room)).reply (.text room.description)
  have hallows : s.Allows new start (past ++ t.notes) (.entered room) :=
    ⟨fun _ => hexpects, fun _ hne => absurd rfl hne⟩
  have hdescribed : s.IsAt new start past described p := h.take h.player rfl hallows
  have hnone : described.pending.arrival = true → SinceEntry s.sweeps (past ++ described.notes) :=
    fun hpending => Bool.noConfusion (harrival.symm.trans hpending)
  simp only [Setting.enterRoom, h.player]
  cases hentry : room.entry? with
  | none => exact ⟨p, { hdescribed with swept := hnone }⟩
  | some a =>
    show ∃ q, s.HasEntered new start past ((described.trigger s.directions p a).getD described) q
    cases htrigger : described.trigger s.directions p a with
    | none => exact ⟨p, { hdescribed with swept := hnone }⟩
    | some u =>
      have hswept' : p.isFinished = true → s.SweptInto a (past ++ described.notes) := by
        intro hfinished
        refine ⟨past ++ t.notes, room, [], ?_, hentry, hswept hfinished, List.forall_mem_nil _⟩
        exact (List.append_assoc _ _ _).symm
      obtain ⟨q, more, hu, -, -, hpending⟩ := hdescribed.trigger htrigger hswept'
      refine ⟨q, { hu with swept := fun hagain => (hpending hagain).resolve_left ?_ }⟩
      exact Bool.eq_false_iff.1 harrival

/-- The player comes to the room that was looked up. -/
theorem MayEnter.arrive (h : s.MayEnter new start past t p) (room : Option Room) :
    ∃ q, s.HasEntered new start past (s.arrive t p room).1 q := by
  cases room with
  | none =>
    let missed := { t with room := some (.empty p.x p.y p.map) }.log
      (.noRoom p.username p.x p.y p.map)
    have hmissed : s.IsAt new start past missed p :=
      h.toIsAt.append rfl rfl (List.forall_mem_singleton.2 rfl)
    unfold Setting.arrive
    dsimp only
    split
    · rw [Turn.say_eq]
      exact ⟨p, ⟨hmissed.player, hmissed.course, hmissed.lawful⟩, fun h => nomatch h⟩
    · next harrival => exact ⟨p, { hmissed with swept := fun h => absurd h harrival }⟩
  | some room =>
    unfold Setting.arrive
    dsimp only
    split
    · next harrival =>
      have hcome : s.IsAt new start past
          { t with room := some room, pending := { t.pending with arrival := false } } p :=
        ⟨h.player, h.course, h.lawful⟩
      exact hcome.enterRoom rfl (h.expects harrival) (h.swept harrival) room
    · next harrival =>
      exact ⟨p, ⟨h.player, h.course, h.lawful⟩, fun h => absurd h harrival⟩

/-- The player is reset. -/
theorem HasEntered.reset (h : s.HasEntered new start past t p) (everything : Bool) :
    ∃ q, s.MayEnter new start past (s.reset t everything).1 q := by
  unfold Setting.reset
  rw [h.player]
  dsimp only
  cases hplace : s.origin.place with
  | error d => exact ⟨p, h.mayEnter⟩
  | ok place =>
    dsimp only
    rw [Turn.say_eq]
    let n : Note := .log (.playerReset p.username everything)
    have hafter : s.afterNote p n = p.resetTo place everything := by
      simp only [n, afterNote, hplace]
    have hallows : s.Allows new start (past ++ t.notes) n :=
      ⟨fun hentry => Bool.noConfusion hentry, fun _ _ => .inl rfl⟩
    let todo : Pending :=
      { items := t.pending.items || everything, position := true, status := true, arrival := true }
    let u : Turn := { t with
      player := some (p.resetTo place everything), pending := todo, notes := t.notes ++ [n] }
    have hreset : s.IsAt new start past u (s.afterNote p n) :=
      h.toIsAt.take (by rw [hafter]) rfl hallows
    refine ⟨s.afterNote p n, ⟨hreset.player, hreset.course, hreset.lawful⟩, fun _ => .inr ?_,
      fun _ hfinished => ?_⟩
    · show SinceEntry s.moves (past ++ (t.notes ++ [n]))
      rw [← List.append_assoc]
      exact SinceEntry.concat _ rfl
    · -- a reset leaves nobody finished
      rw [hafter] at hfinished
      cases hfinished

/-- Attributes are at work only for a player who plays on. -/
theorem isFinished_of_react {room : Room} {phrase : Option Phrase} {a : Attribute}
    (h : s.react p room phrase = .triggers a) : p.isFinished = false := by
  refine Bool.eq_false_iff.2 fun hfinished => ?_
  unfold react reactToReset at h
  rw [hfinished] at h
  split at h
  · cases h
  · split at h
    · split at h
      · cases h
      · split at h <;> cases h
    · cases h

/-- A reaction is carried out. -/
theorem HasEntered.perform (h : s.HasEntered new start past t p) (room : Room) {r : Reaction}
    (hr : ∀ a, r = .triggers a → p.isFinished = false) :
    ∃ q, s.MayEnter new start past (s.perform t p room r).1 q := by
  have hlog : ∀ {e : Event}, (Note.log e).isDeed = false →
      s.HasEntered new start past (t.log e) p :=
    fun he => h.append rfl rfl rfl (List.forall_mem_singleton.2 he)
  cases r with
  | ignored => exact ⟨p, (hlog rfl).mayEnter⟩
  | notUnderstood => exact ⟨p, (h.say _).mayEnter⟩
  | reset everything => exact h.reset everything
  | resetRefused => exact ⟨p, (h.say _).mayEnter⟩
  | triggers a =>
    simp only [Setting.perform]
    split
    · next u hu =>
      have hplays : p.isFinished = true → s.SweptInto a (past ++ t.notes) :=
        fun hfinished => Bool.noConfusion ((hr a rfl).symm.trans hfinished)
      obtain ⟨q, more, hat, hnotes, hmore, hpending⟩ := h.toIsAt.trigger hu hplays
      have hswept : u.pending.arrival = true → SinceEntry s.sweeps (past ++ u.notes) := by
        intro harrival
        refine (hpending harrival).elim (fun hbefore => ?_) id
        rw [hnotes, ← List.append_assoc]
        exact (h.swept hbefore).append hmore
      have hentered : s.HasEntered new start past u q := { hat with swept := hswept }
      exact ⟨q, hentered.mayEnter⟩
    · exact ⟨p, (h.say _).mayEnter⟩
  | look =>
    simp only [Setting.perform, Setting.look]
    split
    · exact ⟨p, (h.say _).mayEnter⟩
    · exact ⟨p, (h.reply _).mayEnter⟩
  | exits =>
    simp only [Setting.perform, Setting.listExits]
    split
    · exact ⟨p, (h.say _).mayEnter⟩
    · split
      · exact ⟨p, (h.reply _).mayEnter⟩
      · exact ⟨p, h.mayEnter⟩
  | unmatched verb object =>
    have hlogged : s.HasEntered new start past (t.log (.nothingTriggered verb object)) p := hlog rfl
    exact ⟨p, (hlogged.say _).mayEnter⟩

/-- The line is acted upon. -/
theorem HasEntered.dispatch (h : s.HasEntered new start past t p) :
    ∃ q, s.MayEnter new start past (s.dispatch t).1 q := by
  unfold Setting.dispatch
  split
  · next hnone => exact absurd (hnone.symm.trans h.player) (by simp)
  · next q hq =>
    obtain rfl : q = p := Option.some.inj (hq.symm.trans h.player)
    let reading := s.vocabulary.readLine t.line
    let read : Turn := { t with
      phrase := reading.phrase?
      notes := t.notes ++ [.acted t.line (roomOf t q)] ++ readingNotes t.line reading }
    have hread : s.HasEntered new start past read q := by
      refine h.append rfl rfl (List.append_assoc _ _ _) ?_
      exact List.forall_mem_append.2
        ⟨List.forall_mem_singleton.2 rfl, fun _ => isDeed_of_mem_readingNotes⟩
    exact hread.perform _ fun a ha => isFinished_of_react ha

end Acts

end Setting

end TextAdventure
