import TextAdventure.Language.Bundled
import TextAdventure.Proofs.Language.Reach
import TextAdventure.Proofs.Room.Choice
import TextAdventure.Proofs.Turn.Answer
import TextAdventure.Proofs.Turn.Piecewise
import TextAdventure.Store.Memory
import TextAdventure.World.Integrity

/-!
# What brings an attribute to work

The notes of a turn account for every attribute that is at work (`Setting.Accounts`): either a room is
entered whose entry attribute it is, or a line is acted upon that triggers it, and in between only the
log is written. Each act notes the cause together with what comes of it, and notes that account for
themselves can be put one behind the other (`Accounts.append`), so they account for a whole turn
(`accounts_holdsPiecewise`).

An entry attribute is meant for the first of the two ways. A command of its name is not triggered as a
command, but nothing keeps it from being taken where `enter` is the word for taking. Only there can it
be triggered by what is typed (`Setting.entry_typed_iff`), and there it is (`Setting.entry_typed`).
-/

namespace TextAdventure

/-! ### Entry attributes that are triggered -/

namespace Attribute

variable {a : Attribute} {goWord getWord verb object : String}

theorem isEntry_iff : a.isEntry = true ↔ a.kind = .command ∧ Text.fold a.name = entryName := by
  simp [isEntry]

/-- A command that is triggered is one for entry only if it is taken, by the name for those. -/
theorem isEntry_iff_of_isTriggeredBy (h : a.isTriggeredBy goWord getWord verb object = true) :
    a.isEntry = true ↔
      a.kind = .command ∧ Text.fold getWord = entryName ∧ Text.fold verb = entryName := by
  rw [isEntry_iff]
  refine and_congr_right fun hcommand => ?_
  rcases isTriggeredBy_iff.1 h with ⟨-, hexit, -⟩ | ⟨hverb, hname, -⟩ | ⟨-, hget, hentry, hname⟩
  · simp [hcommand] at hexit
  · rw [hname, hverb, and_self]
  · refine ⟨fun h => absurd h hentry, fun ⟨_, hverb⟩ => ?_⟩
    exact absurd (hname.trans hverb) hentry

/-- Some entry attribute is triggered by some words exactly if its name is the word for taking. -/
theorem exists_triggered?_isEntry_iff :
    (∃ attributes verb object a, triggered? attributes goWord getWord verb object = some a ∧
      a.isEntry = true) ↔ Text.fold getWord = entryName := by
  constructor
  · rintro ⟨attributes, verb, object, a, htriggered, hentry⟩
    obtain ⟨ha, -⟩ := triggered?_eq_some_iff.1 htriggered
    exact ((isEntry_iff_of_isTriggeredBy ha).1 hentry).2.1
  · intro hget
    let a : Attribute := ⟨.command, getWord, none, [], [⟨[], "", none⟩]⟩
    have htaken : a.isTriggeredBy goWord getWord getWord "" = true :=
      isTriggeredBy_iff.2 (.inr (.inl ⟨rfl, rfl, rfl⟩))
    exact ⟨[a], getWord, "", a, triggered?_singleton.2 htaken, isEntry_iff.2 ⟨rfl, hget⟩⟩

end Attribute

theorem Room.isEntry_of_entry? {r : Room} {a : Attribute} (h : r.entry? = some a) :
    a.isEntry = true := by
  simpa using List.find?_some h

theorem fold_entryName : Text.fold entryName = entryName := by
  decide +kernel

namespace Setting

variable {s : Setting}

/-- The verb of a line that triggers an entry attribute. -/
theorem Triggers.entry {line : String} {room : Room} {a : Attribute}
    (h : s.Triggers line room a) (hentry : a.isEntry = true) :
    Text.fold (s.vocabulary.wordFor .get) = entryName ∧ ∃ verb, s.vocabulary.Reaches verb ∧
      Text.fold verb = entryName ∧ verb ≠ s.vocabulary.wordFor .reset := by
  obtain ⟨q, hq, hreset, htriggered⟩ := h
  obtain ⟨ha, -⟩ := Attribute.triggered?_eq_some_iff.1 htriggered
  obtain ⟨-, hget, hverb⟩ := (Attribute.isEntry_iff_of_isTriggeredBy ha).1 hentry
  exact ⟨hget, q.verb, Vocabulary.exists_verb_iff.1 ⟨line, q, hq, rfl⟩, hverb, hreset⟩

/-- The entry attribute of some room is triggered by some line exactly if its name is the word for
taking, and can be typed as a verb other than the word for a reset. -/
theorem exists_react_entry_iff :
    (∃ line p room a, room.entry? = some a ∧
      s.react p room (s.vocabulary.parse? line) = .triggers a) ↔
      Text.fold (s.vocabulary.wordFor .get) = entryName ∧ ∃ verb, s.vocabulary.Reaches verb ∧
        Text.fold verb = entryName ∧ verb ≠ s.vocabulary.wordFor .reset := by
  constructor
  · rintro ⟨line, p, room, a, hentry, hreact⟩
    exact (react_eq_triggers_iff.1 hreact).2.entry (Room.isEntry_of_entry? hentry)
  · rintro ⟨hget, verb, hreaches, hverb, hreset⟩
    obtain ⟨line, q, hq, rfl⟩ := Vocabulary.exists_verb_iff.2 hreaches
    -- whatever object the line has, a room can have that very thing to be taken
    let a : Attribute := ⟨.command, entryName, some q.object, [], [⟨[], "", none⟩]⟩
    let room : Room := { Room.empty 0 0 defaultMap with attributes := [a] }
    have hentry : a.isEntry = true := Attribute.isEntry_iff.2 ⟨rfl, fold_entryName⟩
    have htaken : a.isTriggeredBy (s.vocabulary.wordFor .go) (s.vocabulary.wordFor .get) q.verb
        q.object = true :=
      Attribute.isTriggeredBy_iff.2
        (.inr (.inl ⟨hverb.trans hget.symm, fold_entryName.trans hget.symm, rfl⟩))
    refine ⟨line, .atPosition "" defaultMap 0 0, room, a, by simp [Room.entry?, room, hentry], ?_⟩
    exact react_eq_triggers_iff.2 ⟨rfl, q, hq, hreset, Attribute.triggered?_singleton.2 htaken⟩

end Setting

/-! ### Notes that account for what is applied -/

namespace Note

/-- An entry in the log. -/
def isLog : Note → Bool
  | .log _ => true
  | _ => false

/-- A condition of an attribute is applied. -/
def isApplied : Note → Bool
  | .applied .. => true
  | _ => false

theorem isApplied_of_isLog {n : Note} (h : n.isLog = true) : n.isApplied = false := by
  cases n <;> first | rfl | cases h

theorem isApplied_of_not_isDeed {n : Note} (h : n.isDeed = false) : n.isApplied = false := by
  cases n <;> first | rfl | cases h

end Note

/-- Notes that are in order stay so behind others, if what may come after some notes may also come
after more. -/
theorem InOrder.join {May : List Note → Note → Prop}
    (hmay : ∀ ns pre n, May pre n → May (ns ++ pre) n) {ns ms : List Note} (h : InOrder May ns)
    (hms : InOrder May ms) : InOrder May (ns ++ ms) := by
  induction ms using List.reverseRecOn with
  | nil => rwa [List.append_nil]
  | append_singleton ms m ih =>
    rw [← List.append_assoc]
    exact (ih hms.of_append).concat (hmay _ _ _ (hms ms m [] rfl))

namespace Setting

variable (s : Setting)

/-- What brings an attribute to work. -/
inductive Brings (a : Attribute) : Note → Prop
  /-- A room is entered whose entry attribute it is. -/
  | entry {room : Room} (h : room.entry? = some a) : Brings a (.entered room)
  /-- A line is acted upon in a room where it triggers the attribute. -/
  | line {line : String} {room : Room} (h : s.Triggers line room a) : Brings a (.acted line room)

/-- If a note tells that an attribute is at work, something has brought it to work, and since then
only the log was written. -/
def IsBrought (pre : List Note) (n : Note) : Prop :=
  ∀ a c p q, n = .applied a c p q →
    ∃ before cause logs, pre = before ++ cause :: logs ∧ s.Brings a cause ∧
      ∀ m ∈ logs, m.isLog = true

/-- The notes tell of everything that is at work what has brought it to work. -/
def Accounts (ns : List Note) : Prop := InOrder s.IsBrought ns

variable {s} {ns ms logs : List Note} {t u : Turn} {p : Player} {a : Attribute}

theorem isBrought_of_not_isApplied {n : Note} (h : n.isApplied = false) (pre : List Note) :
    s.IsBrought pre n := by
  rintro a c p q rfl
  cases h

namespace Accounts

/-- Notes that account for themselves can be put one behind the other. -/
theorem append (h : s.Accounts ns) (hms : s.Accounts ms) : s.Accounts (ns ++ ms) := by
  refine InOrder.join (fun ns pre n hn a c p q heq => ?_) h hms
  obtain ⟨before, cause, logs, rfl, hcause, hlogs⟩ := hn a c p q heq
  exact ⟨ns ++ before, cause, logs, (List.append_assoc _ _ _).symm, hcause, hlogs⟩

/-- There is nothing to account for where nothing is at work. -/
theorem of_not_isApplied (h : ∀ n ∈ ns, n.isApplied = false) : s.Accounts ns :=
  InOrder.nil.append fun n hn => isBrought_of_not_isApplied (h n hn)

theorem of_not_isDeed (h : ∀ n ∈ ns, n.isDeed = false) : s.Accounts ns :=
  of_not_isApplied fun n hn => Note.isApplied_of_not_isDeed (h n hn)

/-- Something is brought to work, and the log is written. -/
theorem of_cause {cause : Note} (hcause : s.Brings a cause) (hlogs : ∀ m ∈ logs, m.isLog = true)
    (c : Condition) (p q : Player) : s.Accounts (cause :: logs ++ [.applied a c p q]) := by
  have hquiet : cause.isApplied = false := by cases hcause <;> rfl
  have hbefore : s.Accounts (cause :: logs) := of_not_isApplied
    (List.forall_mem_cons.2 ⟨hquiet, fun m hm => Note.isApplied_of_isLog (hlogs m hm)⟩)
  refine hbefore.concat ?_
  rintro a' c' p' q' heq
  obtain ⟨rfl, -⟩ := Note.applied.inj heq
  exact ⟨[], cause, logs, rfl, hcause, hlogs⟩

end Accounts

/-! ### The single acts -/

theorem isLog_of_mem_notes {directions : Directions} {e : Effect} {n : Note}
    (h : n ∈ e.notes directions p) : n.isLog = true := by
  simp only [Effect.notes, List.mem_append] at h
  rcases h with (h | h) | h
  · split at h <;> simp_all [Note.isLog]
  · split at h <;> simp_all [Note.isLog]
  · split at h <;> simp_all [Note.isLog]

theorem isLog_of_mem_readingNotes {line : String} {r : Reading} {n : Note}
    (h : n ∈ readingNotes line r) : n.isLog = true := by
  cases r <;> simp_all [readingNotes, Note.isLog]

/-- An attribute is at work: its effect is written into the log, and then noted. -/
theorem trigger_notes (hu : t.trigger s.directions p a = some u) :
    ∃ logs c q, u.notes = t.notes ++ logs ++ [.applied a c p q] ∧ ∀ m ∈ logs, m.isLog = true := by
  unfold Turn.trigger at hu
  obtain ⟨c, -, rfl⟩ := Option.map_eq_some_iff.1 hu
  suffices hlogs : ∃ logs, (t.applyCondition s.directions c).notes = t.notes ++ logs ∧
      ∀ m ∈ logs, m.isLog = true by
    obtain ⟨logs, hnotes, hlogs⟩ := hlogs
    exact ⟨logs, c, _, by rw [← hnotes]; rfl, hlogs⟩
  unfold Turn.applyCondition
  dsimp only
  split
  · exact ⟨_, rfl, fun _ => isLog_of_mem_notes⟩
  · exact ⟨[], (List.append_nil _).symm, List.forall_mem_nil _⟩

/-- What a reaction notes. -/
theorem perform_notes (s : Setting) (t : Turn) (p : Player) (room : Room) (r : Reaction) :
    ∃ logs, (∀ m ∈ logs, m.isLog = true) ∧
      ((s.perform t p room r).1.notes = t.notes ++ logs ∨
        ∃ a c q, r = .triggers a ∧
          (s.perform t p room r).1.notes = t.notes ++ logs ++ [.applied a c p q]) := by
  have hsay : ∀ key, (t.say s.messages key).1.notes = t.notes ++ [] := fun key => by
    rw [Turn.say_eq, List.append_nil]
  have hnone := List.forall_mem_nil fun m : Note => m.isLog = true
  have hlog : ∀ e : Event, ∀ m ∈ [Note.log e], m.isLog = true :=
    fun _ => List.forall_mem_singleton.2 rfl
  cases r with
  | ignored => exact ⟨_, hlog _, .inl rfl⟩
  | notUnderstood => exact ⟨[], hnone, .inl (hsay _)⟩
  | reset everything =>
    simp only [perform, reset]
    split
    · exact ⟨[], hnone, .inl (List.append_nil _).symm⟩
    · split
      · exact ⟨[], hnone, .inl (List.append_nil _).symm⟩
      · rw [Turn.say_eq]
        exact ⟨_, hlog _, .inl rfl⟩
  | resetRefused => exact ⟨[], hnone, .inl (hsay _)⟩
  | triggers a =>
    simp only [perform]
    split
    · next u hu =>
      obtain ⟨logs, c, q, hnotes, hlogs⟩ := trigger_notes hu
      exact ⟨logs, hlogs, .inr ⟨a, c, q, rfl, hnotes⟩⟩
    · exact ⟨[], hnone, .inl (hsay _)⟩
  | look =>
    simp only [perform, look]
    split
    · exact ⟨[], hnone, .inl (hsay _)⟩
    · exact ⟨[], hnone, .inl (List.append_nil _).symm⟩
  | exits =>
    simp only [perform, listExits]
    split
    · exact ⟨[], hnone, .inl (hsay _)⟩
    · split <;> exact ⟨[], hnone, .inl (List.append_nil _).symm⟩
  | unmatched verb object =>
    simp only [perform]
    rw [Turn.say_eq]
    exact ⟨_, hlog _, .inl rfl⟩

/-- Acting upon a line accounts for what it triggers. -/
theorem dispatch_accounts (ht : t.notes = []) : s.Accounts (s.dispatch t).1.notes := by
  unfold dispatch
  split
  · exact ht ▸ InOrder.nil
  · next p _ =>
    let reading := s.vocabulary.readLine t.line
    have hreading : ∀ m ∈ readingNotes t.line reading, m.isLog = true :=
      fun _ => isLog_of_mem_readingNotes
    obtain ⟨logs, hlogs, hnotes | ⟨a, c, q, hreact, hnotes⟩⟩ := s.perform_notes
      { t with
        phrase := reading.phrase?
        notes := t.notes ++ [.acted t.line (roomOf t p)] ++ readingNotes t.line reading }
      p (roomOf t p) (s.react p (roomOf t p) reading.phrase?)
    · rw [hnotes, ht]
      refine .of_not_isApplied (List.forall_mem_cons.2 ⟨rfl, fun m hm => ?_⟩)
      exact Note.isApplied_of_isLog (List.forall_mem_append.2 ⟨hreading, hlogs⟩ m hm)
    · rw [hnotes, ht]
      have htriggers : s.Triggers t.line (roomOf t p) a := (react_eq_triggers_iff.1 hreact).2
      exact .of_cause (.line htriggers) (List.forall_mem_append.2 ⟨hreading, hlogs⟩) c p q

/-- Entering a room accounts for its entry attribute. -/
theorem enterRoom_accounts (ht : t.notes = []) (room : Room) :
    s.Accounts (s.enterRoom t room).notes := by
  have hentered : s.Accounts (t.notes ++ [.entered room]) := by
    rw [ht]
    exact .of_not_isApplied (List.forall_mem_singleton.2 rfl)
  unfold enterRoom
  split
  · exact ht ▸ InOrder.nil
  · next p _ =>
    dsimp only
    split
    · exact hentered
    · next a hentry =>
      cases htrigger : ((t.note (.entered room)).reply (.text room.description)).trigger
          s.directions p a with
      | none => exact hentered
      | some u =>
        obtain ⟨logs, c, q, hnotes, hlogs⟩ := trigger_notes htrigger
        rw [Option.getD_some, hnotes]
        show s.Accounts (t.notes ++ [.entered room] ++ logs ++ [.applied a c p q])
        rw [ht]
        exact .of_cause (.entry hentry) hlogs c p q

theorem arrive_accounts (ht : t.notes = []) (p : Player) (room : Option Room) :
    s.Accounts (s.arrive t p room).1.notes := by
  cases room with
  | none =>
    have hmissed : s.Accounts (t.notes ++ [.log (.noRoom p.username p.x p.y p.map)]) := by
      rw [ht]
      exact .of_not_isApplied (List.forall_mem_singleton.2 rfl)
    unfold arrive
    dsimp only
    split
    · rw [Turn.say_eq]
      exact hmissed
    · exact hmissed
  | some room =>
    unfold arrive
    dsimp only
    split
    · exact enterRoom_accounts (by exact ht) room
    · exact ht ▸ InOrder.nil

/-- What brings an attribute to work can be told piece by piece. -/
theorem accounts_holdsPiecewise (s : Setting) : s.HoldsPiecewise fun ns _ => s.Accounts ns where
  nil := InOrder.nil
  report h hms := h.append (.of_not_isDeed hms)
  tell h _ _ := h
  drop h := h
  dispatch ht h := h.append (dispatch_accounts ht)
  arrive ht h p room := h.append (arrive_accounts ht p room)

/-! ### Entry attributes and what is typed -/

/-- Entry attributes can be triggered like commands exactly where `enter` is the word for taking: by
some words given to the choice of an attribute, and by some line, if the word can be typed and is not
taken for a reset. In a turn, whatever the store answers, an entry attribute is at work only because
the room is entered whose entry attribute it is, or else because it was triggered there by a line. -/
theorem entry_typed_iff (s : Setting) :
    (∀ goWord getWord, (∃ attributes verb object a,
        Attribute.triggered? attributes goWord getWord verb object = some a ∧ a.isEntry = true) ↔
      Text.fold getWord = entryName) ∧
    ((∃ line p room a, room.entry? = some a ∧
        s.react p room (s.vocabulary.parse? line) = .triggers a) ↔
      Text.fold (s.vocabulary.wordFor .get) = entryName ∧ ∃ verb, s.vocabulary.Reaches verb ∧
        Text.fold verb = entryName ∧ verb ≠ s.vocabulary.wordFor .reset) ∧
    ∀ line username map, (s.play (.start line username map)).Always
      (fun h _ => ∀ pre a c p q post, h.notes = pre ++ .applied a c p q :: post →
        a.isEntry = true → ∃ before cause logs, pre = before ++ cause :: logs ∧
          (∀ m ∈ logs, m.isLog = true) ∧
          ((∃ room, cause = .entered room ∧ room.entry? = some a) ∨
            Text.fold (s.vocabulary.wordFor .get) = entryName ∧
              ∃ typed room, cause = .acted typed room ∧ s.Triggers typed room a)) [] := by
  refine ⟨fun _ _ => Attribute.exists_triggered?_isEntry_iff, exists_react_entry_iff, ?_⟩
  intro line username map
  refine (play_holdsPiecewise s.accounts_holdsPiecewise line username map).imp ?_
  rintro h x ⟨haccounts, -⟩ pre a c p q post hnotes hentry
  obtain ⟨before, cause, logs, hpre, hcause, hlogs⟩ := haccounts pre _ post hnotes a c p q rfl
  refine ⟨before, cause, logs, hpre, hlogs, ?_⟩
  cases hcause with
  | entry hroom => exact .inl ⟨_, rfl, hroom⟩
  | line htriggers => exact .inr ⟨(htriggers.entry hentry).1, _, _, rfl, htriggers⟩

/-- No line triggers an entry attribute in German. -/
theorem entry_typed_iff_german :
    ¬∃ line p room a, room.entry? = some a ∧
      react ⟨Bundled.german, Bundled.germanMessages, [0, 0]⟩ p room
        (Bundled.german.parse? line) = .triggers a := by
  have hget : Text.fold (Bundled.german.wordFor .get) ≠ entryName := by
    decide +kernel
  exact fun h => hget ((entry_typed_iff ⟨Bundled.german, Bundled.germanMessages, [0, 0]⟩).2.1.1 h).1

/-- A language in which things are taken by entering them, as into a list. -/
def listing : Vocabulary :=
  { Bundled.english with
    commands :=
      [("go", "go"), ("get", "enter"), ("reset", "reset"), ("look", "look"), ("exits", "exits")] }

/-- What happens to those who come on deck. -/
def wave : Attribute :=
  ⟨.command, "enter", some "deck", [], [⟨[], "A wave soaks you.", none⟩]⟩

/-- A room that is wet to enter. -/
def deck : Room :=
  { Room.empty 0 0 defaultMap with
    name := "deck"
    description := "A deck."
    attributes := [wave] }

/-- Nothing is reported of the language and of the deck. Ann is soaked as she comes on deck, and once
more because she types `enter deck`. -/
theorem entry_typed :
    let world : World := ⟨defaultMap, (0, 0), [deck]⟩
    let s : Setting := ⟨listing, Bundled.englishMessages, [0, 0]⟩
    let st := Store.ofCollections [(roomCollection, [deck.toRecord])]
    listing.faults = [] ∧ world.faults listing = [] ∧ world.warnings = [] ∧
      deck.entry? = some wave ∧
      Attribute.triggered? deck.attributes (listing.wordFor .go) (listing.wordFor .get) "enter"
        "deck" = some wave ∧
      s.react (Player.atPosition "ann" defaultMap 0 0) deck (listing.parse? "enter deck") =
        .triggers wave ∧
      ((s.play (.start "enter deck" "ann" defaultMap)).run Store.backend st).1.1.replies =
        [.text "A deck.", .text "A wave soaks you.", .text "A wave soaks you."] := by
  decide +kernel

end Setting

end TextAdventure
