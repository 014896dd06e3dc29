import TextAdventure.Proofs.Language.Reach
import TextAdventure.Proofs.Language.Typable
import TextAdventure.Proofs.Turn.Answer
import TextAdventure.World.Integrity

/-!
# What typing brings about

Two questions about what a player can bring about by typing, and both have the answer that what is
authored can get in the way. All five commands of the game can be given if their words are reached
and differ (`Setting.commands_reached`); to have words is not enough. A way out can be typed by the
name under which it is listed if that name survives the reading of the line and no other attribute
is found before it (`Setting.passes_name_iff`); to be listed is not enough, in a world without
faults or warnings either.

Both are read off one fact: a word that can be typed, with a text behind it that joins no commands,
is to a living player as good as the phrase that it is read as (`Setting.react_append`).
-/

namespace TextAdventure

/-- The first attribute of a room that answers to going to an object is an exit of a name. -/
def Room.LeadsTo (r : Room) (goWord name object : String) : Prop :=
  ∃ before a after, r.attributes = before ++ a :: after ∧ a.kind = .exit ∧
    Text.fold a.name = Text.fold name ∧ a.answersTo object = true ∧
    ∀ b ∈ before, (b.kind = .exit → b.answersTo object = false) ∧
      (b.kind = .command → Text.fold b.name ≠ Text.fold goWord)

namespace Setting

variable {s : Setting} {p : Player} {room : Room} {a : Attribute} {t text : String}

/-- A line that begins with a word that can be typed, other than one for a reset, is looked for in
the room. -/
theorem react_append (ht : s.vocabulary.Admits t)
    (hverb : s.vocabulary.verbOf t ≠ s.vocabulary.wordFor .reset)
    (htext : s.vocabulary.IsSimple text) (halive : p.isFinished = false) :
    s.react p room (s.vocabulary.parse? (t ++ " " ++ text)) =
      s.reactInRoom room
        (s.vocabulary.phraseOf (t ++ " " ++ text) t (s.vocabulary.tokens text)) := by
  rw [ht.parse?_append_iff.2 ⟨htext, rfl⟩]
  simp [react, hverb, halive]

/-! ### The commands of the game -/

variable (s) in
/-- The attribute of a room that a command triggers. -/
def answering? (room : Room) (verb object : String) : Option Attribute :=
  Attribute.triggered? room.attributes (s.vocabulary.wordFor .go) (s.vocabulary.wordFor .get) verb
    object

variable (s) in
/-- Each command of the game can be given, by the same word wherever the player is. A reset begins
anew. Where the room does not answer the player looks around and is told the ways out. Where there
is a way out or something to be taken, a text that names it triggers it. -/
structure Obeys : Prop where
  reset : ∃ t, ∀ p room, s.react p room (s.vocabulary.parse? t) = .reset false
  look : ∃ t, ∀ p room, p.isFinished = false →
    s.answering? room (s.vocabulary.wordFor .look) "" = none →
    s.react p room (s.vocabulary.parse? t) = .look
  exits : ∃ t, ∀ p room, p.isFinished = false →
    s.answering? room (s.vocabulary.wordFor .exits) "" = none →
    s.react p room (s.vocabulary.parse? t) = .exits
  go : ∃ t, ∀ p room a text, p.isFinished = false → room.attributes = [a] → a.kind = .exit →
    s.vocabulary.IsSimple text → a.answersTo (s.vocabulary.objectOf text) = true →
    s.react p room (s.vocabulary.parse? (t ++ " " ++ text)) = .triggers a
  get : ∃ t, ∀ p room a text, p.isFinished = false → room.attributes = [a] →
    Text.fold a.name = Text.fold (s.vocabulary.wordFor .get) → s.vocabulary.IsSimple text →
    Text.fold (a.item.getD "") = Text.fold (s.vocabulary.objectOf text) →
    s.react p room (s.vocabulary.parse? (t ++ " " ++ text)) = .triggers a

/-- What a line for a command does that the room does not answer to. -/
theorem react_word (ht : s.vocabulary.Admits t)
    (hverb : s.vocabulary.verbOf t ≠ s.vocabulary.wordFor .reset) (halive : p.isFinished = false)
    (hroom : s.answering? room (s.vocabulary.verbOf t) "" = none) :
    s.react p room (s.vocabulary.parse? (t ++ " " ++ "")) =
      if s.vocabulary.verbOf t = s.vocabulary.wordFor .exits then .exits
      else if s.vocabulary.verbOf t = s.vocabulary.wordFor .look then .look
      else .unmatched (s.vocabulary.verbOf t) "" := by
  rw [react_append ht hverb Vocabulary.isSimple_empty halive, reactInRoom]
  unfold answering? at hroom
  simp only [Vocabulary.phraseOf_verb, Vocabulary.phraseOf_object, Vocabulary.objectOf_empty, hroom]

/-- What a line does that triggers the one attribute of a room. -/
theorem react_only (ht : s.vocabulary.Admits t)
    (hverb : s.vocabulary.verbOf t ≠ s.vocabulary.wordFor .reset)
    (htext : s.vocabulary.IsSimple text) (halive : p.isFinished = false)
    (hroom : room.attributes = [a])
    (htriggered : a.isTriggeredBy (s.vocabulary.wordFor .go) (s.vocabulary.wordFor .get)
      (s.vocabulary.verbOf t) (s.vocabulary.objectOf text) = true) :
    s.react p room (s.vocabulary.parse? (t ++ " " ++ text)) = .triggers a := by
  rw [react_append ht hverb htext halive, reactInRoom, hroom, Vocabulary.phraseOf_verb,
    Vocabulary.phraseOf_object, Attribute.triggered?_singleton.2 htriggered]

theorem obeys (hreached : ∀ b, s.vocabulary.Reaches (s.vocabulary.wordFor b))
    (hwords : (Builtin.all.map s.vocabulary.wordFor).Nodup) : s.Obeys := by
  -- two commands of one word would be one command: the first one that is tried
  have hne : ∀ b c, b ≠ c → s.vocabulary.wordFor b ≠ s.vocabulary.wordFor c := fun _ _ =>
    Vocabulary.wordFor_ne hwords
  have htyped : ∀ b, ∃ t, s.vocabulary.Admits t ∧ s.vocabulary.verbOf t = s.vocabulary.wordFor b :=
    fun b => Vocabulary.reaches_iff.1 (hreached b)
  refine
    { reset := ?_
      look := ?_
      exits := ?_
      go := ?_
      get := ?_ }
  · obtain ⟨t, ht, hverb⟩ := htyped .reset
    refine ⟨t ++ " " ++ "", fun p room => ?_⟩
    rw [react_of_reset (ht.parse?_append_iff.2 ⟨Vocabulary.isSimple_empty, rfl⟩) hverb,
      Vocabulary.phraseOf_object, Vocabulary.objectOf_empty]
    rfl
  · obtain ⟨t, ht, hverb⟩ := htyped .look
    -- a blank behind the word is no object
    refine ⟨t ++ " " ++ "", fun p room halive hroom => ?_⟩
    rw [react_word ht (hverb ▸ hne _ _ (by decide)) halive (hverb ▸ hroom), hverb,
      if_neg (hne _ _ (by decide)), if_pos rfl]
  · obtain ⟨t, ht, hverb⟩ := htyped .exits
    refine ⟨t ++ " " ++ "", fun p room halive hroom => ?_⟩
    rw [react_word ht (hverb ▸ hne _ _ (by decide)) halive (hverb ▸ hroom), hverb, if_pos rfl]
  · obtain ⟨t, ht, hverb⟩ := htyped .go
    refine ⟨t, fun p room a text halive hroom hexit htext hanswers => ?_⟩
    refine react_only ht (hverb ▸ hne _ _ (by decide)) htext halive hroom ?_
    exact Attribute.isTriggeredBy_iff.2 (.inl ⟨by rw [hverb], hexit, hanswers⟩)
  · obtain ⟨t, ht, hverb⟩ := htyped .get
    refine ⟨t, fun p room a text halive hroom hname htext hitem => ?_⟩
    refine react_only ht (hverb ▸ hne _ _ (by decide)) htext halive hroom ?_
    exact Attribute.isTriggeredBy_iff.2 (.inr (.inl ⟨by rw [hverb], hname, hitem⟩))

/-- The word for a command is the verb of a line exactly if it is reached, and if all five words are
reached and differ, all five commands can be given. -/
theorem commands_reached (s : Setting) :
    (∀ b, (∃ line q, s.vocabulary.parse? line = some q ∧ q.verb = s.vocabulary.wordFor b) ↔
      s.vocabulary.Reaches (s.vocabulary.wordFor b)) ∧
    ((∀ b, s.vocabulary.Reaches (s.vocabulary.wordFor b)) →
      (Builtin.all.map s.vocabulary.wordFor).Nodup → s.Obeys) :=
  ⟨fun _ => Vocabulary.exists_verb_iff, obeys⟩

theorem commands_reached_german : Obeys ⟨Bundled.german, Bundled.germanMessages, [0, 0]⟩ :=
  (commands_reached _).2 Vocabulary.isCoherent_german.reaches Vocabulary.isCoherent_german.distinct

/-- English with two words for a reset. -/
def startOver : Vocabulary :=
  { Bundled.english with
    commands :=
      [("go", "go"), ("get", "get"), ("reset", "start over"), ("look", "look"),
        ("exits", "exits")] }

/-- A verb is one word, so a command word of two words is lost without being reported. -/
theorem reset_unreachable :
    startOver.faults = [] ∧
      ¬∃ line q, startOver.parse? line = some q ∧ q.verb = startOver.wordFor .reset := by
  rw [Vocabulary.exists_verb_iff]
  decide +kernel

/-! ### The names of the ways out -/

variable (s p room) in
/-- A line takes a player through an exit of a name. -/
def Passes (line name : String) : Prop :=
  ∃ a, s.react p room (s.vocabulary.parse? line) = .triggers a ∧ a.kind = .exit ∧
    Text.fold a.name = Text.fold name

variable {name : String}

section Going

variable (hv : s.vocabulary.IsCoherent)
include hv

/-- Which attribute a text behind the word for going triggers. -/
theorem triggers_go_iff :
    s.Triggers (s.vocabulary.wordFor .go ++ " " ++ text) room a ↔
      s.vocabulary.IsSimple text ∧
        s.answering? room (s.vocabulary.wordFor .go) (s.vocabulary.objectOf text) = some a := by
  have hgo := hv.isCanonical_wordFor .go
  have hreset : s.vocabulary.wordFor .go ≠ s.vocabulary.wordFor .reset :=
    Vocabulary.wordFor_ne hv.distinct (by decide)
  unfold Triggers answering?
  constructor
  · rintro ⟨q, hq, -, htriggered⟩
    obtain ⟨htext, rfl⟩ := hgo.parse?_append_iff.1 hq
    rw [Vocabulary.phraseOf_verb, hgo.verbOf_eq] at htriggered
    exact ⟨htext, htriggered⟩
  · rintro ⟨htext, htriggered⟩
    refine ⟨_, hgo.parse?_append_iff.2 ⟨htext, rfl⟩, ?_, ?_⟩
    · rwa [Vocabulary.phraseOf_verb, hgo.verbOf_eq]
    · rwa [Vocabulary.phraseOf_verb, hgo.verbOf_eq]

variable (hentry : Text.fold (s.vocabulary.wordFor .go) ≠ entryName)
  (halive : p.isFinished = false)
include hentry halive

/-- A text behind the word for going leads through the first exit that answers to what is read of
it, if no command is in the way. -/
theorem passes_go_iff :
    s.Passes p room (s.vocabulary.wordFor .go ++ " " ++ text) name ↔
      s.vocabulary.IsSimple text ∧
        room.LeadsTo (s.vocabulary.wordFor .go) name (s.vocabulary.objectOf text) := by
  have hget := hv.fold_go_ne_fold_get
  unfold Passes Room.LeadsTo
  simp only [react_eq_triggers_iff, halive, true_and, triggers_go_iff hv, answering?,
    Attribute.triggered?_eq_some_iff, Attribute.isTriggeredBy_going_iff hget hentry,
    Attribute.isTriggeredBy_going_eq_false_iff hget hentry]
  constructor
  · rintro ⟨a, ⟨htext, ha, before, after, hsplit, hbefore⟩, hexit, hname⟩
    refine ⟨htext, before, a, after, hsplit, hexit, hname, ?_, hbefore⟩
    simpa [hexit] using ha
  · rintro ⟨htext, before, a, after, hsplit, hexit, hname, hanswers, hbefore⟩
    exact ⟨a, ⟨htext, .inl ⟨hexit, hanswers⟩, before, after, hsplit, hbefore⟩, hexit, hname⟩

/-- A name that is listed and can be typed leads out, unless it is a further name of another exit
or a command is named like the word for going. -/
theorem passes_listed (hlisted : name ∈ room.exits.map (·.name))
    (hname : s.vocabulary.Admits (Text.fold name))
    (hown : ∀ a ∈ room.exits, ∀ m ∈ a.aliases, Text.fold m = Text.fold name →
      Text.fold a.name = Text.fold name)
    (hcommands : ∀ a ∈ room.attributes, a.kind = .command →
      Text.fold a.name ≠ Text.fold (s.vocabulary.wordFor .go)) :
    s.Passes p room (s.vocabulary.wordFor .go ++ " " ++ name) name := by
  obtain ⟨e, he, rfl⟩ := List.mem_map.1 hlisted
  obtain ⟨heroom, hexit⟩ : e ∈ room.attributes ∧ e.kind = .exit := by
    simpa [Room.exits] using he
  -- the exit itself answers, so something is triggered
  have htriggered : (s.answering? room (s.vocabulary.wordFor .go)
      (s.vocabulary.objectOf e.name)).isSome := by
    rw [answering?, Attribute.triggered?, List.find?_isSome]
    refine ⟨e, heroom, (Attribute.isTriggeredBy_going_iff hv.fold_go_ne_fold_get hentry).2 ?_⟩
    exact .inl ⟨hexit, Attribute.answersTo_iff.2
      ⟨e.name, List.mem_cons_self, by rw [hname.objectOf_eq, Text.fold_fold]⟩⟩
  obtain ⟨a, ha⟩ := Option.isSome_iff_exists.1 htriggered
  have haroom : a ∈ room.attributes := List.mem_of_find?_eq_some ha
  refine ⟨a, react_eq_triggers_iff.2 ⟨halive, (triggers_go_iff hv).2 ⟨hname.isSimple, ha⟩⟩, ?_⟩
  rcases (Attribute.isTriggeredBy_going_iff hv.fold_go_ne_fold_get hentry).1
    (Attribute.triggered?_eq_some_iff.1 ha).1 with ⟨hexit', hanswers⟩ | ⟨hcommand, hgo⟩
  · rw [hname.objectOf_eq, Attribute.answersTo_fold] at hanswers
    refine ⟨hexit', ?_⟩
    obtain ⟨m, hm, hfold⟩ := Attribute.answersTo_iff.1 hanswers
    rcases List.mem_cons.1 hm with rfl | hm
    · exact hfold
    · exact hown a (by simpa [Room.exits] using ⟨haroom, hexit'⟩) m hm hfold
  · exact absurd hgo (hcommands a haroom hcommand)

end Going

/-- Which ways out can be typed by their names, in the bundled languages. The name must not join
commands, and the first attribute that going to what is read of it triggers must be an exit of that
name. So it is for a listed name whose folding is one word that stays as it is, if it is no further
name of an exit that is named otherwise and no command is named like the word for going. -/
theorem passes_name_iff (hs : s.vocabulary ∈ [Bundled.english, Bundled.german])
    (halive : p.isFinished = false) :
    (s.Passes p room (s.vocabulary.wordFor .go ++ " " ++ name) name ↔
      s.vocabulary.IsSimple name ∧
        room.LeadsTo (s.vocabulary.wordFor .go) name (s.vocabulary.objectOf name)) ∧
    (name ∈ room.exits.map (·.name) → s.vocabulary.Admits (Text.fold name) →
      (∀ a ∈ room.exits, ∀ m ∈ a.aliases, Text.fold m = Text.fold name →
        Text.fold a.name = Text.fold name) →
      (∀ a ∈ room.attributes, a.kind = .command →
        Text.fold a.name ≠ Text.fold (s.vocabulary.wordFor .go)) →
      s.Passes p room (s.vocabulary.wordFor .go ++ " " ++ name) name) := by
  have hv := Vocabulary.isCoherent_of_bundled hs
  have hentry : Text.fold (s.vocabulary.wordFor .go) ≠ entryName := by
    simp only [List.mem_cons, List.not_mem_nil, or_false] at hs
    rcases hs with hs | hs <;> rw [hs] <;> decide +kernel
  exact ⟨passes_go_iff hv hentry halive, passes_listed hv hentry halive⟩

/-- A way out that is wide enough. -/
def gate : Attribute := ⟨.exit, "Gate", none, ["north"], [⟨[], "You leave.", none⟩]⟩

theorem passes_name_iff_gate :
    Passes ⟨Bundled.english, Bundled.englishMessages, [0, 0]⟩ (.atPosition "ann" defaultMap 0 0)
      { Room.empty 0 0 defaultMap with attributes := [gate] }
      (Bundled.english.wordFor .go ++ " " ++ "Gate") "Gate" :=
  (passes_name_iff (by simp) rfl).2 (by decide) (by decide +kernel) (by decide +kernel)
    (by decide)

/-- A way out with a name of two words. -/
def narrowPath : Attribute := ⟨.exit, "narrow path", none, [], [⟨[], "You squeeze through.", none⟩]⟩

/-- A room that is left by it. -/
def gorge : Room :=
  { Room.empty 0 0 defaultMap with
    name := "gorge"
    description := "A gorge."
    attributes := [narrowPath] }

/-- Nothing is reported of the gorge, and its way out is listed, but it cannot be typed by its name:
what is read of it is joined by the separator. -/
theorem narrowPath_not_passed :
    World.faults ⟨defaultMap, (0, 0), [gorge]⟩ Bundled.english = [] ∧
      World.warnings ⟨defaultMap, (0, 0), [gorge]⟩ = [] ∧
      ∃ name ∈ gorge.exits.map (·.name),
        ¬Passes ⟨Bundled.english, Bundled.englishMessages, [0, 0]⟩
          (.atPosition "ann" defaultMap 0 0) gorge
          (Bundled.english.wordFor .go ++ " " ++ name) name := by
  refine ⟨by decide +kernel, by decide +kernel, narrowPath.name, by decide, ?_⟩
  have hunmatched : react ⟨Bundled.english, Bundled.englishMessages, [0, 0]⟩
      (.atPosition "ann" defaultMap 0 0) gorge
      (Bundled.english.parse? (Bundled.english.wordFor .go ++ " " ++ narrowPath.name)) =
        .unmatched "go" "narrow_path" := by
    decide +kernel
  rintro ⟨a, hreact, -⟩
  rw [hunmatched] at hreact
  cases hreact

end Setting

end TextAdventure
