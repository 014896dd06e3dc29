import TextAdventure.Language.Bundled
import TextAdventure.Proofs.Room.Choice
import TextAdventure.World.Integrity

/-!
# Attributes that never get their turn

Of two attributes that a command could trigger the one declared first is chosen, so one can be
silenced by another (`Attribute.Silences`). The check of a world warns of attributes that repeat the
signature of an earlier one: its kind, its name and its item. The choice has another notion of what
is the same. It looks at the item of what is taken and of nothing else, and at the further names of
exits. So a room without warnings can have silenced attributes, which `Room.silences_iff` tells
exactly: commands other than the one for taking that differ in their items only, and exits whose
names are all names of an exit before them. What is taken is never silenced, and neither is anything
in a room in which nothing else bears an item.
-/

namespace TextAdventure

namespace Attribute

/-- An attribute `b` is silenced by another one `a`: if it were alone it could be triggered, but
whatever triggers it triggers the other one, too. -/
structure Silences (goWord getWord : String) (a b : Attribute) : Prop where
  triggered : ∃ verb object, triggered? [b] goWord getWord verb object = some b
  covered : ∀ verb object, triggered? [b] goWord getWord verb object = some b →
    triggered? [a] goWord getWord verb object = some a

variable {a b : Attribute} {goWord getWord : String}

/-- An attribute is looked for regardless of case. -/
theorem isTriggeredBy_congr {verb verb' object object' : String}
    (hverb : Text.fold verb = Text.fold verb') (hobject : Text.fold object = Text.fold object') :
    a.isTriggeredBy goWord getWord verb object = a.isTriggeredBy goWord getWord verb' object' := by
  simp only [isTriggeredBy, hverb, hobject]

/-! ### Two commands of one name -/

section Commands

variable (ha : a.kind = .command) (hb : b.kind = .command)
  (hname : Text.fold a.name = Text.fold b.name)
include ha hb hname

/-- What is taken is silenced by what is taken under the same name. -/
theorem silences_taking_iff (hget : Text.fold b.name = Text.fold getWord) :
    Silences goWord getWord a b ↔
      Text.fold (a.item.getD "") = Text.fold (b.item.getD "") := by
  have hget' : Text.fold a.name = Text.fold getWord := hname.trans hget
  constructor
  · intro h
    have hitem := h.covered getWord (b.item.getD "") (by
      simp [triggered?_singleton, isTriggeredBy_iff, hget])
    simpa [triggered?_singleton, isTriggeredBy_iff, ha, hget'] using hitem
  · intro hitem
    refine ⟨⟨getWord, b.item.getD "", ?_⟩, fun verb object h => ?_⟩
    · simp [triggered?_singleton, isTriggeredBy_iff, hget]
    · simpa [triggered?_singleton, isTriggeredBy_iff, ha, hb, hget, hget', hitem] using h

/-- Any other command is silenced whatever the items are, unless it cannot be triggered at all. -/
theorem silences_command_iff (hget : Text.fold b.name ≠ Text.fold getWord) :
    Silences goWord getWord a b ↔ Text.fold b.name ≠ entryName := by
  constructor
  · rintro ⟨⟨verb, object, h⟩, -⟩
    have htriggers : Text.fold b.name ≠ entryName ∧ Text.fold b.name = Text.fold verb := by
      simpa [triggered?_singleton, isTriggeredBy_iff, hb, hget] using h
    exact htriggers.1
  · intro hentry
    refine ⟨⟨b.name, "", ?_⟩, fun verb object h => ?_⟩
    · simp [triggered?_singleton, isTriggeredBy_iff, hb, hget, hentry]
    · simpa [triggered?_singleton, isTriggeredBy_iff, ha, hb, hname, hget] using h

end Commands

/-! ### Two exits of one name -/

/-- An exit is silenced by what goes wherever it goes, and takes what it takes. -/
theorem silences_exit_iff (hb : b.kind = .exit) :
    Silences goWord getWord a b ↔
      (∀ n ∈ b.name :: b.aliases, a.isTriggeredBy goWord getWord goWord n = true) ∧
        (Text.fold b.name = Text.fold getWord →
          a.isTriggeredBy goWord getWord getWord (b.item.getD "") = true) := by
  constructor
  · intro h
    -- going to a name of `b` and taking its item both trigger `b`, so they are covered
    refine ⟨fun n hn => ?_, fun hget => ?_⟩
    · have hgo : b.isTriggeredBy goWord getWord goWord n = true :=
        isTriggeredBy_iff.2 (.inl ⟨rfl, hb, answersTo_iff.2 ⟨n, hn, rfl⟩⟩)
      exact triggered?_singleton.1 (h.covered _ _ (triggered?_singleton.2 hgo))
    · have htake : b.isTriggeredBy goWord getWord getWord (b.item.getD "") = true :=
        isTriggeredBy_iff.2 (.inr (.inl ⟨rfl, hget, rfl⟩))
      exact triggered?_singleton.1 (h.covered _ _ (triggered?_singleton.2 htake))
  · rintro ⟨hgo, htake⟩
    refine ⟨⟨goWord, b.name, ?_⟩, fun verb object h => ?_⟩
    · rw [triggered?_singleton, isTriggeredBy_iff]
      exact .inl ⟨rfl, hb, answersTo_iff.2 ⟨b.name, List.mem_cons_self, rfl⟩⟩
    · rw [triggered?_singleton, isTriggeredBy_iff] at h
      rw [triggered?_singleton]
      rcases h with ⟨hverb, -, hanswers⟩ | ⟨hverb, hget, hitem⟩ | ⟨hcommand, -⟩
      · obtain ⟨n, hn, hobject⟩ := answersTo_iff.1 hanswers
        rw [isTriggeredBy_congr hverb hobject.symm]
        exact hgo n hn
      · rw [isTriggeredBy_congr hverb hitem.symm]
        exact htake hget
      · simp [hb] at hcommand

end Attribute

/-! ### What is warned of -/

/-- The attributes that repeat a signature, of one list before another: there is none if and only if
all signatures are different. -/
theorem repeated_eq_nil_iff {earlier attributes : List Attribute} :
    repeated earlier attributes = [] ↔
      (∀ o ∈ earlier, ∀ a ∈ attributes, o.signature ≠ a.signature) ∧
        attributes.Pairwise fun a b => a.signature ≠ b.signature := by
  -- each attribute joins the earlier ones of those behind it
  induction attributes generalizing earlier with
  | nil => simp [repeated]
  | cons a rest ih =>
    have hfirst : (if earlier.any fun o => o.signature == a.signature then [a] else []) = [] ↔
        ∀ o ∈ earlier, o.signature ≠ a.signature := by
      simp
    rw [repeated, List.append_eq_nil_iff, hfirst, ih, List.pairwise_cons]
    simp only [List.mem_append, List.mem_cons, List.not_mem_nil, or_false]
    constructor
    · rintro ⟨ha, hrest, hpairs⟩
      refine ⟨?_, fun b hb => hrest a (.inr rfl) b hb, hpairs⟩
      rintro o ho b (rfl | hb)
      · exact ha o ho
      · exact hrest o (.inl ho) b hb
    · rintro ⟨hearlier, ha, hpairs⟩
      refine ⟨fun o ho => hearlier o ho a (.inl rfl), ?_, hpairs⟩
      rintro o (ho | rfl) b hb
      · exact hearlier o ho b (.inr hb)
      · exact ha b hb

namespace Room

/-- The warnings about one room. -/
def warnings (r : Room) : List Shadowing :=
  (repeated [] r.attributes).map fun a => ⟨r.name, a.kind, a.name⟩

variable {r : Room} {a b : Attribute}

/-- In a room without warnings all signatures are different. -/
theorem signature_ne (h : r.warnings = []) (hab : [a, b].Sublist r.attributes) :
    a.signature ≠ b.signature := by
  have hpairs := (repeated_eq_nil_iff.1 (List.map_eq_nil_iff.1 h)).2
  simpa using hpairs.sublist hab

section Namesakes

variable (h : r.warnings = []) (hab : [a, b].Sublist r.attributes) (hkind : a.kind = b.kind)
  (hname : Text.fold a.name = Text.fold b.name)
include h hab hkind hname

/-- Attributes of one kind and one name differ in their items, if there is no warning of them. -/
theorem fold_item_ne : Text.fold (a.item.getD "") ≠ Text.fold (b.item.getD "") := fun hitem =>
  signature_ne h hab (by simp [Attribute.signature, hkind, hname, hitem])

theorem silences_command_iff (goWord getWord : String) (hb : b.kind = .command) :
    Attribute.Silences goWord getWord a b ↔
      Text.fold b.name ≠ Text.fold getWord ∧ Text.fold b.name ≠ entryName := by
  by_cases hget : Text.fold b.name = Text.fold getWord
  · simp [Attribute.silences_taking_iff (hkind.trans hb) hb hname hget, hget,
      fold_item_ne h hab hkind hname]
  · simp [Attribute.silences_command_iff (hkind.trans hb) hb hname hget, hget]

theorem silences_exit_iff (goWord getWord : String) (hb : b.kind = .exit) :
    Attribute.Silences goWord getWord a b ↔
      (∀ n ∈ b.name :: b.aliases, a.isTriggeredBy goWord getWord goWord n = true) ∧
        (Text.fold b.name = Text.fold getWord →
          Text.fold goWord = Text.fold getWord ∧ a.answersTo (b.item.getD "") = true) := by
  rw [Attribute.silences_exit_iff hb]
  refine and_congr_right fun _ => imp_congr_right fun _ => ?_
  simp [Attribute.isTriggeredBy_iff, hkind.trans hb, eq_comm (a := Text.fold getWord),
    fold_item_ne h hab hkind hname]

/-- Where items are for taking only, nothing is silenced. -/
theorem not_silences {goWord getWord : String}
    (hbare : ∀ c ∈ r.attributes, c.item.getD "" ≠ "" → Text.fold c.name = Text.fold getWord)
    (hwords : Text.fold goWord ≠ Text.fold getWord) :
    ¬Attribute.Silences goWord getWord a b := by
  -- one of the two bears an item, so both are about taking
  have hget : Text.fold b.name = Text.fold getWord := by
    by_cases ha : a.item.getD "" = ""
    · have hb : b.item.getD "" ≠ "" := fun hb =>
        fold_item_ne h hab hkind hname (by rw [ha, hb])
      exact hbare b (hab.subset (by simp)) hb
    · exact hname ▸ hbare a (hab.subset (by simp)) ha
  cases hb : b.kind with
  | command =>
    rw [silences_command_iff h hab hkind hname goWord getWord hb]
    exact fun hsilences => hsilences.1 hget
  | exit =>
    rw [silences_exit_iff h hab hkind hname goWord getWord hb]
    exact fun hsilences => hwords (hsilences.2 hget).1

end Namesakes

/-- Which attributes of a room without warnings are silenced by one of their kind and name that is
declared before them. Commands are, unless they are for taking or run on entry: their items do not
tell them apart. An exit is if it has no name of its own; one that can also be taken must be taken
by going. Nothing is silenced where items are for taking only. -/
theorem silences_iff (h : r.warnings = []) (hab : [a, b].Sublist r.attributes)
    (hkind : a.kind = b.kind) (hname : Text.fold a.name = Text.fold b.name)
    (goWord getWord : String) :
    (b.kind = .command → (Attribute.Silences goWord getWord a b ↔
      Text.fold b.name ≠ Text.fold getWord ∧ Text.fold b.name ≠ entryName)) ∧
    (b.kind = .exit → (Attribute.Silences goWord getWord a b ↔
      (∀ n ∈ b.name :: b.aliases, a.isTriggeredBy goWord getWord goWord n = true) ∧
        (Text.fold b.name = Text.fold getWord →
          Text.fold goWord = Text.fold getWord ∧ a.answersTo (b.item.getD "") = true))) ∧
    ((∀ c ∈ r.attributes, c.item.getD "" ≠ "" → Text.fold c.name = Text.fold getWord) →
      Text.fold goWord ≠ Text.fold getWord → ¬Attribute.Silences goWord getWord a b) :=
  ⟨silences_command_iff h hab hkind hname goWord getWord,
    silences_exit_iff h hab hkind hname goWord getWord, not_silences h hab hkind hname⟩

/-- A room in which two things can be taken. -/
def store : Room :=
  { empty 0 0 defaultMap with
    attributes :=
      [⟨.command, "get", some "key", [], [⟨[], "You take the key.", none⟩]⟩,
        ⟨.command, "Get", some "lamp", [], [⟨[], "You take the lamp.", none⟩]⟩] }

/-- The lamp can be taken although the key comes first. -/
theorem silences_iff_store : ∃ a b, store.attributes = [a, b] ∧
    ¬Attribute.Silences (Bundled.english.wordFor .go) (Bundled.english.wordFor .get) a b := by
  refine ⟨_, _, rfl, ?_⟩
  exact (silences_iff (r := store) (by decide +kernel) (List.Sublist.refl _) rfl
    (by decide +kernel) _ _).2.2 (by decide +kernel) (by decide +kernel)

end Room

namespace World

/-- The warnings about a world are those about its rooms. -/
theorem warnings_eq (w : World) : w.warnings = w.rooms.flatMap Room.warnings := rfl

/-- Something to be looked at. -/
def painting : Attribute :=
  ⟨.command, "look", some "painting", [], [⟨[], "A painting of a lion.", none⟩]⟩

/-- Something else to be looked at. -/
def statue : Attribute :=
  ⟨.command, "look", some "statue", [], [⟨[], "A statue of a lion.", none⟩]⟩

/-- A world with a room in which two things can be looked at. -/
def gallery : World where
  map := defaultMap
  origin := (0, 0)
  rooms :=
    [{ Room.empty 0 0 defaultMap with
        name := "gallery"
        description := "A gallery."
        attributes := [painting, statue] }]

/-- Nothing is reported of the gallery, but the statue is never seen: its item tells it from the
painting for the check only. -/
theorem silences_gallery :
    gallery.faults Bundled.english = [] ∧ gallery.warnings = [] ∧
      ∃ r ∈ gallery.rooms, ∃ a b, [a, b].Sublist r.attributes ∧ a.kind = b.kind ∧
        Text.fold a.name = Text.fold b.name ∧
        Attribute.Silences (Bundled.english.wordFor .go) (Bundled.english.wordFor .get) a b := by
  refine ⟨by decide +kernel, by decide +kernel, _, List.mem_singleton.2 rfl, painting, statue,
    List.Sublist.refl _, rfl, rfl, ?_⟩
  exact (Attribute.silences_command_iff (a := painting) (b := statue) rfl rfl rfl
    (by decide +kernel)).2 (by decide +kernel)

end World

end TextAdventure
