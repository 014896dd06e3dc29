import Mathlib.Data.List.Nodup
import TextAdventure.Language.Bundled
import TextAdventure.Proofs.Language.Phrase

/-!
# Phrases are normal forms

The verb and the object of a phrase are words that can be typed again (`Vocabulary.Admits`):
written with a blank between them they are read as they are, with no alias to resolve and no
operator to drop (`Vocabulary.parse?_written`). This takes a vocabulary whose own words do not get
in the way of one another (`Vocabulary.IsCoherent`). The bundled languages have such vocabularies,
so their phrases are normal forms (`Vocabulary.parse?_verb_object`).

The point that takes an argument is the joining of several words to one object. The separator is
punctuation itself, but it stands inside the object and not at its ends, and what contains it is
neither fluff nor a linker.
-/

namespace TextAdventure

namespace Vocabulary

/-- A word that can be typed: it is folded, has no blank in it and no punctuation at its ends, and
is neither fluff nor a linker. -/
structure Admits (v : Vocabulary) (t : String) : Prop extends Text.IsWord t where
  notFluff : isAmong t v.fluff = false
  notLinker : isAmong t v.linkers = false

/-- A verb that is read as it is written. -/
structure IsCanonical (v : Vocabulary) (verb : String) : Prop extends v.Admits verb where
  notAlias : v.resolveAlias? verb = none
  spelled : v.spelling verb = verb

/-- The words of a vocabulary do not get in the way of one another: each command word is read as it
is written, the aliases are aliases of command words, and words joined by the separator are not
mistaken for fluff or a linker, since these lack a character of it. -/
structure IsCoherent (v : Vocabulary) : Prop where
  commands : ∀ c ∈ v.commands, v.IsCanonical c.2
  builtins : ∀ b ∈ Builtin.all, ∃ c ∈ v.commands, c.1 = b.key
  distinct : (Builtin.all.map v.wordFor).Nodup
  aliases : ∀ a ∈ v.aliases, ∃ c ∈ v.commands, c.1 = a.2
  folded : Text.fold v.separator = v.separator
  unbroken : ∀ c ∈ v.separator.toList, Text.isBlank c = false
  foreign : ∃ c ∈ v.separator.toList, ∀ w ∈ v.fluff ++ v.linkers, c ∉ (Text.fold w).toList

instance (v : Vocabulary) (t : String) : Decidable (v.Admits t) :=
  decidable_of_iff (Text.IsWord t ∧ isAmong t v.fluff = false ∧ isAmong t v.linkers = false)
    ⟨fun ⟨h, hfluff, hlinker⟩ => { h with notFluff := hfluff, notLinker := hlinker },
      fun h => ⟨h.toIsWord, h.notFluff, h.notLinker⟩⟩

instance (v : Vocabulary) (verb : String) : Decidable (v.IsCanonical verb) :=
  decidable_of_iff (v.Admits verb ∧ v.resolveAlias? verb = none ∧ v.spelling verb = verb)
    ⟨fun ⟨h, halias, hspelled⟩ => { h with notAlias := halias, spelled := hspelled },
      fun h => ⟨h.toAdmits, h.notAlias, h.spelled⟩⟩

instance (v : Vocabulary) : Decidable v.IsCoherent :=
  decidable_of_iff
    ((∀ c ∈ v.commands, v.IsCanonical c.2) ∧ (∀ b ∈ Builtin.all, ∃ c ∈ v.commands, c.1 = b.key) ∧
      (Builtin.all.map v.wordFor).Nodup ∧ (∀ a ∈ v.aliases, ∃ c ∈ v.commands, c.1 = a.2) ∧
      Text.fold v.separator = v.separator ∧
      (∀ c ∈ v.separator.toList, Text.isBlank c = false) ∧
      ∃ c ∈ v.separator.toList, ∀ w ∈ v.fluff ++ v.linkers, c ∉ (Text.fold w).toList)
    ⟨fun ⟨h₁, h₂, h₃, h₄, h₅, h₆, h₇⟩ => ⟨h₁, h₂, h₃, h₄, h₅, h₆, h₇⟩,
      fun ⟨h₁, h₂, h₃, h₄, h₅, h₆, h₇⟩ => ⟨h₁, h₂, h₃, h₄, h₅, h₆, h₇⟩⟩

theorem isCoherent_english : Bundled.english.IsCoherent := by decide +kernel

theorem isCoherent_german : Bundled.german.IsCoherent := by decide +kernel

variable {v : Vocabulary} {line verb object t : String} {p : Phrase}

/-! ### Writing a phrase -/

/-- A text that joins no commands. -/
def IsSimple (v : Vocabulary) (text : String) : Prop :=
  ∀ w ∈ v.tokens text, isAmong w v.linkers = false

instance (v : Vocabulary) (text : String) : Decidable (v.IsSimple text) :=
  inferInstanceAs (Decidable (∀ w ∈ v.tokens text, isAmong w v.linkers = false))

theorem isSimple_empty : v.IsSimple "" := fun _ hw => absurd hw List.not_mem_nil

theorem Admits.tokens_eq (h : v.Admits t) : v.tokens t = [t] :=
  tokens_of_isWord h.toIsWord h.notFluff

/-- How a word that can be typed and the text behind it are read. -/
theorem Admits.parse?_append_iff {text : String} (h : v.Admits t) :
    v.parse? (t ++ " " ++ text) = some p ↔
      v.IsSimple text ∧ p = v.phraseOf (t ++ " " ++ text) t (v.tokens text) := by
  have htokens : v.tokens (t ++ " " ++ text) = t :: v.tokens text := by
    rw [tokens_gap (by decide) (.inl (by decide)), h.tokens_eq]
    rfl
  rw [parse?_eq_some_iff, htokens]
  constructor
  · rintro ⟨first, rest, hcons, hlinkers, rfl⟩
    obtain ⟨rfl, rfl⟩ := List.cons.inj hcons
    exact ⟨fun w hw => hlinkers w (List.mem_cons_of_mem _ hw), rfl⟩
  · rintro ⟨htext, rfl⟩
    exact ⟨t, v.tokens text, rfl, List.forall_mem_cons.2 ⟨h.notLinker, htext⟩, rfl⟩

/-- What is written as a verb and an object is read as these. -/
theorem parse?_written (hverb : v.IsCanonical verb) (hobject : object = "" ∨ v.Admits object) :
    v.parse? (verb ++ " " ++ object) =
      some ⟨verb ++ " " ++ object, verb, object, none, none⟩ := by
  rw [hverb.parse?_append_iff]
  rcases hobject with rfl | hobject
  · have htokens : v.tokens "" = [] := rfl
    refine ⟨isSimple_empty, ?_⟩
    simp [phraseOf, hverb.notAlias, hverb.spelled, htokens, splitOperator]
  · refine ⟨?_, ?_⟩
    · rw [IsSimple, hobject.tokens_eq]
      exact fun w hw => List.mem_singleton.1 hw ▸ hobject.notLinker
    · simp [phraseOf, hverb.notAlias, hverb.spelled, hobject.tokens_eq, splitOperator]

/-! ### Reading a phrase -/

theorem mem_of_mem_splitOperator {rest : List String} (h : t ∈ (v.splitOperator rest).2) :
    t ∈ rest := by
  unfold splitOperator at h
  split at h
  · split at h
    · exact List.mem_cons_of_mem _ h
    · exact h
  · exact h

/-- Words that are joined by the separator contain all its characters. -/
theorem mem_join_of_mem_separator {c : Char} (hc : c ∈ v.separator.toList) (t u : String)
    (words : List String) : c ∈ (Text.join v.separator (t :: u :: words)).toList := by
  rw [Text.join_cons_cons]
  simp [hc]

theorem isAmong_eq_false {words : List String} (h : ∀ w ∈ words, Text.fold w ≠ t) :
    isAmong t words = false :=
  List.any_eq_false.2 fun w hw => by simpa using h w hw

/-- The word for a key that has one. -/
theorem exists_wordForKey_eq {key : String} (h : ∃ c ∈ v.commands, c.1 = key) :
    ∃ c ∈ v.commands, v.wordForKey key = c.2 := by
  obtain ⟨c, hc, hkey⟩ := h
  cases hlookup : v.commands.lookup key with
  | none =>
    have hother := List.lookup_eq_none_iff.1 hlookup c hc
    simp [hkey] at hother
  | some w =>
    obtain ⟨before, after, hsplit, -⟩ := List.lookup_eq_some_iff.1 hlookup
    exact ⟨(key, w), by simp [hsplit], by simp [wordForKey, hlookup]⟩

theorem wordFor_ne (hwords : (Builtin.all.map v.wordFor).Nodup) {b c : Builtin} (hbc : b ≠ c) :
    v.wordFor b ≠ v.wordFor c := fun h =>
  hbc (List.inj_on_of_nodup_map hwords (by cases b <;> decide) (by cases c <;> decide) h)

namespace IsCoherent

variable (hv : v.IsCoherent)
include hv

theorem isCanonical_wordForKey {key : String} (h : ∃ c ∈ v.commands, c.1 = key) :
    v.IsCanonical (v.wordForKey key) := by
  obtain ⟨c, hc, hword⟩ := exists_wordForKey_eq h
  exact hword ▸ hv.commands c hc

theorem isCanonical_wordFor (b : Builtin) : v.IsCanonical (v.wordFor b) :=
  hv.isCanonical_wordForKey (hv.builtins b (by cases b <;> decide))

/-- The target of an alias is a command word. -/
theorem isCanonical_of_resolveAlias? (h : v.resolveAlias? t = some verb) : v.IsCanonical verb := by
  unfold resolveAlias? at h
  split at h
  · next a ha =>
    have hmem : a ∈ v.aliases := List.mem_reverse.1 (List.mem_of_find?_eq_some ha)
    dsimp only at h
    split at h
    · cases h
    · exact Option.some.inj h ▸ hv.isCanonical_wordForKey (hv.aliases a hmem)
  · cases h

/-- The verb of a phrase is read as it is written. -/
theorem isCanonical_verb (h : v.parse? line = some p) : v.IsCanonical p.verb := by
  obtain ⟨first, rest, htokens, hlinkers, rfl⟩ := parse?_eq_some_iff.1 h
  obtain ⟨hword, hfluff⟩ := isWord_of_mem_tokens (htokens ▸ List.mem_cons_self)
  have hfirst : v.Admits first :=
    { hword with notFluff := hfluff, notLinker := hlinkers first List.mem_cons_self }
  dsimp only [phraseOf]
  -- the first token is an alias, or else the word of a command, or else it stays as it is
  cases halias : v.resolveAlias? first with
  | some verb => exact hv.isCanonical_of_resolveAlias? halias
  | none =>
    cases hspelled : v.commands.reverse.find? fun c => Text.fold c.2 == first with
    | some c =>
      have hc : c ∈ v.commands := List.mem_reverse.1 (List.mem_of_find?_eq_some hspelled)
      have hverb : v.spelling first = c.2 := by simp [spelling, hspelled]
      simpa [hverb] using hv.commands c hc
    | none =>
      have hverb : v.spelling first = first := by simp [spelling, hspelled]
      rw [Option.getD_none, hverb]
      exact { hfirst with notAlias := halias, spelled := hverb }

/-- The object of a phrase is a word that can be typed. -/
theorem admits_object (h : v.parse? line = some p) (hne : p.object ≠ "") :
    v.Admits p.object := by
  obtain ⟨first, rest, htokens, hlinkers, rfl⟩ := parse?_eq_some_iff.1 h
  have hwords : ∀ t ∈ (v.splitOperator rest).2, v.Admits t := by
    intro t ht
    have hrest : t ∈ first :: rest := List.mem_cons_of_mem first (mem_of_mem_splitOperator ht)
    obtain ⟨hword, hfluff⟩ := isWord_of_mem_tokens (htokens ▸ hrest)
    exact { hword with notFluff := hfluff, notLinker := hlinkers t hrest }
  dsimp only [phraseOf] at hne ⊢
  cases hsplit : (v.splitOperator rest).2 with
  | nil => simp [hsplit] at hne
  | cons t words =>
    rw [hsplit] at hwords
    cases words with
    | nil => simpa using hwords t List.mem_cons_self
    | cons u words =>
      have hword : Text.IsWord (Text.join v.separator (t :: u :: words)) :=
        Text.isWord_join hv.folded hv.unbroken (by simp) fun t ht => (hwords t ht).toIsWord
      -- a character of the separator tells the object from fluff and linkers
      obtain ⟨c, hc, hforeign⟩ := hv.foreign
      have hown : ∀ w ∈ v.fluff ++ v.linkers,
          Text.fold w ≠ Text.join v.separator (t :: u :: words) :=
        fun w hw h => hforeign w hw (h ▸ mem_join_of_mem_separator hc t u words)
      exact
        { hword with
          notFluff := isAmong_eq_false fun w hw => hown w (List.mem_append_left _ hw)
          notLinker := isAmong_eq_false fun w hw => hown w (List.mem_append_right _ hw) }

end IsCoherent

/-! ### The bundled languages -/

theorem isCoherent_of_bundled (hv : v ∈ [Bundled.english, Bundled.german]) : v.IsCoherent := by
  simp only [List.mem_cons, List.not_mem_nil, or_false] at hv
  rcases hv with rfl | rfl
  · exact isCoherent_english
  · exact isCoherent_german

/-- The phrases of the bundled languages are normal forms: verb and object, written with a blank
between them, are read as they are. -/
theorem parse?_verb_object (hv : v ∈ [Bundled.english, Bundled.german])
    (h : v.parse? line = some p) :
    v.parse? (p.verb ++ " " ++ p.object) =
      some ⟨p.verb ++ " " ++ p.object, p.verb, p.object, none, none⟩ := by
  have hcoherent := isCoherent_of_bundled hv
  have hobject : p.object = "" ∨ v.Admits p.object :=
    (Decidable.em (p.object = "")).imp_right (hcoherent.admits_object h)
  exact parse?_written (hcoherent.isCanonical_verb h) hobject

/-- An alias, an operator, fluff, capitals and an object of two words, one of them an operator. -/
theorem parse?_verb_object_pick_up :
    Bundled.english.parse? "PICK up the Key, in!" =
        some ⟨"PICK up the Key, in!", "get", "key_in", some "pick", some "up"⟩ ∧
      Bundled.english.parse? "get key_in" = some ⟨"get key_in", "get", "key_in", none, none⟩ := by
  have h : Bundled.english.parse? "PICK up the Key, in!" =
      some ⟨"PICK up the Key, in!", "get", "key_in", some "pick", some "up"⟩ := by decide +kernel
  exact ⟨h, parse?_verb_object (by simp) h⟩

end Vocabulary

end TextAdventure
