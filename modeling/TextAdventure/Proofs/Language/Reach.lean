import TextAdventure.Proofs.Language.NormalForm

/-!
# Which verbs can be typed

The verb of a line is what its first word is read as (`Vocabulary.verbOf`), and the object is what
the rest is read as (`Vocabulary.objectOf`). A word is the verb of some line if and only if it is
reached by an alias that can be typed, or can be typed itself, is no alias and keeps its spelling
(`Vocabulary.exists_verb_iff`). A vocabulary can lose a command word in each of these ways, and the
check for faults sees none of them: it asks only whether there is a word.
-/

namespace TextAdventure

namespace Vocabulary

variable {v : Vocabulary} {t text word : String}

/-! ### A word and what follows it -/

/-- What a word is read as at the beginning of a line. -/
def verbOf (v : Vocabulary) (t : String) : String := (v.resolveAlias? t).getD (v.spelling t)

/-- What a text is read as behind the first word of a line. -/
def objectOf (v : Vocabulary) (text : String) : String :=
  Text.join v.separator (v.splitOperator (v.tokens text)).2

@[simp] theorem phraseOf_verb (line : String) (rest : List String) :
    (v.phraseOf line t rest).verb = v.verbOf t := rfl

@[simp] theorem phraseOf_object (line : String) :
    (v.phraseOf line t (v.tokens text)).object = v.objectOf text := rfl

/-- A text is its own object, up to case, if its folding can be typed. -/
theorem Admits.tokens_of_fold (h : v.Admits (Text.fold text)) :
    v.tokens text = [Text.fold text] := by
  rw [tokens_congr (Text.fold_fold text).symm, h.tokens_eq]

theorem Admits.isSimple (h : v.Admits (Text.fold text)) : v.IsSimple text := by
  rw [IsSimple, h.tokens_of_fold]
  exact fun w hw => List.mem_singleton.1 hw ▸ h.notLinker

theorem Admits.objectOf_eq (h : v.Admits (Text.fold text)) : v.objectOf text = Text.fold text := by
  rw [objectOf, h.tokens_of_fold]
  exact Text.join_singleton _ _

theorem objectOf_empty : v.objectOf "" = "" := Text.join_nil _

/-! ### Verbs -/

/-- A word can be the verb of a line: by an alias, or as it is. -/
def Reaches (v : Vocabulary) (word : String) : Prop :=
  (∃ a ∈ v.aliases, v.Admits (Text.fold a.1) ∧ v.resolveAlias? (Text.fold a.1) = some word) ∨
    v.Admits (Text.fold word) ∧ v.resolveAlias? (Text.fold word) = none ∧
      v.spelling (Text.fold word) = word

instance (v : Vocabulary) (word : String) : Decidable (v.Reaches word) :=
  inferInstanceAs (Decidable (_ ∨ _))

theorem exists_alias_of_resolveAlias? (h : v.resolveAlias? t = some word) :
    ∃ a ∈ v.aliases, Text.fold a.1 = t := by
  unfold resolveAlias? at h
  split at h
  · next a ha =>
    exact ⟨a, List.mem_reverse.1 (List.mem_of_find?_eq_some ha), by simpa using List.find?_some ha⟩
  · cases h

/-- A word is spelled as a command word of the same folding, or else as it is. -/
theorem fold_spelling (h : Text.fold t = t) : Text.fold (v.spelling t) = t := by
  unfold spelling
  cases hc : v.commands.reverse.find? fun c => Text.fold c.2 == t with
  | none => exact h
  | some c => simpa using List.find?_some hc

/-- A word is reached from a word that can be typed. -/
theorem reaches_iff : v.Reaches word ↔ ∃ t, v.Admits t ∧ v.verbOf t = word := by
  constructor
  · rintro (⟨a, -, hadmits, halias⟩ | ⟨hadmits, halias, hspelled⟩)
    · exact ⟨_, hadmits, by rw [verbOf, halias, Option.getD_some]⟩
    · exact ⟨_, hadmits, by rw [verbOf, halias, Option.getD_none, hspelled]⟩
  · rintro ⟨t, hadmits, hverb⟩
    unfold verbOf at hverb
    cases halias : v.resolveAlias? t with
    | some target =>
      obtain ⟨a, ha, rfl⟩ := exists_alias_of_resolveAlias? halias
      rw [halias, Option.getD_some] at hverb
      exact .inl ⟨a, ha, hadmits, hverb ▸ halias⟩
    | none =>
      -- spelling changes the case only, so the word folds to the one that is typed
      rw [halias, Option.getD_none] at hverb
      have hfold : Text.fold word = t := hverb ▸ fold_spelling hadmits.folded
      rw [Reaches, hfold]
      exact .inr ⟨hadmits, halias, hverb⟩

/-- Which words are the verb of a line. -/
theorem exists_verb_iff :
    (∃ line q, v.parse? line = some q ∧ q.verb = word) ↔ v.Reaches word := by
  rw [reaches_iff]
  constructor
  · rintro ⟨line, q, h, rfl⟩
    obtain ⟨first, rest, htokens, hlinkers, rfl⟩ := parse?_eq_some_iff.1 h
    obtain ⟨hword, hfluff⟩ := isWord_of_mem_tokens (htokens ▸ List.mem_cons_self)
    exact ⟨first, { hword with
      notFluff := hfluff
      notLinker := hlinkers first List.mem_cons_self }, rfl⟩
  · rintro ⟨t, hadmits, rfl⟩
    exact ⟨_, _, hadmits.parse?_append_iff.2 ⟨isSimple_empty, rfl⟩, rfl⟩

theorem IsCanonical.verbOf_eq (h : v.IsCanonical word) : v.verbOf word = word := by
  rw [verbOf, h.notAlias, Option.getD_none, h.spelled]

/-- The words of a coherent vocabulary are reached as they are. -/
theorem IsCoherent.reaches (hv : v.IsCoherent) (b : Builtin) : v.Reaches (v.wordFor b) :=
  reaches_iff.2 ⟨_, (hv.isCanonical_wordFor b).toAdmits, (hv.isCanonical_wordFor b).verbOf_eq⟩

end Vocabulary

end TextAdventure
