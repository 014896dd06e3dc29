import Mathlib.Logic.Relation
import TextAdventure.Language.Bundled
import TextAdventure.Proofs.Language.Phrase

/-!
# How a line is written does not matter

`Vocabulary.Restyles` lists the changes of a line that are a matter of presentation: other letters
with the same folding, punctuation at the ends of a word, blanks between and around the words, and
words that mean nothing. Each of them leaves the tokens of the line as they are
(`Vocabulary.Restyles.tokens_eq`), so any number of them, made or undone in any order, leaves the
phrase as it is (`Vocabulary.parse?_of_restyled`).

A change is stated where it is made: in a line `before ++ … ++ after`. Words are changed or put in
as a whole, which is why `before` has to end and `after` to begin with a blank, if they are not
empty.
-/

namespace TextAdventure

namespace Vocabulary

variable {v : Vocabulary}

/-- Words that mean nothing: they are punctuation through and through, or fluff, in any case of the
letters and with any punctuation around it. Only fluff that is a single word without punctuation at
its ends can be recognized. -/
inductive IsIdle (v : Vocabulary) : String → Prop where
  | punctuation {word : String} (h : ∀ c ∈ word.toList, Text.isPunctuation c = true) : v.IsIdle word
  | fluff {f word opening closing : String} (hmem : f ∈ v.fluff)
      (hunbroken : ∀ c ∈ f.toList, Text.isBlank c = false)
      (hbare : Text.IsTrimmed Text.isPunctuation f.toList)
      (hword : Text.fold word = Text.fold f)
      (hopening : ∀ c ∈ opening.toList, Text.isPunctuation c = true)
      (hclosing : ∀ c ∈ closing.toList, Text.isPunctuation c = true) :
      v.IsIdle (opening ++ word ++ closing)

/-- One change in the presentation of a line. -/
inductive Restyles (v : Vocabulary) : String → String → Prop where
  /-- Letters become others with the same folding. -/
  | letters {before s t after : String} (h : Text.fold s = Text.fold t) :
      v.Restyles (before ++ s ++ after) (before ++ t ++ after)
  /-- A word gets punctuation at its ends. -/
  | punctuation {before word opening closing after : String}
      (hbefore : Text.EndsApart before.toList) (hafter : Text.BeginsApart after.toList)
      (hword : ∀ c ∈ word.toList, Text.isBlank c = false)
      (hopening : ∀ c ∈ opening.toList, Text.isPunctuation c = true)
      (hclosing : ∀ c ∈ closing.toList, Text.isPunctuation c = true) :
      v.Restyles (before ++ word ++ after) (before ++ (opening ++ word ++ closing) ++ after)
  /-- Other blanks stand between two words, or before the first or after the last one. -/
  | blanks {before gap gap' after : String} (hgap : ∀ c ∈ gap.toList, Text.isBlank c = true)
      (hgap' : ∀ c ∈ gap'.toList, Text.isBlank c = true)
      (h : (gap ≠ "" ∧ gap' ≠ "") ∨ before = "" ∨ after = "") :
      v.Restyles (before ++ gap ++ after) (before ++ gap' ++ after)
  /-- A word that means nothing is put in. -/
  | idle {before word after : String} (hbefore : Text.EndsApart before.toList)
      (hafter : Text.BeginsApart after.toList) (hword : v.IsIdle word) :
      v.Restyles (before ++ after) (before ++ word ++ after)

/-- Punctuation around a word does not change its token. -/
theorem tokens_dressed {word opening closing : String}
    (hword : ∀ c ∈ word.toList, Text.isBlank c = false)
    (hopening : ∀ c ∈ opening.toList, Text.isPunctuation c = true)
    (hclosing : ∀ c ∈ closing.toList, Text.isPunctuation c = true) :
    v.tokens (opening ++ word ++ closing) = v.tokens word := by
  have hdressed : ∀ c ∈ (opening ++ word ++ closing).toList, Text.isBlank c = false := by
    simp only [String.toList_append, List.mem_append, or_imp, forall_and]
    exact ⟨⟨fun c hc => Text.not_isBlank_of_isPunctuation (hopening c hc), hword⟩,
      fun c hc => Text.not_isBlank_of_isPunctuation (hclosing c hc)⟩
  rw [tokens_of_not_isBlank hdressed, tokens_of_not_isBlank hword]
  simp only [String.toList_append, Text.foldChars_append]
  rw [Text.foldChars_of_isPunctuation hopening, Text.foldChars_of_isPunctuation hclosing,
    Text.trim_append hopening hclosing]

/-- A word that means nothing has no token. -/
theorem IsIdle.tokens_eq_nil {word : String} (h : v.IsIdle word) : v.tokens word = [] := by
  cases h with
  | punctuation h =>
    rw [tokens_of_not_isBlank fun c hc => Text.not_isBlank_of_isPunctuation (h c hc),
      Text.foldChars_of_isPunctuation h, Text.trim_eq_nil h]
    rfl
  | @fluff f word opening closing hmem hunbroken hbare hword hopening hclosing =>
    have hchars : Text.foldChars word.toList = Text.foldChars f.toList := by
      rw [← Text.toList_fold, hword, Text.toList_fold]
    -- whether there is a blank can be seen after folding, when both are the same
    have hword : ∀ c ∈ word.toList, Text.isBlank c = false := by
      rw [← Text.forall_isBlank_foldChars, hchars, Text.forall_isBlank_foldChars]
      exact hunbroken
    have hfluff : v.matters (Text.fold f) = false := by
      have hamong : isAmong (Text.fold f) v.fluff = true :=
        List.any_eq_true.2 ⟨f, hmem, by simp⟩
      simp [matters, hamong]
    rw [tokens_dressed hword hopening hclosing, tokens_of_not_isBlank hword, hchars,
      hbare.foldChars.trim_eq, ← Text.fold, List.filter_cons_of_neg (by simp [hfluff])]
    rfl

/-- A change in the presentation of a line does not change its tokens. -/
theorem Restyles.tokens_eq {s t : String} (h : v.Restyles s t) : v.tokens s = v.tokens t := by
  cases h with
  | letters h => exact tokens_congr (by simp [h])
  | punctuation hbefore hafter hword hopening hclosing =>
    rw [tokens_append (.inr hafter), tokens_append (.inl hbefore), tokens_append (.inr hafter),
      tokens_append (.inl hbefore), tokens_dressed hword hopening hclosing]
  | blanks hgap hgap' h =>
    rw [tokens_gap hgap (h.imp_left And.left), tokens_gap hgap' (h.imp_left And.right)]
  | idle hbefore hafter hword =>
    rw [tokens_append (.inl hbefore), tokens_append (.inr hafter), tokens_append (.inl hbefore),
      hword.tokens_eq_nil, List.append_nil]

/-- However the presentation of a line is changed, the line is read alike: it is refused as before,
or the same phrase is read. -/
theorem parse?_of_restyled {s t : String} (h : Relation.EqvGen v.Restyles s t) :
    v.parse? t = (v.parse? s).map fun p => { p with line := t } := by
  have htokens : v.tokens s = v.tokens t := by
    induction h with
    | rel s t h => exact h.tokens_eq
    | refl s => rfl
    | symm s t _ ih => exact ih.symm
    | trans s t u _ _ ihst ihtu => exact ihst.trans ihtu
  exact parse?_of_tokens_eq htokens.symm

/-- Going to the `straße` in capitals, with another blank, an article in brackets and an exclamation
mark. -/
theorem parse?_restyled_street :
    Relation.EqvGen Bundled.german.Restyles "gehe straße" "GEHE\t(Die) STRASSE!" ∧
      Bundled.german.parse? "GEHE\t(Die) STRASSE!" =
        some ⟨"GEHE\t(Die) STRASSE!", "gehe", "strasse", none, none⟩ := by
  have hletters : Bundled.german.Restyles "gehe straße" "GEHE STRASSE" := by
    simpa using @Restyles.letters Bundled.german "" "gehe straße" "GEHE STRASSE" ""
      (by decide +kernel)
  have hmark : Bundled.german.Restyles "GEHE STRASSE" "GEHE STRASSE!" := by
    simpa using @Restyles.punctuation Bundled.german "GEHE " "STRASSE" "" "!" ""
      (by decide) (by decide) (by decide) (by decide) (by decide)
  have hblanks : Bundled.german.Restyles "GEHE STRASSE!" "GEHE\t STRASSE!" := by
    simpa using @Restyles.blanks Bundled.german "GEHE" " " "\t " "STRASSE!"
      (by decide) (by decide) (by decide)
  have hidle : Bundled.german.Restyles "GEHE\t STRASSE!" "GEHE\t(Die) STRASSE!" := by
    have hfluff : Bundled.german.IsIdle "(Die)" := by
      simpa using @IsIdle.fluff Bundled.german "die" "Die" "(" ")" (by decide) (by decide)
        (by decide) (by decide +kernel) (by decide) (by decide)
    simpa using @Restyles.idle Bundled.german "GEHE\t" "(Die)" " STRASSE!" (by decide) (by decide)
      hfluff
  have hrestyled : Relation.EqvGen Bundled.german.Restyles "gehe straße" "GEHE\t(Die) STRASSE!" :=
    .trans _ _ _ (.rel _ _ hletters) (.trans _ _ _ (.rel _ _ hmark)
      (.trans _ _ _ (.rel _ _ hblanks) (.rel _ _ hidle)))
  have hread : Bundled.german.parse? "gehe straße" =
      some ⟨"gehe straße", "gehe", "strasse", none, none⟩ := by decide +kernel
  refine ⟨hrestyled, ?_⟩
  rw [parse?_of_restyled hrestyled, hread]
  rfl

end Vocabulary

end TextAdventure
