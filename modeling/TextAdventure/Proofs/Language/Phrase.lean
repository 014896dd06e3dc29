import TextAdventure.Language.Phrase
import TextAdventure.Proofs.Text.Words

/-!
# What is read of a line

A line is read through its tokens alone (`Vocabulary.parse?_eq`), and its tokens are those of its
parts wherever a blank stands between them (`Vocabulary.tokens_append`). A token is a word that
stays as it is and no fluff, and every such word is the only token of itself
(`Vocabulary.isWord_of_mem_tokens`, `Vocabulary.tokens_of_isWord`).
-/

namespace TextAdventure

namespace Vocabulary

variable {v : Vocabulary} {line s t : String}

/-! ### Tokens -/

/-- Whether a word that has been folded and trimmed matters: it is not empty and no fluff. -/
def matters (v : Vocabulary) (t : String) : Bool := t != "" && !isAmong t v.fluff

theorem tokens_eq (v : Vocabulary) (line : String) :
    v.tokens line =
      ((Text.splitWords (Text.foldChars line.toList)).map fun w =>
        String.ofList (Text.trim Text.isPunctuation w)).filter v.matters := rfl

/-- Only the folding of a line counts. -/
theorem tokens_congr (h : Text.fold s = Text.fold t) : v.tokens s = v.tokens t := by
  have hchars : Text.foldChars s.toList = Text.foldChars t.toList := by
    rw [← Text.toList_fold, h, Text.toList_fold]
  rw [tokens_eq, tokens_eq, hchars]

/-- The tokens of two lines that no word runs across. -/
theorem tokens_append (h : Text.EndsApart s.toList ∨ Text.BeginsApart t.toList) :
    v.tokens (s ++ t) = v.tokens s ++ v.tokens t := by
  have happart := h.imp Text.EndsApart.foldChars Text.BeginsApart.foldChars
  rw [tokens_eq, String.toList_append, Text.foldChars_append, Text.splitWords_append happart,
    List.map_append, List.filter_append]
  rfl

theorem tokens_of_isBlank (h : ∀ c ∈ s.toList, Text.isBlank c = true) : v.tokens s = [] := by
  rw [tokens_eq, Text.splitWords_of_isBlank (Text.forall_isBlank_foldChars.2 h)]
  rfl

/-- Blanks between words, or around them, have no tokens and keep the words apart. -/
theorem tokens_gap {before gap after : String} (hgap : ∀ c ∈ gap.toList, Text.isBlank c = true)
    (h : gap ≠ "" ∨ before = "" ∨ after = "") :
    v.tokens (before ++ gap ++ after) = v.tokens before ++ v.tokens after := by
  have hapart : Text.EndsApart (before ++ gap).toList ∨ Text.BeginsApart after.toList := by
    rcases h with h | rfl | rfl
    · refine .inl fun c hc => hgap c ?_
      have hlast : gap.toList.getLast?.isSome := List.getLast?_isSome.2 (by simpa using h)
      rw [String.toList_append, List.getLast?_append, Option.or_of_isSome hlast] at hc
      exact List.mem_of_mem_getLast? hc
    · exact .inl (by simpa using Text.endsApart_of_forall hgap)
    · exact .inr (by simp)
  rw [tokens_append hapart, tokens_append (.inr (Text.beginsApart_of_forall hgap)),
    tokens_of_isBlank hgap, List.append_nil]

/-- Without blanks a line has one token at most. -/
theorem tokens_of_not_isBlank (h : ∀ c ∈ s.toList, Text.isBlank c = false) :
    v.tokens s =
      [String.ofList (Text.trim Text.isPunctuation (Text.foldChars s.toList))].filter v.matters := by
  by_cases hs : s = ""
  · subst hs
    rfl
  · have hne : Text.foldChars s.toList ≠ [] := by simpa [Text.foldChars_eq_nil_iff] using hs
    rw [tokens_eq, Text.splitWords_of_not_isBlank (Text.forall_isBlank_foldChars.2 h) hne]
    rfl

theorem isWord_of_mem_tokens (h : t ∈ v.tokens line) :
    Text.IsWord t ∧ isAmong t v.fluff = false := by
  rw [tokens_eq, List.mem_filter, List.mem_map] at h
  obtain ⟨⟨w, hw, rfl⟩, hmatters⟩ := h
  simp only [matters, Bool.and_eq_true, bne_iff_ne, Bool.not_eq_true'] at hmatters
  exact ⟨Text.isWord_trim hw (by simpa using hmatters.1), hmatters.2⟩

theorem tokens_of_isWord (h : Text.IsWord t) (hfluff : isAmong t v.fluff = false) :
    v.tokens t = [t] := by
  have hmatters : v.matters t = true := by simp [matters, h.ne_empty, hfluff]
  rw [tokens_eq, h.splitWords_eq, List.map_singleton, h.bare.trim_eq, String.ofList_toList,
    List.filter_cons_of_pos hmatters]
  rfl

/-! ### Phrases -/

/-- The phrase of a line whose tokens are a first one and the rest. -/
def phraseOf (v : Vocabulary) (line first : String) (rest : List String) : Phrase where
  line := line
  verb := (v.resolveAlias? first).getD (v.spelling first)
  object := Text.join v.separator (v.splitOperator rest).2
  typedVerb := (v.resolveAlias? first).map fun _ => first
  operator := (v.splitOperator rest).1

/-- A line is read through its tokens. -/
theorem parse?_eq (v : Vocabulary) (line : String) :
    v.parse? line =
      match v.tokens line with
      | [] => none
      | first :: rest =>
        if (first :: rest).any fun t => isAmong t v.linkers then none
        else some (v.phraseOf line first rest) := by
  rw [parse?, readLine]
  cases v.tokens line with
  | nil => rfl
  | cons first rest =>
    dsimp only
    split
    · rfl
    · rw [phraseOf]
      cases v.resolveAlias? first <;> rfl

/-- Lines with the same tokens are read alike. -/
theorem parse?_of_tokens_eq (h : v.tokens t = v.tokens s) :
    v.parse? t = (v.parse? s).map fun p => { p with line := t } := by
  rw [parse?_eq, parse?_eq, h]
  split
  · rfl
  · split <;> rfl

theorem parse?_eq_some_iff {p : Phrase} :
    v.parse? line = some p ↔
      ∃ first rest, v.tokens line = first :: rest ∧
        (∀ t ∈ first :: rest, isAmong t v.linkers = false) ∧ p = v.phraseOf line first rest := by
  rw [parse?_eq]
  cases v.tokens line with
  | nil => simp
  | cons first rest =>
    have hlinkers : ((first :: rest).any fun t => isAmong t v.linkers) = false ↔
        ∀ t ∈ first :: rest, isAmong t v.linkers = false := by
      simp [List.any_eq_false]
    dsimp only
    constructor
    · intro h
      split at h
      · cases h
      · next hany =>
        exact ⟨first, rest, rfl, hlinkers.1 (Bool.eq_false_iff.2 hany), (Option.some.inj h).symm⟩
    · rintro ⟨_, _, hcons, hnone, rfl⟩
      cases hcons
      rw [hlinkers.2 hnone]
      rfl

/-- A line that joins two commands cannot be handled. -/
theorem parse?_eq_none (h : ∃ t ∈ v.tokens line, isAmong t v.linkers = true) :
    v.parse? line = none := by
  obtain ⟨t, ht, hlinker⟩ := h
  by_contra hsome
  obtain ⟨p, hp⟩ := Option.ne_none_iff_exists'.1 hsome
  obtain ⟨first, rest, htokens, hnone, -⟩ := parse?_eq_some_iff.1 hp
  simp [hnone t (htokens ▸ ht)] at hlinker

end Vocabulary

end TextAdventure
