import Mathlib.Data.List.TakeWhile
import TextAdventure.Proofs.Text.CaseFold
import TextAdventure.Text.Words

/-!
# The words of a text

A text can be split into words piece by piece wherever a blank or an end stands between the pieces
(`splitWords_append`), and what stands around a word can be taken off it piece by piece
(`trim_append`).

`IsWord` says which texts are left of a text when it has been folded, split and trimmed. They are
exactly the ones that stay as they are when this is done again, and words joined by a separator that
is folded and unbroken are one of them (`isWord_join`).
-/

namespace TextAdventure.Text

/-! ### Deciding

What is said of the characters of a text is decided by going through the text. Without these
instances all characters there are may be gone through.
-/

section Decide

variable {p : Char → Prop} [DecidablePred p]

instance (priority := high) decidableForallMem (cs : List Char) : Decidable (∀ c ∈ cs, p c) :=
  cs.decidableBAll p

instance (priority := high) decidableExistsMem (cs : List Char) : Decidable (∃ c ∈ cs, p c) :=
  cs.decidableBEx p

instance (priority := high) decidableForallMemOption (c? : Option Char) :
    Decidable (∀ c ∈ c?, p c) :=
  c?.decidableForallMem

end Decide

/-! ### Splitting -/

/-- A text after which a word can begin: it is empty or ends with a blank. -/
def EndsApart (cs : List Char) : Prop := ∀ c ∈ cs.getLast?, isBlank c = true

/-- A text before which a word can end: it is empty or begins with a blank. -/
def BeginsApart (cs : List Char) : Prop := ∀ c ∈ cs.head?, isBlank c = true

instance (cs : List Char) : Decidable (EndsApart cs) :=
  inferInstanceAs (Decidable (∀ c ∈ cs.getLast?, isBlank c = true))

instance (cs : List Char) : Decidable (BeginsApart cs) :=
  inferInstanceAs (Decidable (∀ c ∈ cs.head?, isBlank c = true))

@[simp] theorem endsApart_nil : EndsApart [] := by simp [EndsApart]

@[simp] theorem beginsApart_nil : BeginsApart [] := by simp [BeginsApart]

theorem endsApart_of_forall {cs : List Char} (h : ∀ c ∈ cs, isBlank c = true) : EndsApart cs :=
  fun c hc => h c (List.mem_of_mem_getLast? hc)

theorem beginsApart_of_forall {cs : List Char} (h : ∀ c ∈ cs, isBlank c = true) :
    BeginsApart cs :=
  fun c hc => h c (List.mem_of_mem_head? hc)

theorem EndsApart.foldChars {cs : List Char} (h : EndsApart cs) : EndsApart (foldChars cs) := by
  intro d hd
  obtain ⟨c, hc, hfold⟩ := exists_of_mem_getLast?_foldChars hd
  rw [isBlank_of_mem_foldChar hfold, h c hc]

theorem BeginsApart.foldChars {cs : List Char} (h : BeginsApart cs) :
    BeginsApart (foldChars cs) := by
  intro d hd
  obtain ⟨c, hc, hfold⟩ := exists_of_mem_head?_foldChars hd
  rw [isBlank_of_mem_foldChar hfold, h c hc]

theorem splitWords_ne_nil {c : Char} (hc : isBlank c = false) (cs : List Char) :
    splitWords (c :: cs) ≠ [] := by
  induction cs generalizing c with
  | nil => simp [splitWords, hc]
  | cons d cs ih =>
    by_cases hd : isBlank d = true
    · rw [splitWords]
      simp [hc, hd]
    · rw [splitWords]
      simpa [hc, hd] using ih (Bool.eq_false_iff.2 hd)

/-- The words of two texts that no word runs across. -/
theorem splitWords_append {cs ds : List Char} (h : EndsApart cs ∨ BeginsApart ds) :
    splitWords (cs ++ ds) = splitWords cs ++ splitWords ds := by
  induction cs with
  | nil => rfl
  | cons c cs ih =>
    by_cases hc : isBlank c = true
    · have hcs : EndsApart cs ∨ BeginsApart ds :=
        h.imp_left fun h e he => h e (by cases cs <;> simp_all)
      rw [List.cons_append, splitWords_cons_blank hc, splitWords_cons_blank hc, ih hcs]
    · cases cs with
      | nil =>
        have hds : ds.head?.all isBlank = true := by
          rcases h with h | h
          · exact absurd (h c (by simp)) hc
          · exact (Option.all_eq_true _ _).2 h
        simp [splitWords, hc, hds]
      | cons d cs =>
        have hcs := ih (h.imp_left fun h e he => h e (by simpa using he))
        simp only [List.cons_append] at hcs ⊢
        rw [splitWords, splitWords.eq_2 c (d :: cs), hcs]
        by_cases hd : isBlank d = true
        · simp [hc, hd]
        · -- the word that begins with `c` goes on, so there is a word to put it in front of
          obtain ⟨w, ws, hw⟩ :=
            List.exists_cons_of_ne_nil (splitWords_ne_nil (Bool.eq_false_iff.2 hd) cs)
          simp [hc, hd, hw]

/-- Blanks hold no word. -/
theorem splitWords_of_isBlank {cs : List Char} (h : ∀ c ∈ cs, isBlank c = true) :
    splitWords cs = [] := by
  induction cs with
  | nil => rfl
  | cons c cs ih =>
    rw [splitWords_cons_blank (h c List.mem_cons_self)]
    exact ih fun d hd => h d (List.mem_cons_of_mem c hd)

/-- A text without blanks is one word. -/
theorem splitWords_of_not_isBlank {w : List Char} (h : ∀ c ∈ w, isBlank c = false) (hw : w ≠ []) :
    splitWords w = [w] := by
  induction w with
  | nil => exact absurd rfl hw
  | cons c w ih =>
    have hc := h c List.mem_cons_self
    cases w with
    | nil => simp [splitWords, hc]
    | cons d w =>
      have hd := h d (by simp)
      rw [splitWords, ih (fun e he => h e (List.mem_cons_of_mem c he)) (by simp)]
      simp [hc, hd]

/-- A word holds characters of the text, and none of them is a blank. -/
theorem mem_of_mem_splitWords {cs w : List Char} (hw : w ∈ splitWords cs) {c : Char} (hc : c ∈ w) :
    c ∈ cs ∧ isBlank c = false := by
  induction cs generalizing w with
  | nil => simp at hw
  | cons d cs ih =>
    rw [splitWords] at hw
    split at hw
    · exact (ih hw hc).imp_left (List.mem_cons_of_mem d)
    · next hd =>
      split at hw
      · rcases List.mem_cons.1 hw with rfl | hw
        · obtain rfl : c = d := by simpa using hc
          exact ⟨List.mem_cons_self, Bool.eq_false_iff.2 hd⟩
        · exact (ih hw hc).imp_left (List.mem_cons_of_mem d)
      · cases hws : splitWords cs with
        | nil => simp [hws] at hw
        | cons v ws =>
          rw [hws, List.modifyHead_cons] at hw
          rcases List.mem_cons.1 hw with rfl | hw
          · rcases List.mem_cons.1 hc with rfl | hc
            · exact ⟨List.mem_cons_self, Bool.eq_false_iff.2 hd⟩
            · exact (ih (hws ▸ List.mem_cons_self) hc).imp_left (List.mem_cons_of_mem d)
          · exact (ih (hws ▸ List.mem_cons_of_mem v hw) hc).imp_left (List.mem_cons_of_mem d)

/-! ### Trimming -/

theorem not_isBlank_of_isPunctuation {c : Char} (h : isPunctuation c = true) :
    isBlank c = false := by
  simp only [isPunctuation, Bool.or_eq_true, Bool.and_eq_true, decide_eq_true_eq] at h
  simp only [isBlank, isWhiteSpace, Bool.or_eq_false_iff, Bool.and_eq_false_iff,
    decide_eq_false_iff_not, beq_eq_false_iff_ne]
  omega

/-- A text neither begins nor ends with a character of a class. -/
def IsTrimmed (p : Char → Bool) (cs : List Char) : Prop :=
  (∀ c ∈ cs.head?, p c = false) ∧ ∀ c ∈ cs.getLast?, p c = false

section Trim

variable {p : Char → Bool} {cs : List Char}

instance : Decidable (IsTrimmed p cs) := inferInstanceAs (Decidable (_ ∧ _))

theorem not_of_mem_head?_dropWhile {c : Char} (h : c ∈ (cs.dropWhile p).head?) : p c = false := by
  have hhead := List.head?_dropWhile_not p cs
  rw [Option.mem_def.1 h] at hhead
  exact hhead

theorem dropWhile_of_head? (h : ∀ c ∈ cs.head?, p c = false) : cs.dropWhile p = cs := by
  cases cs with
  | nil => rfl
  | cons c cs => rw [List.dropWhile_cons_of_neg (by simp [h c rfl])]

/-- Trimming leaves a text alone that is trimmed. -/
theorem IsTrimmed.trim_eq (h : IsTrimmed p cs) : trim p cs = cs := by
  have hlast : ∀ c ∈ cs.reverse.head?, p c = false := by simpa using h.2
  rw [trim, dropWhile_of_head? h.1, dropWhile_of_head? hlast, List.reverse_reverse]

theorem trim_isPrefix (p : Char → Bool) (cs : List Char) : trim p cs <+: cs.dropWhile p :=
  List.reverse_suffix.1 (by simpa [trim] using List.dropWhile_suffix p)

theorem isTrimmed_trim (p : Char → Bool) (cs : List Char) : IsTrimmed p (trim p cs) := by
  refine ⟨fun c hc => ?_, fun c hc => ?_⟩
  · obtain ⟨rest, hrest⟩ := trim_isPrefix p cs
    refine @not_of_mem_head?_dropWhile p cs c ?_
    rw [← hrest, List.head?_append, Option.mem_def.1 hc]
    rfl
  · rw [trim, List.getLast?_reverse] at hc
    exact not_of_mem_head?_dropWhile hc

theorem mem_of_mem_trim {c : Char} (h : c ∈ trim p cs) : c ∈ cs :=
  (List.dropWhile_suffix p).subset ((trim_isPrefix p cs).subset h)

/-- What is trimmed off may as well not be there. -/
theorem trim_append {lead trail : List Char} (hlead : ∀ c ∈ lead, p c = true)
    (htrail : ∀ c ∈ trail, p c = true) : trim p (lead ++ cs ++ trail) = trim p cs := by
  rw [List.append_assoc, trim, List.dropWhile_append_of_pos hlead, List.dropWhile_append]
  split
  · next hempty =>
    rw [List.dropWhile_eq_nil_iff.2 htrail, trim, List.isEmpty_iff.1 hempty]
  · rw [List.reverse_append, List.dropWhile_append_of_pos (by simpa using htrail), trim]

theorem trim_eq_nil (h : ∀ c ∈ cs, p c = true) : trim p cs = [] := by
  rw [trim, List.dropWhile_eq_nil_iff.2 h]
  rfl

end Trim

theorem IsTrimmed.foldChars {cs : List Char} (h : IsTrimmed isPunctuation cs) :
    IsTrimmed isPunctuation (foldChars cs) := by
  refine ⟨fun d hd => ?_, fun d hd => ?_⟩
  · obtain ⟨c, hc, hfold⟩ := exists_of_mem_head?_foldChars hd
    rw [isPunctuation_of_mem_foldChar hfold, h.1 c hc]
  · obtain ⟨c, hc, hfold⟩ := exists_of_mem_getLast?_foldChars hd
    rw [isPunctuation_of_mem_foldChar hfold, h.2 c hc]

/-! ### Words that stay as they are -/

/-- A text that is left of another one when that is folded, split and trimmed. -/
structure IsWord (t : String) : Prop where
  ne_empty : t ≠ ""
  folded : fold t = t
  /-- It contains no blank. -/
  unbroken : ∀ c ∈ t.toList, isBlank c = false
  /-- It neither begins nor ends with punctuation. -/
  bare : IsTrimmed isPunctuation t.toList

instance (t : String) : Decidable (IsWord t) :=
  decidable_of_iff
    (t ≠ "" ∧ fold t = t ∧ (∀ c ∈ t.toList, isBlank c = false) ∧
      IsTrimmed isPunctuation t.toList)
    ⟨fun ⟨h, hfolded, hunbroken, hbare⟩ => ⟨h, hfolded, hunbroken, hbare⟩,
      fun h => ⟨h.ne_empty, h.folded, h.unbroken, h.bare⟩⟩

theorem fold_eq_self_iff {s : String} : fold s = s ↔ foldChars s.toList = s.toList := by
  rw [← String.toList_inj, toList_fold]

/-- What is left of a word of a folded text is a word that stays as it is. -/
theorem isWord_trim {cs w : List Char} (hw : w ∈ splitWords (foldChars cs))
    (hne : trim isPunctuation w ≠ []) : IsWord (String.ofList (trim isPunctuation w)) where
  ne_empty := by simpa using hne
  folded := by
    rw [fold_eq_self_iff, String.toList_ofList]
    exact foldChars_of_forall fun c hc =>
      foldChar_of_mem_foldChars (mem_of_mem_splitWords hw (mem_of_mem_trim hc)).1
  unbroken := by
    intro c hc
    rw [String.toList_ofList] at hc
    exact (mem_of_mem_splitWords hw (mem_of_mem_trim hc)).2
  bare := by
    rw [String.toList_ofList]
    exact isTrimmed_trim _ _

namespace IsWord

variable {t u separator : String}

theorem toList_ne_nil (h : IsWord t) : t.toList ≠ [] := by simpa using h.ne_empty

/-- A word is the only word of its folding. -/
theorem splitWords_eq (h : IsWord t) : splitWords (Text.foldChars t.toList) = [t.toList] := by
  rw [fold_eq_self_iff.1 h.folded]
  exact splitWords_of_not_isBlank h.unbroken h.toList_ne_nil

/-- Two words with something folded and unbroken between them are one word. -/
theorem append (ht : IsWord t) (hu : IsWord u) (hfolded : fold separator = separator)
    (hunbroken : ∀ c ∈ separator.toList, isBlank c = false) : IsWord (t ++ separator ++ u) where
  ne_empty := by simp [ht.ne_empty]
  folded := by
    rw [fold_eq_self_iff] at hfolded ⊢
    simp only [String.toList_append, foldChars_append, hfolded, fold_eq_self_iff.1 ht.folded,
      fold_eq_self_iff.1 hu.folded]
  unbroken := by
    simp only [String.toList_append, List.mem_append, or_imp, forall_and]
    exact ⟨⟨ht.unbroken, hunbroken⟩, hu.unbroken⟩
  bare := by
    simp only [IsTrimmed, String.toList_append, List.append_assoc]
    rw [List.head?_append, Option.or_of_isSome (List.isSome_head?.2 ht.toList_ne_nil),
      ← List.append_assoc, List.getLast?_append,
      Option.or_of_isSome (List.getLast?_isSome.2 hu.toList_ne_nil)]
    exact ⟨ht.bare.1, hu.bare.2⟩

end IsWord

theorem join_cons_cons (separator t u : String) (words : List String) :
    join separator (t :: u :: words) = t ++ separator ++ join separator (u :: words) := by
  simp [join, List.intercalate_cons_cons, ← String.toList_inj]

/-- Words joined by something folded and unbroken are one word. -/
theorem isWord_join {separator : String} (hfolded : fold separator = separator)
    (hunbroken : ∀ c ∈ separator.toList, isBlank c = false) {words : List String}
    (hne : words ≠ []) (hwords : ∀ t ∈ words, IsWord t) : IsWord (join separator words) := by
  induction words with
  | nil => exact absurd rfl hne
  | cons t words ih =>
    have ht := hwords t List.mem_cons_self
    cases words with
    | nil => simpa using ht
    | cons u words =>
      rw [join_cons_cons]
      exact ht.append (ih (by simp) fun v hv => hwords v (List.mem_cons_of_mem t hv)) hfolded
        hunbroken

end TextAdventure.Text
