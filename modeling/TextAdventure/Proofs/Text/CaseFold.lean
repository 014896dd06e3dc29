import TextAdventure.Text.Blank
import TextAdventure.Text.CaseFold

/-!
# What folding keeps

Folding a text twice is folding it once (`foldChars_foldChars`), and it neither makes nor removes
blanks and punctuation (`isBlank_of_mem_foldChar`, `isPunctuation_of_mem_foldChar`). So where the
words of a text begin and end, and what stands around them, can be seen before as well as after.

All of this comes down to the tables. The characters that change (`Folding.sources`), those they
change into (`Folding.targets`) and those that stand between words (`Folding.marks`) are three lists
of code points, and it matters only that the first shares none with the other two, and the second
none with the third. There are too many to compare each with each. A list is therefore turned into
a number that has its members as bits (`codeSet`): two lists share no member if the numbers share no
bit.
-/

namespace TextAdventure.Text

/-! ### Sets of code points -/

/-- The number whose bits are the members of a list. -/
def codeSet (codes : List Nat) : Nat := codes.foldr (fun n set => set ||| 1 <<< n) 0

theorem testBit_codeSet (codes : List Nat) (n : Nat) :
    (codeSet codes).testBit n = decide (n ∈ codes) := by
  induction codes with
  | nil => simp [codeSet]
  | cons k codes ih =>
    have hcons : codeSet (k :: codes) = codeSet codes ||| 1 <<< k := rfl
    rw [hcons, Nat.testBit_or, ih, Nat.one_shiftLeft, Nat.testBit_two_pow, Bool.or_comm,
      ← Bool.decide_or]
    simp [eq_comm]

/-- Lists whose numbers share no bit share no member. -/
theorem not_mem_of_codeSet {as bs : List Nat} (h : codeSet as &&& codeSet bs = 0) {n : Nat}
    (ha : n ∈ as) : n ∉ bs := by
  intro hb
  have hbit : (codeSet as &&& codeSet bs).testBit n = true := by
    simp [Nat.testBit_and, testBit_codeSet, ha, hb]
  simp [h] at hbit

/-! ### The tables -/

/-- The code points of a range. -/
def FoldRange.codes (r : FoldRange) : List Nat :=
  (List.range ((r.last - r.first) / r.stride + 1)).map fun i => r.first + i * r.stride

theorem FoldRange.mem_codes {r : FoldRange} {n : Nat} (h : r.contains n = true) : n ∈ r.codes := by
  simp only [contains, Bool.and_eq_true, decide_eq_true_eq, beq_iff_eq] at h
  obtain ⟨⟨hfirst, hlast⟩, hmod⟩ := h
  have hsteps := Nat.div_mul_cancel (Nat.dvd_of_mod_eq_zero hmod)
  refine List.mem_map.2 ⟨(n - r.first) / r.stride, List.mem_range.2 ?_, by omega⟩
  exact Nat.lt_succ_of_le (Nat.div_le_div_right (by omega))

namespace Folding

/-- The characters that are not their own folding. -/
def sources : List Nat :=
  List.range' 0x41 26 ++ expansions.map (·.1) ++ FoldRange.table.flatMap (·.codes)

/-- The characters that the others fold to. -/
def targets : List Nat :=
  List.range' 0x61 26 ++ expansions.flatMap (·.2) ++
    FoldRange.table.flatMap fun r => r.codes.map fun n : Nat => ((n : Int) + r.offset).toNat

/-- The blanks and the punctuation characters. -/
def marks : List Nat :=
  [0x20, 0x85, 0xA0, 0x1680, 0x2028, 0x2029, 0x202F, 0x205F, 0x3000] ++ List.range' 0x09 5 ++
    List.range' 0x1C 4 ++ List.range' 0x2000 11 ++ List.range' 0x21 15 ++ List.range' 0x3A 7 ++
    List.range' 0x5B 6 ++ List.range' 0x7B 4

set_option maxRecDepth 10000 in
theorem not_mem_of_mem_sources {n : Nat} (h : n ∈ sources) : n ∉ targets ++ marks :=
  not_mem_of_codeSet (by decide +kernel) h

set_option maxRecDepth 10000 in
theorem not_mem_marks_of_mem_targets {n : Nat} (h : n ∈ targets) : n ∉ marks :=
  not_mem_of_codeSet (by decide +kernel) h

set_option maxRecDepth 10000 in
theorem toNat_ofNat_of_mem_targets {n : Nat} (h : n ∈ targets) : (Char.ofNat n).toNat = n := by
  have hvalid : ∀ n ∈ targets, n.isValidChar := by decide +kernel
  rw [Char.ofNat, dif_pos (hvalid n h)]
  rfl

theorem mem_marks_of_isBlank {c : Char} (h : isBlank c = true) : c.toNat ∈ marks := by
  simp only [isBlank, isWhiteSpace, Bool.or_eq_true, Bool.and_eq_true, decide_eq_true_eq,
    beq_iff_eq] at h
  simp only [marks, List.mem_append, List.mem_range'_1, List.mem_cons, List.not_mem_nil]
  omega

theorem mem_marks_of_isPunctuation {c : Char} (h : isPunctuation c = true) : c.toNat ∈ marks := by
  simp only [isPunctuation, Bool.or_eq_true, Bool.and_eq_true, decide_eq_true_eq] at h
  simp only [marks, List.mem_append, List.mem_range'_1]
  omega

end Folding

/-! ### The folding of one character -/

/-- A character is its own folding, or it is one of those that change. -/
theorem foldChar_cases (c : Char) :
    foldChar c = [c] ∨
      c.toNat ∈ Folding.sources ∧ foldChar c ≠ [] ∧
        ∀ d ∈ foldChar c, d.toNat ∈ Folding.targets := by
  have hexpansions : ∀ e ∈ expansions, e.2 ≠ [] := by decide +kernel
  unfold foldChar
  dsimp only
  split
  · next hascii =>
    by_cases hupper : 'A' ≤ c ∧ c ≤ 'Z'
    · have hfirst : 0x41 ≤ c.toNat := hupper.1
      have hlast : c.toNat ≤ 0x5A := hupper.2
      have htarget : c.toNat + 32 ∈ Folding.targets :=
        List.mem_append_left _ (List.mem_append_left _ (List.mem_range'_1.2 (by omega)))
      refine .inr ⟨?_, by simp, ?_⟩
      · exact List.mem_append_left _ (List.mem_append_left _ (List.mem_range'_1.2 (by omega)))
      · simpa [hupper, Folding.toNat_ofNat_of_mem_targets htarget] using htarget
    · exact .inl (by simp [hupper])
  · cases hexpansion : expansions.lookup c.toNat with
    | some codes =>
      obtain ⟨before, after, hsplit, -⟩ := List.lookup_eq_some_iff.1 hexpansion
      have hmem : (c.toNat, codes) ∈ expansions := by simp [hsplit]
      refine .inr ⟨?_, by simpa using hexpansions _ hmem, ?_⟩
      · exact List.mem_append_left _ (List.mem_append_right _ (List.mem_map.2 ⟨_, hmem, rfl⟩))
      · intro d hd
        obtain ⟨n, hn, rfl⟩ := List.mem_map.1 hd
        have htarget : n ∈ Folding.targets :=
          List.mem_append_left _ (List.mem_append_right _ (List.mem_flatMap.2 ⟨_, hmem, hn⟩))
        rwa [Folding.toNat_ofNat_of_mem_targets htarget]
    | none =>
      dsimp only
      cases hrange : FoldRange.table.find? (·.contains c.toNat) with
      | none => exact .inl rfl
      | some r =>
        have hmem : r ∈ FoldRange.table := List.mem_of_find?_eq_some hrange
        have hcontains : r.contains c.toNat = true := by simpa using List.find?_some hrange
        have hcode : c.toNat ∈ r.codes := FoldRange.mem_codes hcontains
        have htarget : ((c.toNat : Int) + r.offset).toNat ∈ Folding.targets :=
          List.mem_append_right _ (List.mem_flatMap.2 ⟨r, hmem, List.mem_map.2 ⟨_, hcode, rfl⟩⟩)
        refine .inr ⟨?_, by simp, ?_⟩
        · exact List.mem_append_right _ (List.mem_flatMap.2 ⟨r, hmem, hcode⟩)
        · simpa [Folding.toNat_ofNat_of_mem_targets htarget] using htarget

theorem foldChar_of_not_mem_sources {c : Char} (h : c.toNat ∉ Folding.sources) :
    foldChar c = [c] :=
  (foldChar_cases c).resolve_right fun hc => h hc.1

theorem foldChar_ne_nil (c : Char) : foldChar c ≠ [] := by
  rcases foldChar_cases c with h | ⟨-, h, -⟩
  · simp [h]
  · exact h

/-- What a character folds to is its own folding. -/
theorem foldChar_of_mem_foldChar {c d : Char} (h : d ∈ foldChar c) : foldChar d = [d] := by
  rcases foldChar_cases c with hc | ⟨-, -, htargets⟩
  · obtain rfl : d = c := by simpa [hc] using h
    exact hc
  · exact foldChar_of_not_mem_sources fun hd =>
      Folding.not_mem_of_mem_sources hd (List.mem_append_left _ (htargets d h))

section Class

variable {p : Char → Bool}

/-- A class of marks is kept by folding: the marks are their own folding, and nothing else folds to
one. -/
theorem eq_of_mem_foldChar (hp : ∀ c, p c = true → c.toNat ∈ Folding.marks) {c d : Char}
    (h : d ∈ foldChar c) : p d = p c := by
  rcases foldChar_cases c with hc | ⟨hsource, -, htargets⟩
  · obtain rfl : d = c := by simpa [hc] using h
    rfl
  · have hd : p d = false := Bool.eq_false_iff.2 fun hd =>
      Folding.not_mem_marks_of_mem_targets (htargets d h) (hp d hd)
    have hc : p c = false := Bool.eq_false_iff.2 fun hc =>
      Folding.not_mem_of_mem_sources hsource (List.mem_append_right _ (hp c hc))
    rw [hd, hc]

theorem isBlank_of_mem_foldChar {c d : Char} (h : d ∈ foldChar c) : isBlank d = isBlank c :=
  eq_of_mem_foldChar (fun _ => Folding.mem_marks_of_isBlank) h

theorem isPunctuation_of_mem_foldChar {c d : Char} (h : d ∈ foldChar c) :
    isPunctuation d = isPunctuation c :=
  eq_of_mem_foldChar (fun _ => Folding.mem_marks_of_isPunctuation) h

/-- A mark is its own folding. -/
theorem foldChar_of_isMark (hp : ∀ c, p c = true → c.toNat ∈ Folding.marks) {c : Char}
    (h : p c = true) : foldChar c = [c] :=
  foldChar_of_not_mem_sources fun hc =>
    Folding.not_mem_of_mem_sources hc (List.mem_append_right _ (hp c h))

end Class

/-! ### The folding of a text -/

theorem mem_foldChars {cs : List Char} {d : Char} :
    d ∈ foldChars cs ↔ ∃ c ∈ cs, d ∈ foldChar c := List.mem_flatMap

theorem foldChars_eq_nil_iff {cs : List Char} : foldChars cs = [] ↔ cs = [] := by
  cases cs with
  | nil => simp
  | cons c cs => simp [foldChar_ne_nil]

/-- A text is blank throughout, or nowhere, if its folding is. -/
theorem forall_isBlank_foldChars {cs : List Char} {b : Bool} :
    (∀ d ∈ foldChars cs, isBlank d = b) ↔ ∀ c ∈ cs, isBlank c = b := by
  constructor
  · intro h c hc
    obtain ⟨d, hd⟩ := List.exists_mem_of_ne_nil _ (foldChar_ne_nil c)
    rw [← isBlank_of_mem_foldChar hd]
    exact h d (mem_foldChars.2 ⟨c, hc, hd⟩)
  · intro h d hd
    obtain ⟨c, hc, hd⟩ := mem_foldChars.1 hd
    rw [isBlank_of_mem_foldChar hd, h c hc]

/-- A text of characters that are their own folding is its own folding. -/
theorem foldChars_of_forall {cs : List Char} (h : ∀ c ∈ cs, foldChar c = [c]) :
    foldChars cs = cs := by
  induction cs with
  | nil => rfl
  | cons c cs ih =>
    rw [foldChars_cons, h c List.mem_cons_self, ih fun d hd => h d (List.mem_cons_of_mem c hd)]
    rfl

theorem foldChars_of_isPunctuation {cs : List Char} (h : ∀ c ∈ cs, isPunctuation c = true) :
    foldChars cs = cs :=
  foldChars_of_forall fun c hc =>
    foldChar_of_isMark (fun _ => Folding.mem_marks_of_isPunctuation) (h c hc)

/-- The characters of a folded text are their own folding. -/
theorem foldChar_of_mem_foldChars {cs : List Char} {d : Char} (h : d ∈ foldChars cs) :
    foldChar d = [d] := by
  obtain ⟨c, -, hd⟩ := mem_foldChars.1 h
  exact foldChar_of_mem_foldChar hd

/-- Folding twice is folding once. -/
@[simp] theorem foldChars_foldChars (cs : List Char) : foldChars (foldChars cs) = foldChars cs :=
  foldChars_of_forall fun _ => foldChar_of_mem_foldChars

@[simp] theorem fold_fold (s : String) : fold (fold s) = fold s := by
  rw [fold, toList_fold, foldChars_foldChars]
  rfl

@[simp] theorem fold_append (s t : String) : fold (s ++ t) = fold s ++ fold t := by
  simp [← String.toList_inj]

theorem fold_eq_empty_iff {s : String} : fold s = "" ↔ s = "" := by
  rw [← String.toList_inj, toList_fold, String.toList_empty, foldChars_eq_nil_iff,
    String.toList_eq_nil_iff]

/-- A folded text begins where the text begins. -/
theorem exists_of_mem_head?_foldChars {cs : List Char} {d : Char} (h : d ∈ (foldChars cs).head?) :
    ∃ c ∈ cs.head?, d ∈ foldChar c := by
  cases cs with
  | nil => simp at h
  | cons c cs =>
    rw [foldChars_cons, List.head?_append,
      Option.or_of_isSome (List.isSome_head?.2 (foldChar_ne_nil c))] at h
    exact ⟨c, rfl, List.mem_of_mem_head? h⟩

/-- A folded text ends where the text ends. -/
theorem exists_of_mem_getLast?_foldChars {cs : List Char} {d : Char}
    (h : d ∈ (foldChars cs).getLast?) : ∃ c ∈ cs.getLast?, d ∈ foldChar c := by
  rcases List.eq_nil_or_concat cs with rfl | ⟨cs, c, rfl⟩
  · simp at h
  · rw [List.concat_eq_append, foldChars_append, foldChars_cons, foldChars_nil, List.append_nil,
      List.getLast?_append, Option.or_of_isSome (List.getLast?_isSome.2 (foldChar_ne_nil c))] at h
    exact ⟨c, by simp, List.mem_of_mem_getLast? h⟩

end TextAdventure.Text
