import TextAdventure.Language.Bundled
import TextAdventure.Proofs.Turn.Acting

/-!
# Messages that can be used

A table of texts is usable if it has all messages that a turn may need and its template for the ways
out is plain text that ends with the field for their names (`Setting.usable_messageTable`). The
messages of both bundled languages are.
-/

namespace TextAdventure

namespace Text

namespace Template

variable {expand : List Char → Except Defect (List Char)}

/-- Text without braces stands for itself. -/
theorem fillWith_append {name : String} {argument plain : List Char}
    (h : ∀ c ∈ plain, c ≠ '\x7b' ∧ c ≠ '\x7d') (cs : List Char) :
    fillWith expand name argument (plain ++ cs) =
      (fillWith expand name argument cs).map (plain ++ ·) := by
  induction plain with
  | nil =>
    rw [List.nil_append]
    cases h : fillWith expand name argument cs <;> simp [Except.map]
  | cons c plain ih =>
    obtain ⟨hopen, hclose⟩ := h c List.mem_cons_self
    rw [List.cons_append, fillWith.eq_def]
    dsimp only
    rw [if_neg (by simp [hopen, hclose]), ih fun c hc => h c (List.mem_cons_of_mem _ hc)]
    cases fillWith expand name argument cs <;> rfl

theorem subject_exits (argument : List Char) :
    subject "exits" argument "exits".toList = .ok (.text argument) := by
  have hnumber : number? "exits".toList = .ok none := by rfl
  simp [subject, follow, bind, Except.bind] at *
  simp [hnumber]

/-- The field for the names of the ways out stands for them. -/
theorem fillWith_exits (argument : List Char) :
    fillWith expand "exits" argument "\x7bexits\x7d".toList = .ok argument := by
  have hcs : "\x7bexits\x7d".toList = '\x7b' :: 'e' :: "xits\x7d".toList := by decide
  have hslot : slot ('e' :: "xits\x7d".toList) = .ok (⟨"exits".toList, none, []⟩, []) := by rfl
  rw [hcs, fillWith.eq_def]
  dsimp only
  rw [if_pos (.inl rfl), if_neg (by decide), if_neg (by decide), hslot]
  dsimp only
  rw [subject_exits]
  simp [convert, layOutSubject, layOut, Except.map, fillWith.eq_def, pure, Except.pure, bind,
    Except.bind]

end Template

theorem fillTemplate_exits {p : String} (h : ∀ c ∈ p.toList, c ≠ '\x7b' ∧ c ≠ '\x7d')
    (names : String) : fillTemplate (p ++ "\x7bexits\x7d") "exits" names = .ok (p ++ names) := by
  rw [fillTemplate, String.toList_append]
  simp only [Template.fillWith_append h, Template.fillWith_exits]
  simp [Except.map]

end Text

theorem Bundled.entry_messageTable (messages : List (String × String)) (key : String) :
    (messageTable messages).entry key =
      match messages.lookup key with
      | some m => .ok (.text m)
      | none => .error (.missingKey (.text key)) := by
  rw [messageTable, Value.entry_table]
  induction messages with
  | nil => rfl
  | cons m messages ih =>
    obtain ⟨k, text⟩ := m
    rw [List.map_cons, Fields.get?_cons, List.lookup_cons]
    by_cases h : k = key
    · simp [h]
    · have h' : (key == k) = false := by simpa using Ne.symm h
      simp [h, h', ih]

namespace Setting

/-- A table of texts that has all messages a turn may need is usable. -/
theorem usable_messageTable {v : Vocabulary} {messages : List (String × String)} {x y : Int}
    {p : String} (htold : ∀ key ∈ messageKeys, (messages.lookup key).isSome)
    (hexits : messages.lookup "exits" = some (p ++ "\x7bexits\x7d"))
    (hp : ∀ c ∈ p.toList, c ≠ '\x7b' ∧ c ≠ '\x7d') :
    Usable ⟨v, Bundled.messageTable messages, [x, y]⟩ where
  origin := ⟨x, y, rfl⟩
  told := by
    intro key hkey
    obtain ⟨m, hm⟩ := Option.isSome_iff_exists.1 (htold key hkey)
    exact ⟨.text m, by rw [Bundled.entry_messageTable, hm]⟩
  exits := ⟨p ++ "\x7bexits\x7d", by simp [Bundled.entry_messageTable, hexits],
    fun names => ⟨_, Text.fillTemplate_exits hp names⟩⟩

theorem usable_english (v : Vocabulary) (x y : Int) :
    Usable ⟨v, Bundled.englishMessages, [x, y]⟩ :=
  usable_messageTable (p := "Available exits: ") (by decide +kernel) (by decide +kernel) (by simp)

end Setting

end TextAdventure
