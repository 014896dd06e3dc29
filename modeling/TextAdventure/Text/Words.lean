import TextAdventure.Text.Blank

/-!
# Words

Splitting a text into the runs of characters that blanks separate, or into the parts between
marks, and joining words by a separator.
-/

namespace TextAdventure.Text

/-- The words of a text: its longest runs of characters that are not blank, in order. -/
def splitWords : List Char → List (List Char)
  | [] => []
  | c :: rest =>
    if isBlank c then splitWords rest
    else if rest.head?.all isBlank then [c] :: splitWords rest
    else (splitWords rest).modifyHead (c :: ·)

/-- The parts of a text between the places where a mark stands. -/
def partsAt (mark : Char) : List Char → List (List Char)
  | [] => [[]]
  | c :: rest =>
    if c = mark then [] :: partsAt mark rest else (partsAt mark rest).modifyHead (c :: ·)

/-- Words written one after another with a separator between them. -/
def join (separator : String) (words : List String) : String :=
  String.ofList (List.intercalate separator.toList (words.map String.toList))

/-- A text without the blanks at its two ends. -/
def trimBlanks (s : String) : String := String.ofList (trim isBlank s.toList)

@[simp] theorem splitWords_nil : splitWords [] = [] := rfl

/-- A leading blank does not change the words. -/
theorem splitWords_cons_blank {c : Char} (h : isBlank c = true) (cs : List Char) :
    splitWords (c :: cs) = splitWords cs := by
  simp [splitWords, h]

@[simp] theorem join_nil (separator : String) : join separator [] = "" := by
  simp [join, List.intercalate]

@[simp] theorem join_singleton (separator word : String) : join separator [word] = word := by
  simp [join, List.intercalate]

end TextAdventure.Text
