import TextAdventure.Text.CaseFold

/-!
# Small letters

The small letters of a text. For most characters this is their folding; `smallRanges` holds the
letters that are small already though their folding differs, and `capitalRanges` the capitals whose
small letter is another one than their folding. The Greek sigma has a second small letter for the
end of words.
-/

namespace TextAdventure.Text

/-- The small letters that fold to something else. -/
def smallRanges : List (Nat × Nat) :=
  [(0x00B5, 0x00B5), (0x00DF, 0x00DF), (0x0149, 0x0149), (0x017F, 0x017F), (0x01F0, 0x01F0),
    (0x0345, 0x0345), (0x0390, 0x0390), (0x03B0, 0x03B0), (0x03C2, 0x03C2), (0x03D0, 0x03D1),
    (0x03D5, 0x03D6), (0x03F0, 0x03F1), (0x03F5, 0x03F5), (0x0587, 0x0587), (0x13F8, 0x13FD),
    (0x1C80, 0x1C88), (0x1E96, 0x1E9B), (0x1F50, 0x1F50), (0x1F52, 0x1F52), (0x1F54, 0x1F54),
    (0x1F56, 0x1F56), (0x1F80, 0x1F87), (0x1F90, 0x1F97), (0x1FA0, 0x1FA7), (0x1FB2, 0x1FB4),
    (0x1FB6, 0x1FB7), (0x1FBE, 0x1FBE), (0x1FC2, 0x1FC4), (0x1FC6, 0x1FC7), (0x1FD2, 0x1FD3),
    (0x1FD6, 0x1FD7), (0x1FE2, 0x1FE4), (0x1FE6, 0x1FE7), (0x1FF2, 0x1FF4), (0x1FF6, 0x1FF7),
    (0xAB70, 0xABBF), (0xFB00, 0xFB06), (0xFB13, 0xFB17)]

/-- The capitals whose small letter is not their folding, with the distance to it. -/
def capitalRanges : List FoldRange :=
  [⟨0x13A0, 0x13EF, 1, 38864⟩, ⟨0x13F0, 0x13F5, 1, 8⟩, ⟨0x1E9E, 0x1E9E, 1, -7615⟩,
    ⟨0x1F88, 0x1F8F, 1, -8⟩, ⟨0x1F98, 0x1F9F, 1, -8⟩, ⟨0x1FA8, 0x1FAF, 1, -8⟩,
    ⟨0x1FBC, 0x1FCC, 16, -9⟩, ⟨0x1FFC, 0x1FFC, 1, -9⟩]

/-- The small letter of a character on its own. -/
def lowerChar (c : Char) : List Char :=
  let n := c.toNat
  if smallRanges.any fun r => r.1 ≤ n && n ≤ r.2 then [c]
  else
    match capitalRanges.find? (·.contains n) with
    | some r => [Char.ofNat (n + r.offset).toNat]
    | none => foldChar c

/-- Whether a character is a letter that comes in capital and small. -/
def isCased (c : Char) : Bool :=
  let n := c.toNat
  lowerChar c != [c] || foldChar c != [c] ||
    FoldRange.table.any fun r =>
      let m := n - r.offset
      0 ≤ m && r.contains m.toNat

/-- Whether a character inside a word is passed over when its end is looked for. -/
def isPassedOver (c : Char) : Bool :=
  let n := c.toNat
  ['\'', '.', ':', '^', '`'].contains c || n == 0xA8 || n == 0xAD || n == 0xAF || n == 0xB4 ||
    n == 0xB7 || n == 0xB8 || (0x0300 ≤ n && n ≤ 0x036F) || n == 0x2019

/-- Whether the first of the characters that count is a cased letter. -/
def startsCased (cs : List Char) : Bool := (cs.find? fun c => !isPassedOver c).any isCased

/-- The small letters of a text; `before` is what stands before it, last character first. -/
def lowerChars (before : List Char) : List Char → List Char
  | [] => []
  | c :: rest =>
    let small :=
      if c = 'Σ' then [if startsCased before && !startsCased rest then 'ς' else 'σ'] else lowerChar c
    small ++ lowerChars (c :: before) rest

/-- A text in small letters. -/
def lower (s : String) : String := String.ofList (lowerChars [] s.toList)

end TextAdventure.Text
