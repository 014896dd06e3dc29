import TextAdventure.Text.Digit

/-!
# Positions in a document's text

A cursor is what is left of a text together with the position reached: the number of characters
behind it, the line and the column. Past the end of the text stands the character `endMark`, which
no document may hold.
-/

namespace TextAdventure.Yaml

/-- The character that stands past the end of a text. -/
def endMark : Char := '\x00'

/-- Whether a character ends a line. -/
def isBreak (c : Char) : Bool :=
  c == '\n' || c == '\r' || c == '\x85' || c == '\u2028' || c == '\u2029'

/-- Whether a character ends a line or the text. -/
def isBreakOrEnd (c : Char) : Bool := c == endMark || isBreak c

/-- Whether a character may follow a mark: a space, a tab, or the end of a line or of the text. -/
def isGap (c : Char) : Bool := c == ' ' || c == '\t' || isBreakOrEnd c

/-- Whether a character may stand in the name of an anchor or of a handle. -/
def isNameChar (c : Char) : Bool :=
  ('0' ≤ c && c ≤ '9') || ('A' ≤ c && c ≤ 'Z') || ('a' ≤ c && c ≤ 'z') || c == '-' || c == '_'

/-- Whether a document may hold a character. -/
def isAllowed (c : Char) : Bool :=
  let n := c.toNat
  n == 0x09 || n == 0x0A || n == 0x0D || (0x20 ≤ n && n ≤ 0x7E) || n == 0x85 ||
    (0xA0 ≤ n && n ≤ 0xD7FF) || (0xE000 ≤ n && n ≤ 0xFFFD) || 0x10000 ≤ n

/-- A position in a text. -/
structure Cursor where
  rest : List Char
  index : Nat
  line : Nat
  column : Nat
  /-- The number of characters of the whole text. -/
  size : Nat
  deriving Repr

namespace Cursor

/-- The beginning of a text. -/
def start (cs : List Char) : Cursor := ⟨cs, 0, 0, 0, cs.length⟩

/-- The character that lies some places ahead. -/
def peek (c : Cursor) (ahead : Nat) : Char := (c.rest[ahead]?).getD endMark

/-- The character at the position. -/
def head (c : Cursor) : Char := c.rest.headD endMark

/-- One character further. -/
def next (c : Cursor) : Cursor :=
  match c.rest with
  | [] => c
  | ch :: rest =>
    if ch == '\n' || ch == '\x85' || ch == '\u2028' || ch == '\u2029' ||
        (ch == '\r' && rest.head? != some '\n') then
      ⟨rest, c.index + 1, c.line + 1, 0, c.size⟩
    else if ch == '\uFEFF' then ⟨rest, c.index + 1, c.line, c.column, c.size⟩
    else ⟨rest, c.index + 1, c.line, c.column + 1, c.size⟩

/-- Some characters further. -/
def skip : Nat → Cursor → Cursor
  | 0, c => c
  | n + 1, c => skip n c.next

/-- The characters ahead that have a property, and the position after them. -/
def takeWhile (p : Char → Bool) (c : Cursor) : List Char × Cursor :=
  let taken := c.rest.takeWhile p
  (taken, c.skip taken.length)

/-- The position after the characters ahead that have a property. -/
def skipWhile (p : Char → Bool) (c : Cursor) : Cursor := (c.takeWhile p).2

/-- The position after the spaces ahead. -/
def skipSpaces (c : Cursor) : Cursor := c.skipWhile (· == ' ')

/-- The position at the end of the line. -/
def toLineEnd (c : Cursor) : Cursor := c.skipWhile fun ch => !isBreak ch

/-- The line break at the position, if there is one, and the position after it. The two separators
of lines and paragraphs stand for themselves, all other breaks for a line feed. -/
def lineBreak (c : Cursor) : List Char × Cursor :=
  match c.rest with
  | '\r' :: '\n' :: _ => (['\n'], c.skip 2)
  | ch :: _ =>
    if ch == '\u2028' || ch == '\u2029' then ([ch], c.next)
    else if isBreak ch then (['\n'], c.next)
    else ([], c)
  | [] => ([], c)

/-- Whether a mark of three characters that begins or ends a document lies ahead. -/
def atDocumentMark (c : Cursor) : Bool :=
  match c.rest with
  | '-' :: '-' :: '-' :: rest => isGap (rest.headD endMark)
  | '.' :: '.' :: '.' :: rest => isGap (rest.headD endMark)
  | _ => false

/-- A bound for the number of steps that lead to the end of the text. -/
def fuel (c : Cursor) : Nat := c.size - c.index + 1

end Cursor

end TextAdventure.Yaml
