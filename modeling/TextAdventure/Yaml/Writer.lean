import TextAdventure.Yaml.Outline

/-!
# Writing documents

The text of a value in block style: one entry a line, tables with their keys in increasing order,
lists under a key without further indentation. A text is written plainly if it reads back as that
text, and in quotes otherwise; lines are folded at single spaces once they are longer than eighty
characters. An object that stands at several places is written once, with an anchor, and its other
places are aliases.
-/

namespace TextAdventure.Yaml

/-! ### How texts are written -/

/-- How a text may be written. -/
structure Form where
  isEmpty : Bool
  isMultiline : Bool
  /-- Without quotes, outside of flow collections. -/
  allowsPlain : Bool
  /-- In single quotes. -/
  allowsSingle : Bool
  deriving DecidableEq, Repr

/-- Whether a character ends a line in written text. -/
def isWrittenBreak (c : Char) : Bool :=
  c == '\n' || c == '\x85' || c == '\u2028' || c == '\u2029'

/-- Whether a character can be written only as an escape. -/
def isSpecial (c : Char) : Bool :=
  let n := c.toNat
  !(n == 0x0A || (0x20 ≤ n && n ≤ 0x7E)) &&
    !((n == 0x85 || (0xA0 ≤ n && n ≤ 0xD7FF) || (0xE000 ≤ n && n ≤ 0xFFFD) ||
        (0x10000 ≤ n && n < 0x10FFFF)) && n != 0xFEFF)

/-- Whether a text without quotes would be read as something else because of the marks in it.
`afterGap` tells whether the part given follows a gap or begins the text. -/
def hasMarks (isFirst afterGap : Bool) : List Char → Bool
  | [] => false
  | c :: rest =>
    let gapFollows := isGap (rest.headD endMark)
    (if isFirst then
        ['#', ',', '[', ']', '\x7b', '\x7d', '&', '*', '!', '|', '>', '\'', '"', '%', '@',
          '`'].contains c || ((c == '?' || c == ':' || c == '-') && gapFollows)
      else (c == ':' && gapFollows) || (c == '#' && afterGap)) ||
      hasMarks false (isGap c) rest

/-- Whether a space stands next to a line break: after one, and before one. -/
def spaceBesideBreak : List Char → Bool × Bool
  | a :: b :: rest =>
    let (spaceAfter, spaceBefore) := spaceBesideBreak (b :: rest)
    (spaceAfter || (isWrittenBreak a && b == ' '), spaceBefore || (a == ' ' && isWrittenBreak b))
  | _ => (false, false)

/-- How a text may be written. -/
def formOf (cs : List Char) : Form :=
  match cs with
  | [] => ⟨true, false, true, true⟩
  | c :: _ =>
    let last := cs.getLastD c
    let isBlank (c : Char) : Bool := c == ' ' || isWrittenBreak c
    let breaks := cs.any isWrittenBreak
    let (spaceAfter, spaceBefore) := spaceBesideBreak cs
    let special := cs.any isSpecial
    let marks := hasMarks true true cs || ['-', '-', '-'].isPrefixOf cs || ['.', '.', '.'].isPrefixOf cs
    { isEmpty := false
      isMultiline := breaks
      allowsPlain :=
        !(isBlank c || isBlank last || spaceAfter || spaceBefore || special || breaks || marks)
      allowsSingle := !(spaceAfter || spaceBefore || special) }

/-! ### The pen -/

/-- What has been written so far, last character first, and where the pen stands. -/
structure Pen where
  written : List Char
  column : Nat
  /-- The last thing written is a gap. -/
  afterGap : Bool
  /-- Nothing but indentation and marks for it has been written on the line. -/
  isIndenting : Bool
  /-- The objects that have been written with their anchors. -/
  anchored : List Label

namespace Pen

/-- The pen at the beginning of a text. -/
def start : Pen := ⟨[], 0, true, true, []⟩

/-- Writes characters on the line. -/
def write (p : Pen) (cs : List Char) : Pen :=
  { p with written := cs.reverse ++ p.written, column := p.column + cs.length }

/-- Writes characters that are no gap and no indentation. -/
def writeText (p : Pen) (cs : List Char) : Pen :=
  { p.write cs with afterGap := false, isIndenting := false }

/-- Ends the line with a character. -/
def breakWith (p : Pen) (c : Char) : Pen :=
  { p with written := c :: p.written, column := 0, afterGap := true, isIndenting := true }

/-- Goes to an indentation, on a new line if need be. -/
def indent (p : Pen) (column : Nat) : Pen :=
  let p :=
    if !p.isIndenting || column < p.column || (p.column == column && !p.afterGap) then
      p.breakWith '\n'
    else p
  if p.column < column then
    { p.write (List.replicate (column - p.column) ' ') with afterGap := true }
  else p

/-- Writes a mark, after a gap if one is needed. `keepsIndenting` tells whether a block may begin
right behind it. -/
def mark (p : Pen) (cs : List Char) (needsGap leavesGap keepsIndenting : Bool) : Pen :=
  let cs := if p.afterGap || !needsGap then cs else ' ' :: cs
  { p.write cs with afterGap := leavesGap, isIndenting := p.isIndenting && keepsIndenting }

/-- The width at which lines are folded. -/
def width : Nat := 80

/-- The runs of a text: of spaces, of line breaks, and of other characters. -/
def runs : List Char → List (List Char)
  | [] => []
  | c :: rest =>
    let kind (c : Char) : Nat := if c == ' ' then 0 else if isWrittenBreak c then 1 else 2
    match runs rest with
    | (d :: ds) :: more => if kind c == kind d then (c :: d :: ds) :: more else [c] :: (d :: ds) :: more
    | more => [c] :: more

/-- Writes a text without quotes. -/
def plain (p : Pen) (cs : List Char) (column : Nat) (folds : Bool) : Pen :=
  let p := if p.afterGap || cs.isEmpty then p else p.write [' ']
  (runs cs).foldl
    (fun p run =>
      if run = [' '] ∧ width < p.column ∧ folds then
        { p.indent column with afterGap := false, isIndenting := false }
      else p.writeText run)
    { p with afterGap := false, isIndenting := false }

/-- Writes the inside of a text in single quotes. -/
def singleRuns (column : Nat) (folds : Bool) : Bool → List (List Char) → Pen → Pen
  | _, [], p => p
  | isFirst, run :: rest, p =>
    let p :=
      match run with
      | [' '] =>
        if width < p.column && folds && !isFirst && !rest.isEmpty then p.indent column
        else p.write run
      | c :: _ =>
        if isWrittenBreak c then
          let p := if c == '\n' then p.breakWith '\n' else p
          (run.foldl breakWith p).indent column
        else p.write (run.flatMap fun c => if c == '\'' then ['\'', '\''] else [c])
      | [] => p
    singleRuns column folds false rest p

/-- Writes a text in single quotes. -/
def single (p : Pen) (cs : List Char) (column : Nat) (folds : Bool) : Pen :=
  (singleRuns column folds true (runs cs) (p.mark ['\''] true false false)).mark ['\''] false false
    false

/-- The letters that stand for characters after a backslash. -/
def letters : List (Nat × Char) :=
  [(0x00, '0'), (0x07, 'a'), (0x08, 'b'), (0x09, 't'), (0x0A, 'n'), (0x0B, 'v'), (0x0C, 'f'),
    (0x0D, 'r'), (0x1B, 'e'), (0x22, '"'), (0x5C, '\\'), (0x85, 'N'), (0xA0, '_'), (0x2028, 'L'),
    (0x2029, 'P')]

/-- A number in base sixteen in capital letters. -/
def hex (width n : Nat) : List Char :=
  let digits := (Nat.toDigits 16 n).map Char.toUpper
  List.replicate (width - digits.length) '0' ++ digits

/-- A code after a backslash. -/
def escape (n : Nat) : List Char :=
  match letters.lookup n with
  | some l => ['\\', l]
  | none =>
    if n ≤ 0xFF then '\\' :: 'x' :: hex 2 n
    else if n ≤ 0xFFFF then '\\' :: 'u' :: hex 4 n
    else '\\' :: 'U' :: hex 8 n

/-- Whether a code is escaped inside double quotes. -/
def isEscaped (n : Nat) : Bool :=
  [0x22, 0x5C, 0x85, 0x2028, 0x2029, 0xFEFF].contains n ||
    !((0x20 ≤ n && n ≤ 0x7E) || (0xA0 ≤ n && n ≤ 0xD7FF) || (0xE000 ≤ n && n ≤ 0xFFFD))

/-- The code of a space. -/
def space : Nat := 0x20

/-- Folds a line inside double quotes, where a backslash joins it to the next one. -/
def foldDouble (p : Pen) (column : Nat) (following : Option Nat) : Pen :=
  let p := { (p.write ['\\']).indent column with afterGap := false, isIndenting := false }
  if following == some space then p.write ['\\'] else p

/-- Writes the inside of a text in double quotes, given its codes. `held` is what has been read but
not written, last character first. -/
def doubleBody (column : Nat) (folds : Bool) : Bool → List Char → List Nat → Pen → Pen
  | _, held, [], p => p.write held.reverse
  | isFirst, held, n :: rest, p =>
    let mayFold := !isFirst && !rest.isEmpty && folds
    if isEscaped n then
      let p := (p.write held.reverse).write (escape n)
      let p := if mayFold && width + 1 < p.column then p.foldDouble column rest.head? else p
      doubleBody column folds false [] rest p
    else if mayFold && (n == space || held.isEmpty) && width < p.column + held.length then
      doubleBody column folds false [Char.ofNat n] rest
        ((p.write held.reverse).foldDouble column (some n))
    else doubleBody column folds false (Char.ofNat n :: held) rest p

/-- Writes a text in double quotes, given its codes. -/
def double (p : Pen) (codes : List Nat) (column : Nat) (folds : Bool) : Pen :=
  (doubleBody column folds true [] codes (p.mark ['"'] true false false)).mark ['"'] false false
    false

/-- Writes a text: plainly if it is a text of that form and nothing else, in single quotes if
these can hold it, and in double quotes otherwise. -/
def text (p : Pen) (s : String) (column : Nat) (isKey : Bool) : Pen :=
  let cs := s.toList
  let form := formOf cs
  let folds := !isKey
  if Scalar.kind s = .text ∧ form.allowsPlain ∧ !(isKey && (form.isEmpty || form.isMultiline)) then
    p.plain cs column folds
  else if form.allowsSingle ∧ !(isKey && form.isMultiline) then p.single cs column folds
  else p.double (cs.map Char.toNat) column folds

/-- How many characters of encoded bytes stand on a line. -/
def lineOfBytes : Nat := 76

/-- Writes bytes on lines of their own, encoded. -/
def bytes (p : Pen) (bytes : List UInt8) (column : Nat) : Pen :=
  let p := p.mark "!!binary".toList true false false
  let lines (cs : List Char) : List (List Char) :=
    (List.range ((cs.length + lineOfBytes - 1) / lineOfBytes)).map fun i =>
      (cs.drop (i * lineOfBytes)).take lineOfBytes
  if bytes.isEmpty then p.double [] column false
  else
    ((lines (Text.Base64.encode bytes)).foldl
      (fun p line => (p.indent column).writeText line)
      ((p.mark ['|'] true false false).breakWith '\n')).breakWith '\n'

end Pen

/-! ### Values -/

/-- The written form of a number with a fraction: an exponent follows a point. -/
def floatText (x : Binary64) : String :=
  match x with
  | .nan => ".nan"
  | .infinite s => if s then "-.inf" else ".inf"
  | x =>
    let cs := x.toText.toList
    if !cs.contains '.' && cs.contains 'e' then
      String.ofList (cs.takeWhile (· != 'e') ++ ['.', '0'] ++ cs.dropWhile (· != 'e'))
    else x.toText

/-- The written form of a scalar that is no text and no bytes, and the length of its tag. -/
def scalarText? : Value → Option (String × Nat)
  | .null => some ("null", 6)
  | .bool b => some (if b then "true" else "false", 6)
  | .int n => some (toString n, 5)
  | .float x => some (floatText x, 7)
  | .stamp s => some (s.toText, 11)
  | _ => none

/-- The length of the tag of a text. -/
def textTagLength : Nat := 5

/-- A key that is written on one line with its value is shorter than this. -/
def simpleKeyLimit : Nat := 128

/-- Whether a scalar may be written as a key on one line with its value, behind an anchor of some
length. -/
def isSimpleScalar (anchor : Nat) (key : Value) : Bool :=
  match scalarText? key with
  | some (s, tag) => anchor + s.length + tag < simpleKeyLimit
  | none =>
    match key with
    | .text s =>
      let form := formOf s.toList
      s.length + textTagLength < simpleKeyLimit && !form.isEmpty && !form.isMultiline
    | .damaged codes =>
      codes.length + textTagLength < simpleKeyLimit &&
        !(codes.any fun n => isWrittenBreak (Char.ofNat n))
    | _ => false

/-- Writes a scalar. -/
def writeScalar (p : Pen) (v : Value) (column : Nat) (isKey : Bool) : Pen :=
  match scalarText? v with
  | some (s, _) => p.plain s.toList column !isKey
  | none =>
    match v with
    | .text s => p.text s column isKey
    | .damaged codes => p.double codes column !isKey
    | .binary b => p.bytes b column
    | _ => p

/-- The name of the anchor with a number. -/
def anchorName (n : Nat) : String := "id" ++ Stamp.padded 3 n

/-- What is written in the place of an object: the name of its anchor if it stands at several
places, and whether that has been written before. -/
def anchorOf (numbers : List (Label × Nat)) (p : Pen) (label : Option Label) :
    Option (Label × String × Bool) := do
  let l ← label
  let n ← numbers.lookup l
  return (l, anchorName n, p.anchored.contains l)

/-- Writes an object: an alias if it has been written before, and else its anchor, if it needs one,
and what it holds. -/
def writeAnchored (numbers : List (Label × Nat)) (label : Option Label) (body : Pen → Pen)
    (p : Pen) : Pen :=
  match anchorOf numbers p label with
  | some (_, name, true) => p.mark ('*' :: name.toList) true false false
  | some (l, name, false) =>
    let p := p.mark ('&' :: name.toList) true false false
    body { p with anchored := l :: p.anchored }
  | none => body p

/-- Whether a key may be written on one line with its value. -/
def isSimpleKey (numbers : List (Label × Nat)) (p : Pen) : Outline → Bool
  | .scalar label v =>
    match anchorOf numbers p label with
    | some (_, _, true) => true
    | some (_, name, false) => isSimpleScalar name.length v
    | none => isSimpleScalar 0 v
  | .alias _ => true
  | _ => false

mutual
/-- Writes an outline behind a mark at an indentation. `inMapping` tells whether the mark belongs to
a mapping: a list goes on at its indentation if it does not begin right behind the mark. -/
def writeOutline (numbers : List (Label × Nat)) (column : Nat) (inMapping isKey : Bool) :
    Outline → Pen → Pen
  | .scalar label v, p =>
    writeAnchored numbers label (fun p => writeScalar p v (column + 2) isKey) p
  | .alias label, p => writeAnchored numbers (some label) id p
  | .sequence label items, p =>
    writeAnchored numbers label
      (fun p =>
        if items.isEmpty then (p.mark ['['] true true false).mark [']'] false false false
        else
          writeItems numbers (if inMapping && !p.isIndenting then column else column + 2) items p)
      p
  | .mapping label isSet entries, p =>
    writeAnchored numbers label
      (fun p =>
        let p := if isSet then p.mark "!!set".toList true false false else p
        if entries.isEmpty then
          (p.mark ['\x7b'] true true false).mark ['\x7d'] false false false
        else writeEntries numbers (column + 2) entries p)
      p
termination_by structural o => o

/-- Writes the items of a list at an indentation. -/
def writeItems (numbers : List (Label × Nat)) (column : Nat) : List Outline → Pen → Pen
  | [], p => p
  | x :: xs, p =>
    writeItems numbers column xs
      (writeOutline numbers column false false x ((p.indent column).mark ['-'] true false true))
termination_by structural o => o

/-- Writes the entries of a table at an indentation. -/
def writeEntries (numbers : List (Label × Nat)) (column : Nat) :
    List (Outline × Outline) → Pen → Pen
  | [], p => p
  | e :: es, p => writeEntries numbers column es (writeEntry numbers column e p)
termination_by structural o => o

/-- Writes an entry of a table at an indentation. -/
def writeEntry (numbers : List (Label × Nat)) (column : Nat) : Outline × Outline → Pen → Pen
  | (k, v), p =>
    let p := p.indent column
    let p :=
      if isSimpleKey numbers p k then
        (writeOutline numbers column true true k p).mark [':'] false false false
      else
        let p := writeOutline numbers column true false k (p.mark ['?'] true false true)
        (p.indent column).mark [':'] true false true
    writeOutline numbers column true false v p
termination_by structural o => o
end

/-- The text of a table as a document. -/
def write (entries : Fields) : String :=
  let outlined := Outline.ofFields entries
  let numbers := Outline.numbersOf outlined
  let p :=
    if outlined.isEmpty then
      (Pen.start.mark ['\x7b'] true true false).mark ['\x7d'] false false false
    else writeEntries numbers 0 outlined Pen.start
  String.ofList (p.indent 0).written.reverse

end TextAdventure.Yaml
