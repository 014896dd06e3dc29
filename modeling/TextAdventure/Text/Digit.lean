import TextAdventure.Text.Blank

/-!
# Digits and written integers

Decimal digits of any script, and the two ways in which the program reads an integer from a
text: `readIntIn?`, which takes digits of every script and any base, and `readPlainInt`, which takes
ASCII digits only and allows a fraction of zeros.
-/

namespace TextAdventure.Text

/-- The zero digits of the scripts that have decimal digits; nine more digits follow each. -/
def zeroDigits : List Nat :=
  [0x0030, 0x0660, 0x06F0, 0x07C0, 0x0966, 0x09E6, 0x0A66, 0x0AE6, 0x0B66, 0x0BE6, 0x0C66,
    0x0CE6, 0x0D66, 0x0DE6, 0x0E50, 0x0ED0, 0x0F20, 0x1040, 0x1090, 0x17E0, 0x1810, 0x1946,
    0x19D0, 0x1A80, 0x1A90, 0x1B50, 0x1BB0, 0x1C40, 0x1C50, 0xA620, 0xA8D0, 0xA900, 0xA9D0,
    0xA9F0, 0xAA50, 0xABF0, 0xFF10, 0x104A0, 0x10D30, 0x11066, 0x110F0, 0x11136, 0x111D0,
    0x112F0, 0x11450, 0x114D0, 0x11650, 0x116C0, 0x11730, 0x118E0, 0x11950, 0x11C50, 0x11D50,
    0x11DA0, 0x16A60, 0x16AC0, 0x16B50, 0x1D7CE, 0x1D7D8, 0x1D7E2, 0x1D7EC, 0x1D7F6, 0x1E140,
    0x1E2F0, 0x1E950, 0x1FBF0]

/-- The value of a decimal digit of any script. -/
def digitValue? (c : Char) : Option Nat :=
  (zeroDigits.find? fun z => z ≤ c.toNat && c.toNat < z + 10).map (c.toNat - ·)

/-- The value of an ASCII digit. -/
def asciiDigitValue? (c : Char) : Option Nat :=
  if '0' ≤ c ∧ c ≤ '9' then some (c.toNat - '0'.toNat) else none

/-- The value of a digit in base sixteen. -/
def hexDigitValue? (c : Char) : Option Nat :=
  if '0' ≤ c ∧ c ≤ '9' then some (c.toNat - '0'.toNat)
  else if 'a' ≤ c ∧ c ≤ 'f' then some (c.toNat - 'a'.toNat + 10)
  else if 'A' ≤ c ∧ c ≤ 'F' then some (c.toNat - 'A'.toNat + 10)
  else none

/-- The number that a row of digits writes in a base; `none` if the row is empty or holds
something else. -/
def readDigits? (value? : Char → Option Nat) (base : Nat) (cs : List Char) : Option Nat :=
  if cs.isEmpty then none
  else cs.foldlM (fun n c => (value? c).map (n * base + ·)) 0

/-- Digits with single underscores between them, without these; `none` if an underscore stands
at an end or beside another one. -/
def dropUnderscores? : List Char → Option (List Char)
  | [] => some []
  | '_' :: _ => none
  | c :: '_' :: d :: rest => if d = '_' then none else (dropUnderscores? (d :: rest)).map (c :: ·)
  | [_, '_'] => none
  | c :: rest => (dropUnderscores? rest).map (c :: ·)

/-- A sign, if there is one, and what follows it. -/
def splitSign : List Char → Bool × List Char
  | '-' :: rest => (true, rest)
  | '+' :: rest => (false, rest)
  | rest => (false, rest)

/-- The longest row of digits that is read as an integer, or written for one. -/
def maxDigits : Nat := 4300

/-- Whether an integer can be written in decimal digits. -/
def isWritable (n : Int) : Bool := Nat.blt n.natAbs (Nat.pow 10 maxDigits)

/-- The value of a digit of a base: a decimal digit of any script or an ASCII letter. -/
def baseDigitValue? (base : Nat) (c : Char) : Option Nat :=
  ((digitValue? c).orElse fun _ => hexDigitValue? c).filter (· < base)

/-- The letters that tell a base behind a leading zero. -/
def baseMarks : Nat → List Char
  | 2 => ['b', 'B']
  | 8 => ['o', 'O']
  | 16 => ['x', 'X']
  | _ => []

/-- What follows the mark of the base, if there is one; an underscore may follow the mark. -/
def dropBaseMark (base : Nat) (cs : List Char) : List Char :=
  match cs with
  | '0' :: mark :: rest =>
    if (baseMarks base).contains mark then
      match rest with
      | '_' :: more => more
      | more => more
    else cs
  | _ => cs

/-- Reads an integer in a base: white space around it, one sign, the mark of the base, digits with
single underscores between them. In base ten there is a greatest length. -/
def readIntIn? (base : Nat) (s : String) : Option Int := do
  let (negative, body) := splitSign (trim isWhiteSpace s.toList)
  let digits ← dropUnderscores? (dropBaseMark base body)
  if base = 10 ∧ maxDigits < digits.length then none
  else
    let n ← readDigits? (baseDigitValue? base) base digits
    some (if negative then -n else n)

/-- Reads an integer in base ten. -/
def readInt? (s : String) : Option Int := readIntIn? 10 s

/-- What reading a plainly written integer gives. -/
inductive PlainInt where
  | read (n : Int)
  | unreadable
  | tooLong
  deriving DecidableEq, Repr

/-- A row of digits without the zeros and underscores in front of it. Of zeros and underscores only
the last one stays, and of those before a point as well. -/
def dropZeros? : List Char → Option (List Char)
  | '0' :: rest =>
    let isZero (c : Char) : Bool := c == '0' || c == '_'
    let zeros := '0' :: rest.takeWhile isZero
    let last := zeros.drop (zeros.length - 1)
    match rest.dropWhile isZero with
    | [] => some last
    | c :: more =>
      if ('1' ≤ c ∧ c ≤ '9') ∨ c = '-' then some (c :: more)
      else if c = '.' then some (last ++ c :: more)
      else none
  | cs => some cs

/-- A row of digits without the fraction of zeros that may follow it: `5.00` becomes `5`. The
fraction needs at least one zero. -/
def dropZeroFraction (cs : List Char) : List Char :=
  match cs.dropWhile (· ≠ '.') with
  | '.' :: '0' :: zeros =>
    if zeros.all (· = '0') then cs.takeWhile (· ≠ '.') else cs
  | _ => cs

/-- The value of ASCII digits with at most a minus before them and no zero that is not needed. -/
def readStrictDigits? (cs : List Char) : Option Int :=
  let (negative, digits) :=
    match cs with
    | '-' :: rest => (true, rest)
    | cs => (false, cs)
  let superfluous := digits.head? == some '0' && 1 < digits.length
  if superfluous then none
  else (readDigits? asciiDigitValue? 10 digits).map fun n => if negative then -n else n

/-- Whether a text begins with more digits than are read as an integer; a minus counts as one. -/
def startsTooLong (cs : List Char) : Bool :=
  let digits :=
    match cs with
    | '-' :: rest => rest
    | cs => cs
  let run := digits.takeWhile fun c => (asciiDigitValue? c).isSome
  run.head? != some '0' && maxDigits < run.length + (cs.length - digits.length)

/-- An integer's text without what does not count: white space, a plus, zeros in front, a fraction
of zeros, and single underscores. -/
def cleanInt? (cs : List Char) : Option (List Char) :=
  let starts (cs : List Char) : Bool := cs.head?.any fun c => c == '-' || (asciiDigitValue? c).isSome
  let unsigned :=
    match trim isWhiteSpace cs with
    | '+' :: '-' :: _ => none
    | '+' :: rest => some rest
    | cs => some cs
  (((unsigned.filter starts).bind dropZeros?).map dropZeroFraction).map fun ds =>
    (dropUnderscores? ds).getD ds

/-- Reads an integer as the fields of worlds and records hold it: white space around it, one
sign, ASCII digits with single underscores between them, and a fraction of zeros. -/
def readPlainInt (s : String) : PlainInt :=
  let cleaned := cleanInt? s.toList
  if startsTooLong s.toList || cleaned.any startsTooLong then .tooLong
  else
    match cleaned.bind readStrictDigits? with
    | some n => .read n
    | none => .unreadable

end TextAdventure.Text
