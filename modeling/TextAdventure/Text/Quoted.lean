import TextAdventure.Text.Codes
import TextAdventure.Text.Printable

/-!
# Quoted texts

The quoted form of a text, as it stands inside a displayed list or table and in the report of a
missing key. The quotes are single ones, unless the text holds single quotes and no double ones.
-/

namespace TextAdventure.Text

/-- The last `width` digits of a number in base sixteen, in small letters. -/
def hexDigits (width n : Nat) : List Char :=
  let digits := Nat.toDigits 16 n
  List.replicate (width - digits.length) '0' ++ digits

/-- One character inside quotes of the kind `quote`. -/
def quoteChar (quote c : Char) : List Char :=
  if c = quote ∨ c = '\\' then ['\\', c]
  else if c = '\n' then ['\\', 'n']
  else if c = '\r' then ['\\', 'r']
  else if c = '\t' then ['\\', 't']
  else if isPrintable c then [c]
  else if c.toNat < 0x100 then '\\' :: 'x' :: hexDigits 2 c.toNat
  else if c.toNat < 0x10000 then '\\' :: 'u' :: hexDigits 4 c.toNat
  else '\\' :: 'U' :: hexDigits 8 c.toNat

/-- The quote that a text is written with. -/
def quoteFor (cs : List Char) : Char :=
  if cs.contains '\'' && !cs.contains '"' then '"' else '\''

/-- A text in quotes. -/
def quoted (s : String) : String :=
  let cs := s.toList
  let q := quoteFor cs
  String.ofList (q :: cs.flatMap (quoteChar q) ++ [q])

/-- A text with halves among its codes in quotes. -/
def quotedCodes (codes : List Nat) : String :=
  let q := quoteFor ((codes.filter fun n => !isHalf n).map Char.ofNat)
  let shown (n : Nat) : List Char :=
    if isHalf n then '\\' :: 'u' :: hexDigits 4 n else quoteChar q (Char.ofNat n)
  String.ofList (q :: codes.flatMap shown ++ [q])

end TextAdventure.Text
