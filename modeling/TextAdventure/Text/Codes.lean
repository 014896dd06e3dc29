/-!
# Texts by their codes

A text is a row of character codes. The codes between `0xD800` and `0xDFFF` are no characters: they
are halves, two of which stand for one character elsewhere. A document may ask for such codes by
their numbers.
-/

namespace TextAdventure.Text

/-- Whether a code is one of the halves. -/
def isHalf (code : Nat) : Bool := 0xD800 ≤ code && code ≤ 0xDFFF

/-- The character that two halves stand for, if the first one is an upper half and the second one a
lower half. -/
def join? (upper lower : Nat) : Option Char :=
  if 0xD800 ≤ upper && upper < 0xDC00 && 0xDC00 ≤ lower && lower < 0xE000 then
    some (Char.ofNat (0x10000 + (upper - 0xD800) * 0x400 + (lower - 0xDC00)))
  else none

/-- The characters with the given codes: two halves that fit are the character they stand for, and a
mark is in place of every other half. -/
def shownCodes : List Nat → List Char
  | m :: n :: rest =>
    match join? m n with
    | some c => c :: shownCodes rest
    | none => (if isHalf m then '\uFFFD' else Char.ofNat m) :: shownCodes (n :: rest)
  | [n] => [if isHalf n then '\uFFFD' else Char.ofNat n]
  | [] => []

/-- The text with the given codes as it is shown. -/
def ofCodes (codes : List Nat) : String := String.ofList (shownCodes codes)

/-- The text with the given codes, with a mark for every byte that a half would take. -/
def replacingHalves (codes : List Nat) : String :=
  String.ofList (codes.flatMap fun n =>
    if isHalf n then List.replicate 3 '\uFFFD' else [Char.ofNat n])

/-- The text with the given codes, if all of them are characters. -/
def ofCodes? (codes : List Nat) : Option String :=
  if codes.any isHalf then none else some (ofCodes codes)

end TextAdventure.Text
