/-!
# Base64

Bytes as texts of 64 different characters, six bits each, with `=` to fill up the last group of
four. Reading is lenient: characters that do not belong to the alphabet are passed over, and what
follows a filled group is not read.
-/

namespace TextAdventure.Text

namespace Base64

/-- The characters for six bits each, in order. -/
def alphabet : List Char :=
  "ABCDEFGHIJKLMNOPQRSTUVWXYZabcdefghijklmnopqrstuvwxyz0123456789+/".toList

/-- The six bits that a character stands for. -/
def value? (c : Char) : Option Nat := alphabet.idxOf? c

/-- The character for six bits. -/
def letter (n : Nat) : Char := alphabet.getD (n % 64) '='

/-- Reads characters on. `count` characters of the current group have been read; `bits` is what is
left of them, less than a byte; `fills` counts the fill characters since the last one that was
read. -/
def decodeFrom : Nat → Nat → Nat → List Char → Option (List UInt8)
  | count, _, _, [] => if count = 0 then some [] else none
  | count, bits, fills, c :: rest =>
    if c = '=' then
      if count < 2 then decodeFrom count bits fills rest
      else if 4 ≤ count + fills + 1 then some []
      else decodeFrom count bits (fills + 1) rest
    else
      match value? c with
      | none => decodeFrom count bits fills rest
      | some n =>
        match count with
        | 0 => decodeFrom 1 n 0 rest
        | 1 => (decodeFrom 2 (n % 16) 0 rest).map (UInt8.ofNat (bits * 4 + n / 16) :: ·)
        | 2 => (decodeFrom 3 (n % 4) 0 rest).map (UInt8.ofNat (bits * 16 + n / 4) :: ·)
        | _ => (decodeFrom 0 0 0 rest).map (UInt8.ofNat (bits * 64 + n) :: ·)

/-- The bytes that a text stands for; `none` if its last group is not complete. -/
def decode? (cs : List Char) : Option (List UInt8) := decodeFrom 0 0 0 cs

/-- The characters for bytes. -/
def encode : List UInt8 → List Char
  | a :: b :: c :: rest =>
    let n := (a.toNat * 256 + b.toNat) * 256 + c.toNat
    letter (n / 262144) :: letter (n / 4096) :: letter (n / 64) :: letter n :: encode rest
  | [a, b] =>
    let n := (a.toNat * 256 + b.toNat) * 4
    [letter (n / 4096), letter (n / 64), letter n, '=']
  | [a] =>
    let n := a.toNat * 16
    [letter (n / 64), letter n, '=', '=']
  | [] => []

end Base64

end TextAdventure.Text
