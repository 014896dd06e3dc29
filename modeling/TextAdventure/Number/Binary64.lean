/-!
# Binary floating point numbers of 64 bits

The numbers with a fraction that a document may hold. A finite number is a sign, a whole
mantissa below `2 ^ 53` and an exponent of two; `ofRatio` rounds a quotient to the nearest such
number, a tie going to the even mantissa. All of it is exact arithmetic on whole numbers.

Every finite number that `ofRatio` builds is in its one standard form: the mantissa is at least
`2 ^ 52`, or the exponent is the least one, `-1074`.
-/

namespace TextAdventure

/-- A binary floating point number of 64 bits. -/
inductive Binary64 where
  | nan
  | infinite (negative : Bool)
  | finite (negative : Bool) (mantissa : Nat) (exponent : Int)
  deriving DecidableEq, Repr

namespace Binary64

/-- The least exponent of two. -/
def minExponent : Int := -1074

/-- The greatest exponent of two. -/
def maxExponent : Int := 971

/-- The least mantissa of 53 binary digits. -/
def leastMantissa : Nat := 0x10000000000000

/-- A power of two times a quotient, again as a quotient. -/
def scale (num den : Nat) (exponent : Int) : Nat × Nat :=
  if 0 ≤ exponent then (num * Nat.pow 2 exponent.toNat, den)
  else (num, den * Nat.pow 2 (-exponent).toNat)

/-- The whole number nearest to a quotient, a tie going to the even one. -/
def roundEven (num den : Nat) : Nat :=
  let quotient := num / den
  let rest := num % den
  if 2 * rest < den then quotient
  else if den < 2 * rest then quotient + 1
  else quotient + quotient % 2

/-- The number nearest to `num / den`, a tie going to the even mantissa. -/
def ofRatio (negative : Bool) (num den : Nat) : Binary64 :=
  if num = 0 then .finite negative 0 minExponent
  else
    let guess : Int := (num.log2 : Int) - (den.log2 : Int) - 52
    let (n, d) := scale num den (-guess)
    let exponent := max minExponent (if n < leastMantissa * d then guess - 1 else guess)
    let (n, d) := scale num den (-exponent)
    let mantissa := roundEven n d
    let (mantissa, exponent) :=
      if mantissa = 2 * leastMantissa then (leastMantissa, exponent + 1) else (mantissa, exponent)
    if maxExponent < exponent then .infinite negative else .finite negative mantissa exponent

/-- The number nearest to `digits * 10 ^ exponent`. -/
def ofDecimal (negative : Bool) (digits : Nat) (exponent : Int) : Binary64 :=
  let size : Int := (Nat.toDigits 10 digits).length + exponent
  if digits = 0 ∨ size < -400 then .finite negative 0 minExponent
  else if 400 < size then .infinite negative
  else if 0 ≤ exponent then ofRatio negative (digits * Nat.pow 10 exponent.toNat) 1
  else ofRatio negative digits (Nat.pow 10 (-exponent).toNat)

/-- The size of a finite number as a quotient. -/
def ratio (mantissa : Nat) (exponent : Int) : Nat × Nat := scale mantissa 1 exponent

/-- The whole part of a finite number; the fraction is cut off. -/
def truncate? : Binary64 → Option Int
  | .finite negative mantissa exponent =>
    let (n, d) := ratio mantissa exponent
    some (if negative then -(n / d : Nat) else (n / d : Nat))
  | _ => none

/-- The whole number that is equal to a number, if there is one. -/
def toInt? : Binary64 → Option Int
  | .finite negative mantissa exponent =>
    let (n, d) := ratio mantissa exponent
    if n % d = 0 then some (if negative then -(n / d : Nat) else (n / d : Nat)) else none
  | _ => none

/-- The opposite number. -/
def neg : Binary64 → Binary64
  | .nan => .nan
  | .infinite s => .infinite (!s)
  | .finite s m e => .finite (!s) m e

/-- Whether a number is zero, of either sign. -/
def isZero : Binary64 → Bool
  | .finite _ m _ => m == 0
  | _ => false

/-- Equality as numbers: the two zeros are equal, and what is no number equals nothing. -/
def equals (a b : Binary64) : Bool :=
  match a, b with
  | .infinite s, .infinite t => s == t
  | .finite s m e, .finite t n f =>
    (m == 0 && n == 0) || (s == t && m == n && e == f)
  | _, _ => false

/-- A finite number as a quotient with a sign. -/
def signedRatio (negative : Bool) (mantissa : Nat) (exponent : Int) : Int × Nat :=
  let (n, d) := ratio mantissa exponent
  (if negative then -(n : Int) else n, d)

/-- The number nearest to the sum of two numbers. -/
def add : Binary64 → Binary64 → Binary64
  | .finite s m e, .finite t n f =>
    let (p, q) := signedRatio s m e
    let (p', q') := signedRatio t n f
    let sum := p * q' + p' * q
    ofRatio (if sum = 0 then s && t else sum < 0) sum.natAbs (q * q')
  | .infinite s, .infinite t => if s = t then .infinite s else .nan
  | .infinite s, .finite .. => .infinite s
  | .finite .., .infinite t => .infinite t
  | _, _ => .nan

/-- The number nearest to a number times a whole number that is not zero, which is first rounded
itself. -/
def times (x : Binary64) (factor : Nat) : Binary64 :=
  match x, ofRatio false factor 1 with
  | .finite s m e, .finite _ n f =>
    let (p, q) := ratio m e
    let (p', q') := ratio n f
    ofRatio s (p * p') (q * q')
  | .finite s m _, _ => if m = 0 then .nan else .infinite s
  | x, _ => x

/-- Whether a number lies strictly below another one, both finite or infinite. -/
def less (a b : Binary64) : Bool :=
  let value : Binary64 → Int × Nat
    | .finite s m e => signedRatio s m e
    | _ => (0, 1)
  match a, b with
  | .nan, _ | _, .nan => false
  | .infinite s, .infinite t => s && !t
  | .infinite s, _ => s
  | _, .infinite t => !t
  | a, b => let (n, d) := value a; let (n', d') := value b; n * d' < n' * d

/-! ### Shortest decimal form -/

/-- The exponent of ten of the leading digit of a number that is not zero. -/
def leadingExponent (mantissa : Nat) (exponent : Int) : Int :=
  let (n, d) := ratio mantissa exponent
  (Nat.toDigits 10 (n * Nat.pow 10 330 / d)).length - 331

/-- The decimal with `count` digits that lies nearest to a number among those that read back as
the number, a tie going to the even digit, as digits and exponent of ten. -/
def decimalOfLength? (mantissa : Nat) (exponent : Int) (count : Nat) : Option (Nat × Int) :=
  let place := leadingExponent mantissa exponent - count + 1
  let (n, d) := ratio mantissa exponent
  let (n, d) := if 0 ≤ place then (n, d * Nat.pow 10 place.toNat) else (n * Nat.pow 10 (-place).toNat, d)
  let below := n / d
  let reads (digits : Nat) : Bool := ofDecimal false digits place == .finite false mantissa exponent
  let nearer := roundEven n d
  let farther := if nearer = below then below + 1 else below
  if reads nearer then some (nearer, place)
  else if reads farther then some (farther, place)
  else none

/-- The decimal with the fewest digits that reads back as the number; seventeen always do. -/
def shortestDecimal (mantissa : Nat) (exponent : Int) : Nat × Int :=
  ((List.range 17).findSome? fun i => decimalOfLength? mantissa exponent (i + 1)).getD (mantissa, 0)

/-- The written form of a number: digits are positional between `0.0001` and `10 ^ 16` and have
an exponent of at least two digits elsewhere; a whole number ends in `.0` in positional form. -/
def toText : Binary64 → String
  | .nan => "nan"
  | .infinite s => if s then "-inf" else "inf"
  | .finite s m e =>
    let sign := if s then "-" else ""
    if m = 0 then sign ++ "0.0"
    else
      let (digits, place) := shortestDecimal m e
      let all := Nat.toDigits 10 digits
      let cs := (all.reverse.dropWhile (· = '0')).reverse
      let place := place + (all.length - cs.length : Nat)
      let lead := place + cs.length - 1
      if -4 ≤ lead ∧ lead < 16 then
        let body :=
          if 0 ≤ place then cs ++ List.replicate place.toNat '0' ++ ['.', '0']
          else if 0 ≤ lead then
            cs.take (lead.toNat + 1) ++ '.' :: cs.drop (lead.toNat + 1)
          else '0' :: '.' :: List.replicate ((-lead).toNat - 1) '0' ++ cs
        sign ++ String.ofList body
      else
        let exponent := (Nat.toDigits 10 lead.natAbs)
        let exponent := if exponent.length < 2 then '0' :: exponent else exponent
        let fraction := if cs.length ≤ 1 then [] else '.' :: cs.drop 1
        sign ++ String.ofList
          (cs.take 1 ++ fraction ++ 'e' :: (if lead < 0 then '-' else '+') :: exponent)

/-! ### Decimal notation -/

/-- Reads decimal notation: digits with at most one point among them, and after `e` or `E` an
exponent that may have a sign. The sign of the whole is given apart. -/
def ofNotation? (negative : Bool) (cs : List Char) : Option Binary64 :=
  let isDigit (c : Char) : Bool := '0' ≤ c && c ≤ '9'
  let number (ds : List Char) : Nat := ds.foldl (fun n c => n * 10 + (c.toNat - '0'.toNat)) 0
  let whole := cs.takeWhile isDigit
  let rest := cs.dropWhile isDigit
  let (fraction, rest) :=
    match rest with
    | '.' :: r => (r.takeWhile isDigit, r.dropWhile isDigit)
    | r => ([], r)
  if whole.isEmpty && fraction.isEmpty then none
  else
    let build (exponent : Int) : Option Binary64 :=
      some (ofDecimal negative (number (whole ++ fraction)) (exponent - fraction.length))
    match rest with
    | [] => build 0
    | c :: r =>
      if c = 'e' ∨ c = 'E' then
        let (minus, ds) :=
          match r with
          | '-' :: ds => (true, ds)
          | '+' :: ds => (false, ds)
          | ds => (false, ds)
        if ds.isEmpty || !ds.all isDigit then none
        else build (if minus then -(number ds : Int) else number ds)
      else none

end Binary64

end TextAdventure
