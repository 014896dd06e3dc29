import TextAdventure.Text.Base64
import TextAdventure.Text.LowerCase
import TextAdventure.Text.Words
import TextAdventure.Yaml.Token

/-!
# Scalars

What a plain scalar stands for. `Scalar.kind` sorts the texts of plain scalars into kinds, by
their form alone; the functions after it read a text as a value of one kind, also where it does not
have the form of that kind.
-/

namespace TextAdventure.Yaml

namespace Scalar

/-- The kinds of plain scalars. -/
inductive Kind where
  | null
  | bool
  | int
  | float
  | stamp
  /-- The key under which other mappings are merged in. -/
  | merge
  /-- The key for the value of a mapping as a whole. -/
  | value
  /-- The marks of the notation itself, which stand for nothing. -/
  | mark
  | text
  deriving DecidableEq, Repr

/-! ### Forms -/

/-- Whether a character is an ASCII digit. -/
def isDigit (c : Char) : Bool := '0' ≤ c && c ≤ '9'

/-- Whether a character is a digit or an underscore. -/
def isDigitOrLine (c : Char) : Bool := isDigit c || c == '_'

/-- A text without its sign. -/
def unsigned (cs : List Char) : List Char := (Text.splitSign cs).2

/-- The words for null. -/
def nullWords : List String := ["~", "null", "Null", "NULL", ""]

/-- The words for the truth values. -/
def boolWords : List (String × Bool) :=
  [("yes", true), ("no", false), ("true", true), ("false", false), ("on", true), ("off", false)]

/-- The ways of writing the words for the truth values. -/
def boolSpellings : List String :=
  ["yes", "Yes", "YES", "no", "No", "NO", "true", "True", "TRUE", "false", "False", "FALSE",
    "on", "On", "ON", "off", "Off", "OFF"]

/-- Whether a part of a number in base sixty is at most 59. -/
def isSixtieth : List Char → Bool
  | [a] => isDigit a
  | [a, b] => '0' ≤ a && a ≤ '5' && isDigit b
  | _ => false

/-- Whether a text is a number in base sixty, up to a fraction. -/
def isSexagesimal (isFirst : List Char → Bool) (cs : List Char) : Bool :=
  match Text.partsAt ':' cs with
  | first :: more => isFirst first && !more.isEmpty && more.all isSixtieth
  | [] => false

/-- Whether a text writes a whole number: in base ten, two, eight, sixteen or sixty. -/
def isInt (cs : List Char) : Bool :=
  let decimal (ds : List Char) : Bool :=
    match ds with
    | d :: rest => '1' ≤ d && d ≤ '9' && rest.all isDigitOrLine
    | [] => false
  match unsigned cs with
  | ['0'] => true
  | '0' :: 'b' :: d :: rest => (d :: rest).all fun c => c == '0' || c == '1' || c == '_'
  | '0' :: 'x' :: d :: rest =>
    (d :: rest).all fun c => (Text.hexDigitValue? c).isSome || c == '_'
  | '0' :: d :: rest => (d :: rest).all fun c => ('0' ≤ c && c ≤ '7') || c == '_'
  | ds => decimal ds || isSexagesimal decimal ds

/-- Whether a text is empty or an exponent with a sign. -/
def isExponent : List Char → Bool
  | [] => true
  | e :: s :: d :: rest =>
    (e == 'e' || e == 'E') && (s == '+' || s == '-') && (d :: rest).all isDigit
  | _ => false

/-- Whether a text writes a number with a point, an infinity, or what is no number. -/
def isFloat (cs : List Char) : Bool :=
  let startsWithDigit (ds : List Char) : Bool := ds.head?.any isDigit
  let body := unsigned cs
  let whole := body.takeWhile isDigitOrLine
  let pointed :=
    match body.dropWhile isDigitOrLine with
    | '.' :: fraction => startsWithDigit whole && isExponent (fraction.dropWhile isDigitOrLine)
    | _ => false
  let bare :=
    match cs with
    | '.' :: fraction => startsWithDigit fraction && isExponent (fraction.dropWhile isDigitOrLine)
    | _ => false
  let sixty :=
    match body.dropWhile (· != '.') with
    | '.' :: fraction =>
      fraction.all isDigitOrLine &&
        isSexagesimal (fun ds => startsWithDigit ds && ds.all isDigitOrLine)
          (body.takeWhile (· != '.'))
    | _ => false
  pointed || bare || sixty || [".inf", ".Inf", ".INF"].contains (String.ofList body) ||
    [".nan", ".NaN", ".NAN"].contains (String.ofList cs)

/-- The digits at the beginning of a text, at least and at most so many, and what follows them. -/
def digits? (least most : Nat) (cs : List Char) : Option (Nat × List Char) :=
  let ds := (cs.take most).takeWhile isDigit
  if ds.length < least then none
  else (Text.readDigits? Text.asciiDigitValue? 10 ds).map fun n => (n, cs.drop ds.length)

/-- What follows a character at the beginning of a text. -/
def after? (c : Char) : List Char → Option (List Char)
  | d :: rest => if d == c then some rest else none
  | [] => none

/-- The distance from universal time at the end of a point in time, in minutes. -/
def zone? (cs : List Char) : Option (Option Int) :=
  match cs.dropWhile fun c => c == ' ' || c == '\t' with
  | [] => if cs.isEmpty then some none else none
  | ['Z'] => some (some 0)
  | s :: rest => do
    if s != '+' && s != '-' then none
    let (hours, rest) ← digits? 1 2 rest
    let minutes ←
      match rest with
      | [] => some 0
      | ':' :: rest =>
        match digits? 2 2 rest with
        | some (n, []) => some n
        | _ => none
      | _ => none
    let total : Int := hours * 60 + minutes
    return some (if s == '-' then -total else total)

/-- Reads a date or a point in time by its form; whether it is in the calendar is not asked. -/
def stamp? (cs : List Char) : Option Stamp := do
  let (year, rest) ← digits? 4 4 cs
  let (month, afterMonth) ← digits? 1 2 (← after? '-' rest)
  let (day, afterDay) ← digits? 1 2 (← after? '-' afterMonth)
  if afterDay.isEmpty then some ⟨year, month, day, none⟩
  else
    let rest ←
      match afterDay with
      | 'T' :: rest | 't' :: rest => some rest
      | c :: rest =>
        if c == ' ' || c == '\t' then some (rest.dropWhile fun c => c == ' ' || c == '\t')
        else none
      | [] => none
    let (hour, rest) ← digits? 1 2 rest
    let (minute, rest) ← digits? 2 2 (← after? ':' rest)
    let (second, rest) ← digits? 2 2 (← after? ':' rest)
    let (fraction, rest) :=
      match rest with
      | '.' :: rest => (rest.takeWhile isDigit, rest.dropWhile isDigit)
      | rest => ([], rest)
    let micro := ((fraction ++ List.replicate 6 '0').take 6).foldl
      (fun n c => n * 10 + (c.toNat - '0'.toNat)) 0
    return ⟨year, month, day, some ⟨hour, minute, second, micro, ← zone? rest⟩⟩

/-- The digits of a date in full: four for the year, two for the month and two for the day. -/
def fullDateLength : Nat := 10

/-- A text without a line feed at its end, which does not count for its form. -/
def dropLastFeed (cs : List Char) : List Char :=
  if cs.getLast? = some '\n' then cs.dropLast else cs

/-- The kind of a plain scalar. -/
def kind (s : String) : Kind :=
  let cs := if s = "\n" then s.toList else dropLastFeed s.toList
  let s := String.ofList cs
  if nullWords.contains s then .null
  else if boolSpellings.contains s then .bool
  else if isInt cs then .int
  else if isFloat cs then .float
  else if (stamp? cs).any fun st => st.clock.isSome || cs.length == fullDateLength then .stamp
  else if s = "<<" then .merge
  else if s = "=" then .value
  else if s = "!" ∨ s = "&" ∨ s = "*" then .mark
  else .text

/-! ### Values -/

/-- A text without underscores. -/
def dropLines (cs : List Char) : List Char := cs.filter (· != '_')

/-- The number that parts in base sixty make up. -/
def inBaseSixty (parts : List Int) : Int := parts.foldl (fun n p => n * 60 + p) 0

/-- Reads a text as a whole number. -/
def readInt (s : String) : Except Defect Value :=
  let (negative, body) := Text.splitSign (dropLines s.toList)
  let signed (n : Option Int) : Except Defect Value :=
    match n with
    | some n => .ok (.int (if negative then -n else n))
    | none => .error .badForm
  let inBase (base : Nat) (ds : List Char) : Option Int := Text.readIntIn? base (String.ofList ds)
  match body with
  | [] => .error .outOfRange
  | ['0'] => .ok (.int 0)
  | '0' :: 'b' :: ds => signed (inBase 2 ds)
  | '0' :: 'x' :: ds => signed (inBase 16 ds)
  | '0' :: ds => signed (inBase 8 ('0' :: ds))
  | ds =>
    if ds.contains ':' then signed (((Text.partsAt ':' ds).mapM (inBase 10)).map inBaseSixty)
    else signed (inBase 10 ds)

/-- Reads a number in decimal notation or one of the words for what is not finite: white space
around it, one sign, digits of any script. -/
def readNumber? (cs : List Char) : Option Binary64 :=
  let (negative, body) := Text.splitSign (Text.trim Text.isWhiteSpace cs)
  let word := String.ofList body
  if word = "inf" ∨ word = "infinity" then some (.infinite negative)
  else if word = "nan" then some .nan
  else
    Binary64.ofNotation? negative
      (body.map fun c => ((Text.digitValue? c).map Nat.digitChar).getD c)

/-- The number that parts in base sixty make up; `none` if there are more of them than a number with
a fraction can tell apart. The sum starts at the last part, and every product and every sum in it is
rounded. -/
def sumInBaseSixty? (parts : List Binary64) : Option Binary64 :=
  let isFinite : Binary64 → Bool
    | .finite .. => true
    | _ => false
  (parts.foldr
    (fun part state => state.bind fun (sum, unit) =>
      if isFinite (.ofRatio false unit 1) then some (sum.add (part.times unit), unit * 60) else none)
    (some (Binary64.ofRatio false 0 1, 1))).map (·.1)

/-- Reads a text as a number with a fraction. -/
def readFloat (s : String) : Except Defect Value :=
  match (dropLines s.toList).map Char.toLower with
  | [] => .error .outOfRange
  | cs =>
    let (negative, body) := Text.splitSign cs
    let signed (x : Binary64) : Value := .float (if negative then x.neg else x)
    if String.ofList body = ".inf" then .ok (.float (.infinite negative))
    else if String.ofList body = ".nan" then .ok (.float .nan)
    else if body.contains ':' then
      match (Text.partsAt ':' body).mapM readNumber? with
      | some parts =>
        match sumInBaseSixty? parts with
        | some x => .ok (signed x)
        | none => .error .overflow
      | none => .error .badForm
    else
      match readNumber? body with
      | some x => .ok (signed x)
      | none => .error .badForm

/-- Whether a text is the word for what is no number, rather than another text that is read as
such. -/
def isNanWord (s : String) : Bool :=
  String.ofList (unsigned ((dropLines s.toList).map Char.toLower)) == ".nan"

/-- Reads a text as a truth value. -/
def readBool (s : String) : Except Defect Value :=
  let word := Text.lower s
  match boolWords.lookup word with
  | some b => .ok (.bool b)
  | none => .error (.missingKey (.text word))

/-- Reads a text as a date or a point in time. -/
def readStamp (s : String) : Except Defect Value :=
  match stamp? (dropLastFeed s.toList) with
  | none => .error .noFeature
  | some st => if st.isValid then .ok (.stamp st) else .error .badForm

/-- Reads a text as bytes. -/
def readBinary (s : String) : Except ReadError Value :=
  if s.toList.all fun c => c.toNat < 0x80 then
    match Text.Base64.decode? s.toList with
    | some bytes => .ok (.binary bytes)
    | none => .error .malformed
  else .error .malformed

end Scalar

end TextAdventure.Yaml
