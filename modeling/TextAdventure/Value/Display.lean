import TextAdventure.Text.Digit
import TextAdventure.Text.Quoted
import TextAdventure.Value.Fields

/-!
# Displayed values

The text by which a value is shown. A text is shown as it is; inside a list or a table it is
quoted, and so is a missing key when it is reported. A value with too long a number in it cannot be
shown, for nobody writes that many digits.
-/

namespace TextAdventure

namespace Value

/-- How a point in time is shown inside a list or a table. -/
def inspectStamp (s : Stamp) : String :=
  let numbers (ns : List Nat) : String := ", ".intercalate (ns.map toString)
  match s.clock with
  | none => "datetime.date(" ++ numbers [s.year, s.month, s.day] ++ ")"
  | some c =>
    let tail :=
      if c.microsecond ≠ 0 then [c.second, c.microsecond]
      else if c.second ≠ 0 then [c.second] else []
    let zone :=
      match c.offset with
      | none => ""
      | some 0 => ", tzinfo=datetime.timezone.utc"
      | some m =>
        let delta :=
          if m < 0 then "days=-1, seconds=" ++ toString (24 * 3600 + m * 60)
          else "seconds=" ++ toString (m * 60)
        ", tzinfo=datetime.timezone(datetime.timedelta(" ++ delta ++ "))"
    "datetime.datetime(" ++ numbers ([s.year, s.month, s.day, c.hour, c.minute] ++ tail) ++ zone ++ ")"

/-- How bytes are shown: in quotes, with escapes for what is no visible ASCII character. -/
def inspectBytes (bytes : List UInt8) : String :=
  let codes := bytes.map UInt8.toNat
  let quote := if codes.contains 0x27 && !codes.contains 0x22 then '"' else '\''
  let shown (n : Nat) : List Char :=
    if n = quote.toNat ∨ n = 0x5C then ['\\', Char.ofNat n]
    else if n = 0x09 then ['\\', 't']
    else if n = 0x0A then ['\\', 'n']
    else if n = 0x0D then ['\\', 'r']
    else if 0x20 ≤ n ∧ n < 0x7F then [Char.ofNat n]
    else '\\' :: 'x' :: Text.hexDigits 2 n
  String.ofList ('b' :: quote :: codes.flatMap shown ++ [quote])

/-- What is shown for an object inside itself. -/
def ellipsis : Value → String
  | .table _ => "\x7b...\x7d"
  | .pair .. => "(...)"
  | _ => "[...]"

mutual
/-- How a value is shown inside a list or a table. `around` tells what is shown for the objects
that the value lies in. -/
def inspectIn (around : List (Label × String)) : Value → String
  | .null => "None"
  | .bool b => if b then "True" else "False"
  | .int n => toString n
  | .float x => x.toText
  | .text s => Text.quoted s
  | .damaged codes => Text.quotedCodes codes
  | .binary bytes => inspectBytes bytes
  | .stamp s => inspectStamp s
  | .list items => "[" ++ ", ".intercalate (inspectList around items) ++ "]"
  | .table entries => "\x7b" ++ ", ".intercalate (inspectTable around entries) ++ "\x7d"
  | .pair a b => "(" ++ inspectIn around a ++ ", " ++ inspectIn around b ++ ")"
  | .set items =>
    if items.isEmpty then "set()"
    else "\x7b" ++ ", ".intercalate (inspectList around items) ++ "\x7d"
  | .shared l v =>
    match around.lookup l with
    | some mark => mark
    | none => inspectIn ((l, ellipsis v) :: around) v
  | .again l => (around.lookup l).getD ""
termination_by structural v => v

/-- The items of a list, each as it is shown inside. -/
def inspectList (around : List (Label × String)) : List Value → List String
  | [] => []
  | x :: xs => inspectIn around x :: inspectList around xs
termination_by structural v => v

/-- The entries of a table, each as it is shown inside. -/
def inspectTable (around : List (Label × String)) : List (Value × Value) → List String
  | [] => []
  | x :: xs => inspectEntry around x :: inspectTable around xs
termination_by structural v => v

/-- An entry as it is shown inside a table. -/
def inspectEntry (around : List (Label × String)) : Value × Value → String
  | (k, v) => inspectIn around k ++ ": " ++ inspectIn around v
termination_by structural v => v
end

/-- How a value is shown inside a list or a table. -/
def inspect (v : Value) : String := inspectIn [] v

/-- The text by which a value is shown. -/
def display (v : Value) : String :=
  match v.bare with
  | .text s => s
  | .damaged codes => Text.ofCodes codes
  | .stamp s => s.toText
  | _ => inspect v

mutual
/-- Whether the whole numbers in a value are short enough to be written. -/
def isWritable : Value → Bool
  | .int n => Text.isWritable n
  | .list items | .set items => areWritable items
  | .table entries => entriesAreWritable entries
  | .pair a b => isWritable a && isWritable b
  | .shared _ v => isWritable v
  | _ => true
termination_by structural v => v

/-- Whether the whole numbers in values are short enough to be written. -/
def areWritable : List Value → Bool
  | [] => true
  | x :: xs => isWritable x && areWritable xs
termination_by structural v => v

/-- Whether the whole numbers in entries are short enough to be written. -/
def entriesAreWritable : List (Value × Value) → Bool
  | [] => true
  | x :: xs => entryIsWritable x && entriesAreWritable xs
termination_by structural v => v

/-- Whether the whole numbers in an entry are short enough to be written. -/
def entryIsWritable : Value × Value → Bool
  | (k, v) => isWritable k && isWritable v
termination_by structural v => v
end

/-- A text is shown as it is. -/
@[simp] theorem display_text (s : String) : display (.text s) = s := rfl

end Value

end TextAdventure
