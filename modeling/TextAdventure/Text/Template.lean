import TextAdventure.Text.Subject
import TextAdventure.Value.Access

/-!
# Message templates

Filling a message template with one named text. A field stands in braces, and a brace that is meant
as such is doubled:

* `{name}` is replaced by the text,
* `{name!r}` by the text in quotes, `!a` by the quoted text in ASCII, `!s` by the text itself,
* `{name:spec}` by the text cut to a precision and padded to a width; `spec` has the form
  `[[fill]align][0][width][.precision][s]` and may hold fields of its own,
* `{name[3]}` by the character at a position,
* `{name.feature}` by a feature of the text, from which further brackets and dots lead on.

Any other form is a defect of the template. Fields are filled from left to right, and the first
defect found is reported.
-/

namespace TextAdventure.Text

/-- A text with every character beyond ASCII written as an escape. -/
def asciiOnly (s : String) : String :=
  String.ofList <| s.toList.flatMap fun c =>
    if c.toNat < 0x80 then [c]
    else if c.toNat < 0x100 then '\\' :: 'x' :: hexDigits 2 c.toNat
    else if c.toNat < 0x10000 then '\\' :: 'u' :: hexDigits 4 c.toNat
    else '\\' :: 'U' :: hexDigits 8 c.toNat

namespace Template

/-- The greatest number that a template may hold. -/
def maxNumber : Nat := 0x7FFFFFFFFFFFFFFF

/-- A width from which on no text can be held. -/
def hugeWidth : Nat := 0x80000000

/-- A field between braces. -/
structure Slot where
  name : List Char
  conversion : Option Char
  spec : List Char
  deriving Repr

/-- What was read of a field's layout up to its closing brace, and what follows. -/
def closeSpec : Nat → List Char → List Char → Except Defect (List Char × List Char)
  | _, _, [] => .error .badForm
  | depth, seen, c :: rest =>
    if c = '\x7b' then closeSpec (depth + 1) (c :: seen) rest
    else if c = '\x7d' then
      match depth with
      | 0 => .ok (seen.reverse, rest)
      | d + 1 => closeSpec d (c :: seen) rest
    else closeSpec depth (c :: seen) rest

/-- Reads the name of a field up to the character that ends it. What stands in brackets belongs to
the name whatever it is. -/
def fieldName : Bool → List Char → List Char → Except Defect (List Char × Char × List Char)
  | _, _, [] => .error .badForm
  | true, seen, c :: rest => fieldName (c != ']') (c :: seen) rest
  | false, seen, c :: rest =>
    if c = '\x7b' then .error .badForm
    else if c = '[' then fieldName true (c :: seen) rest
    else if c = '\x7d' ∨ c = ':' ∨ c = '!' then .ok (seen.reverse, c, rest)
    else fieldName false (c :: seen) rest

/-- Reads a field after its opening brace. -/
def slot (cs : List Char) : Except Defect (Slot × List Char) := do
  let (name, stop, rest) ← fieldName false [] cs
  if stop = '\x7d' then return (⟨name, none, []⟩, rest)
  else if stop = ':' then
    let (spec, rest) ← closeSpec 0 [] rest
    return (⟨name, none, spec⟩, rest)
  else
    match rest with
    | c :: '\x7d' :: rest => return (⟨name, some c, []⟩, rest)
    | c :: ':' :: rest =>
      let (spec, rest) ← closeSpec 0 [] rest
      return (⟨name, some c, spec⟩, rest)
    | _ => .error .badForm

/-- The number that a row of digits writes; `none` if it is empty or holds something else. -/
def number? (cs : List Char) : Except Defect (Option Nat) :=
  match readDigits? digitValue? 10 cs with
  | none => .ok none
  | some n => if n ≤ maxNumber then .ok (some n) else .error .badForm

/-- Follows the brackets and dots after the name of a field, which lead on from its subject. -/
def follow (x : Subject) : List Char → Except Defect Subject
  | [] => .ok x
  | '.' :: rest =>
    let name := rest.takeWhile fun c => c != '.' && c != '['
    if name.isEmpty then .error .badForm
    else
      match x.feature? (String.ofList name) with
      | some y => follow y (rest.dropWhile fun c => c != '.' && c != '[')
      | none => .error .noFeature
  | '[' :: rest =>
    let index := rest.takeWhile (· ≠ ']')
    match _h : rest.dropWhile (· ≠ ']') with
    | [] => .error .badForm
    | _ :: after =>
      if index.isEmpty then .error .badForm
      else
        match number? index with
        | .error d => .error d
        | .ok none => .error .wrongKind
        | .ok (some n) =>
          if x.hasItems then
            match x.item? n with
            | some y => follow y after
            | none => .error .outOfRange
          else .error .wrongKind
  | _ => .error .badForm
termination_by cs => cs.length
decreasing_by
  · have := (List.dropWhile_sublist (fun c => c != '.' && c != '[') (l := rest)).length_le
    simp only [List.length_cons]
    omega
  · have := (List.dropWhile_sublist (· ≠ ']') (l := rest)).length_le
    simp_all only [List.length_cons]
    omega

/-- What a field stands for, before it is laid out. -/
def subject (name : String) (argument : List Char) (field : List Char) :
    Except Defect Subject := do
  let first := field.takeWhile fun c => c != '.' && c != '['
  let rest := field.dropWhile fun c => c != '.' && c != '['
  if first.isEmpty then .error .outOfRange
  else
    match ← number? first with
    | some _ => .error .outOfRange
    | none =>
      if String.ofList first = name then follow (.text argument) rest
      else .error (.missingKey (.text (String.ofList first)))

/-- Converts what a field stands for as its mark of conversion says. -/
def convert (conversion : Option Char) (x : Subject) : Except Defect Subject :=
  match conversion with
  | none => .ok x
  | some 's' => .ok (.text x.display)
  | some 'r' => .ok (.ofString x.inspect)
  | some 'a' => .ok (.ofString (asciiOnly x.inspect))
  | some _ => .error .badForm

/-- Whether a character says on which side a text is padded. -/
def isAlign (c : Char) : Bool := c == '<' || c == '>' || c == '^' || c == '='

/-- Lays a text out: cuts it to a precision and pads it to a width. -/
def layOut (spec s : List Char) : Except Defect (List Char) := do
  if spec.isEmpty then return s
  let (fill, align, rest) :=
    match spec with
    | f :: a :: rest =>
      if isAlign a then (some f, some a, rest)
      else if isAlign f then (none, some f, a :: rest) else (none, none, spec)
    | [a] => if isAlign a then (none, some a, []) else (none, none, spec)
    | [] => (none, none, [])
  let (fill, rest) :=
    match fill, rest with
    | none, '0' :: rest => ('0', rest)
    | f, rest => (f.getD ' ', rest)
  let isDigit (c : Char) : Bool := (digitValue? c).isSome
  let width := (← number? (rest.takeWhile isDigit)).getD 0
  let rest := rest.dropWhile isDigit
  let (precision, rest) ←
    match rest with
    | '.' :: more =>
      match ← number? (more.takeWhile isDigit) with
      | some n => Except.ok (some n, more.dropWhile isDigit)
      | none => .error .badForm
    | _ => Except.ok (none, rest)
  if rest ≠ [] ∧ rest ≠ ['s'] then .error .badForm
  if align = some '=' then .error .badForm
  if hugeWidth ≤ width then .error .tooLarge
  let s := match precision with
    | some n => s.take n
    | none => s
  let total := width - s.length
  let left :=
    match align with
    | some '>' => total
    | some '^' => total / 2
    | _ => 0
  return List.replicate left fill ++ s ++ List.replicate (total - left) fill

/-- Lays out what a field stands for. Only a text can be cut and padded. -/
def layOutSubject (spec : List Char) : Subject → Except Defect (List Char)
  | .text s => layOut spec s
  | x => if spec.isEmpty then .ok x.display else .error .wrongKind

/-- Fills the fields of a template; `expand` fills those inside the layout of a field. -/
def fillWith (expand : List Char → Except Defect (List Char)) (name : String)
    (argument : List Char) (cs : List Char) : Except Defect (List Char) :=
  match cs with
  | [] => .ok []
  | c :: rest =>
    if c = '\x7b' ∨ c = '\x7d' then
      match _hr : rest with
      | d :: after =>
        if d = c then (fillWith expand name argument after).map (c :: ·)
        else if c = '\x7d' then .error .badForm
        else
          match slot rest with
          | .error e => .error e
          | .ok (field, after) =>
            match subject name argument field.name >>= convert field.conversion with
            | .error e => .error e
            | .ok x =>
              match (if field.spec.contains '\x7b' then expand field.spec else .ok field.spec) >>=
                  fun spec => layOutSubject spec x with
              | .error e => .error e
              | .ok s =>
                if _h : after.length < (c :: rest).length then
                  (fillWith expand name argument after).map (s ++ ·)
                else .error .badForm
      | [] => .error .badForm
    else (fillWith expand name argument rest).map (c :: ·)
termination_by cs.length
decreasing_by all_goals subst_vars; simp only [List.length_cons] at *; omega

end Template

/-- Fills a template in which `argument` stands under `name`. Fields inside the layout of a field
hold no further fields. -/
def fillTemplate (template name argument : String) : Except Defect String :=
  let inner := Template.fillWith (fun _ => .error .badForm) name argument.toList
  (Template.fillWith inner name argument.toList template.toList).map String.ofList

end TextAdventure.Text
