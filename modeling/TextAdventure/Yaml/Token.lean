import TextAdventure.Text.Bytes
import TextAdventure.Text.Codes
import TextAdventure.Value.Access
import TextAdventure.Yaml.Cursor

/-!
# Tokens

The text of a document is cut into tokens. Indentation becomes tokens too: a block begins where
the text goes further in, and ends where it comes back out. A scalar or a collection turns out to
be a key only when a colon follows it on the same line, so its place is remembered and the token
for the key is put there afterwards.

Where the text cannot be cut any further, a token for the fault ends the tokens. Whoever puts the
tokens together comes upon the fault only if nothing before it is amiss.
-/

namespace TextAdventure.Yaml

/-- Why a document cannot be read. -/
inductive ReadError where
  /-- The text is no document. -/
  | malformed
  /-- A scalar does not have the form that its tag asks for. -/
  | defect (d : Defect)
  deriving DecidableEq, Repr

/-- A token of a document. -/
inductive Token where
  /-- The text cannot be cut here. -/
  | fault (e : ReadError)
  /-- The directive that states a version. -/
  | version (major : Nat)
  /-- The directive that lets a handle stand for the beginning of tags. -/
  | handle (name stem : String)
  /-- Any other directive. -/
  | directive
  | documentStart
  | documentEnd
  | streamEnd
  | blockSequenceStart
  | blockMappingStart
  | blockEnd
  | flowSequenceStart
  | flowSequenceEnd
  | flowMappingStart
  | flowMappingEnd
  | blockEntry
  | flowEntry
  | key
  | value
  | reference (name : String)
  | anchor (name : String)
  | tag (handle : Option String) (suffix : String)
  | scalar (text : String) (plain : Bool)
  /-- A scalar in quotes with codes that are no characters. -/
  | damaged (codes : List Nat)
  deriving DecidableEq, Repr

/-! ### Scalars -/

namespace Cursor

/-- Reads a name of at least one character. -/
def name (c : Cursor) : Except ReadError (String × Cursor) :=
  let (cs, c) := c.takeWhile isNameChar
  if cs.isEmpty then .error .malformed else .ok (String.ofList cs, c)

/-- Skips the rest of a line that holds at most a comment. -/
def restOfLine (c : Cursor) : Except ReadError Cursor :=
  let c := c.skipSpaces
  let c := if c.head == '#' then c.toLineEnd else c
  if isBreakOrEnd c.head then .ok (c.lineBreak).2 else .error .malformed

/-- The characters that single letters after a backslash stand for. -/
def escapes : List (Char × Char) :=
  [('0', '\x00'), ('a', '\x07'), ('b', '\x08'), ('t', '\t'), ('\t', '\t'), ('n', '\n'),
    ('v', '\x0b'), ('f', '\x0c'), ('r', '\r'), ('e', '\x1b'), (' ', ' '), ('"', '"'),
    ('\\', '\\'), ('/', '/'), ('N', '\x85'), ('_', '\xa0'), ('L', '\u2028'), ('P', '\u2029')]

/-- How many digits follow the letters that begin the number of a character. -/
def escapeWidth (c : Char) : Option Nat :=
  if c == 'x' then some 2 else if c == 'u' then some 4 else if c == 'U' then some 8 else none

/-- The line breaks inside a quoted scalar, with the blanks between them. -/
def quotedBreaks : Nat → Cursor → Except ReadError (List Char × Cursor)
  | 0, _ => .error .malformed
  | n + 1, c =>
    if c.atDocumentMark then .error .malformed
    else
      let c := c.skipWhile fun ch => ch == ' ' || ch == '\t'
      if isBreak c.head then do
        let (b, c) := c.lineBreak
        let (more, c) ← quotedBreaks n c
        return (b ++ more, c)
      else return ([], c)

/-- The blanks inside a quoted scalar. A single line break becomes a space. -/
def quotedBlanks (c : Cursor) : Except ReadError (List Char × Cursor) := do
  let (blanks, c) := c.takeWhile fun ch => ch == ' ' || ch == '\t'
  if c.head == endMark then .error .malformed
  else if isBreak c.head then
    let (b, c) := c.lineBreak
    let (breaks, c) ← quotedBreaks c.fuel c
    if b ≠ ['\n'] then return (b ++ breaks, c)
    else if breaks.isEmpty then return ([' '], c)
    else return (breaks, c)
  else return (blanks, c)

/-- The character that an escape with a number stands for, as its code. -/
def escapedCode (width : Nat) (c : Cursor) : Except ReadError Nat :=
  let digits := c.rest.take width
  match Text.readDigits? Text.hexDigitValue? 16 digits with
  | some code =>
    if digits.length < width then .error .malformed
    else if 0x7FFFFFFF < code then .error (.defect .overflow)
    else if 0x10FFFF < code then .error (.defect .badForm)
    else .ok code
  | none => .error .malformed

/-- Reads a quoted scalar from the opening quote on; `seen` holds the codes of what has been read of
it, the last one first. -/
def quotedBody (double : Bool) : Nat → List Nat → Cursor → Except ReadError (List Nat × Cursor)
  | 0, _, _ => .error .malformed
  | n + 1, seen, c =>
    let quote := if double then '"' else '\''
    let codes (cs : List Char) : List Nat := cs.reverse.map Char.toNat
    match c.rest with
    | [] => .error .malformed
    | ch :: more =>
      if ch == quote then
        if !double && more.head? == some '\'' then quotedBody double n (quote.toNat :: seen) (c.skip 2)
        else .ok (seen.reverse, c.next)
      else if double && ch == '\\' then
        let c := c.next
        let e := c.head
        match escapes.lookup e, escapeWidth e with
        | some x, _ => quotedBody double n (x.toNat :: seen) c.next
        | none, some width => do
          let code ← escapedCode width c.next
          quotedBody double n (code :: seen) (c.next.skip width)
        | none, none =>
          if isBreak e then do
            let (breaks, c) ← quotedBreaks c.fuel c.lineBreak.2
            quotedBody double n (codes breaks ++ seen) c
          else .error .malformed
      else if isGap ch then do
        let (blanks, c) ← c.quotedBlanks
        quotedBody double n (codes blanks ++ seen) c
      else quotedBody double n (ch.toNat :: seen) c.next

/-- Reads a quoted scalar. -/
def quotedScalar (double : Bool) (c : Cursor) : Except ReadError (Token × Cursor) := do
  let (codes, c) ← quotedBody double (2 * c.fuel) [] c.next
  match Text.ofCodes? codes with
  | some s => return (.scalar s false, c)
  | none => return (.damaged codes, c)

/-- The line breaks between the lines of a plain scalar; `none` if the document ends there. -/
def plainBreaks : Nat → Cursor → Option (List Char) × Cursor
  | 0, c => (some [], c)
  | n + 1, c =>
    if c.head == ' ' then plainBreaks n c.next
    else if isBreak c.head then
      let (b, c) := c.lineBreak
      if c.atDocumentMark then (none, c)
      else
        let (more, c) := plainBreaks n c
        (more.map (b ++ ·), c)
    else (some [], c)

/-- The blanks after a part of a plain scalar, and whether a line ended there. -/
def plainBlanks (c : Cursor) : List Char × Bool × Cursor :=
  let (blanks, c) := c.takeWhile (· == ' ')
  if isBreak c.head then
    let (b, c) := c.lineBreak
    if c.atDocumentMark then ([], true, c)
    else
      match plainBreaks c.fuel c with
      | (none, c) => ([], true, c)
      | (some breaks, c) =>
        if b ≠ ['\n'] then (b ++ breaks, true, c)
        else if breaks.isEmpty then ([' '], true, c)
        else (breaks, true, c)
  else (blanks, false, c)

/-- The characters ahead that belong to a plain scalar, up to a blank or to a mark. -/
def plainPart (inFlow : Bool) : List Char → List Char
  | [] => []
  | ch :: rest =>
    let following := rest.headD endMark
    if isGap ch then []
    else if ch == ':' && (isGap following || (inFlow && [',', '[', ']', '\x7b', '\x7d'].contains following))
    then []
    else if inFlow && [',', '?', '[', ']', '\x7b', '\x7d'].contains ch then []
    else ch :: plainPart inFlow rest

/-- Reads the parts of a plain scalar. The flag tells whether a line ended after the last one. -/
def plainBody (inFlow : Bool) (indent : Int) :
    Nat → List Char → Bool → Cursor → List Char × Bool × Cursor
  | 0, blanks, ended, c => (blanks, ended, c)
  | n + 1, blanks, ended, c =>
    let part := if c.head == '#' then [] else plainPart inFlow c.rest
    if part.isEmpty then ([], ended, c)
    else
      let c := c.skip part.length
      let (following, ended, c) := c.plainBlanks
      if following.isEmpty || c.head == '#' || (!inFlow && (c.column : Int) < indent) then
        (blanks ++ part, ended, c)
      else
        let (more, ended, c) := plainBody inFlow indent n following ended c
        (blanks ++ part ++ more, ended, c)

/-- Reads a plain scalar: the token, whether a line ended behind it, and the position after it. -/
def plainScalar (inFlow : Bool) (indent : Int) (c : Cursor) : Token × Bool × Cursor :=
  let (cs, ended, c) := plainBody inFlow indent c.fuel [] false c
  (.scalar (String.ofList cs) true, ended, c)

/-- What becomes of the line breaks at the end of a block scalar. -/
inductive Chomping where
  | strip
  | clip
  | keep
  deriving DecidableEq, Repr

/-- The chomping that a character stands for. -/
def chomping? (ch : Char) : Option Chomping :=
  if ch == '+' then some .keep else if ch == '-' then some .strip else none

/-- Reads the header of a block scalar: its chomping and its indentation. -/
def blockHeader (c : Cursor) : Except ReadError (Chomping × Option Nat × Cursor) := do
  let number (c : Cursor) : Except ReadError (Option Nat × Cursor) :=
    match Text.asciiDigitValue? c.head with
    | some 0 => .error .malformed
    | some d => .ok (some d, c.next)
    | none => .ok (none, c)
  let (chomping, indent, c) ←
    match chomping? c.head with
    | some chomping => do
      let (indent, c) ← number c.next
      Except.ok (chomping, indent, c)
    | none => do
      let (indent, c) ← number c
      match indent, chomping? c.head with
      | some _, some chomping => Except.ok (chomping, indent, c.next)
      | _, _ => Except.ok (Chomping.clip, indent, c)
  if c.head == ' ' || isBreakOrEnd c.head then return (chomping, indent, ← c.restOfLine)
  else .error .malformed

/-- The blank lines ahead and the greatest indentation among them. -/
def measureIndent : Nat → Nat → Cursor → List Char × Nat × Cursor
  | 0, deepest, c => ([], deepest, c)
  | n + 1, deepest, c =>
    if c.head == ' ' then
      let c := c.next
      measureIndent n (max deepest c.column) c
    else if isBreak c.head then
      let (b, c) := c.lineBreak
      let (more, deepest, c) := measureIndent n deepest c
      (b ++ more, deepest, c)
    else ([], deepest, c)

/-- Skips spaces up to a column. -/
def indentTo (indent : Nat) (c : Cursor) : Cursor :=
  c.skip (min (indent - c.column) (c.rest.takeWhile (· == ' ')).length)

/-- The blank lines ahead of a line of a block scalar. -/
def blockBreaks (indent : Nat) : Nat → Cursor → List Char × Cursor
  | 0, c => ([], c)
  | n + 1, c =>
    let c := c.indentTo indent
    if isBreak c.head then
      let (b, c) := c.lineBreak
      let (more, c) := blockBreaks indent n c
      (b ++ more, c)
    else ([], c)

/-- The lines of a block scalar: their text, the last line break and the blank lines behind it. -/
def blockLines (folded : Bool) (indent : Nat) :
    Nat → List Char → Cursor → List Char × List Char × List Char × Cursor
  | 0, breaks, c => ([], [], breaks, c)
  | n + 1, breaks, c =>
    if c.column = indent ∧ c.head ≠ endMark then
      let isText (ch : Char) : Bool := ch != ' ' && ch != '\t'
      let leading := isText c.head
      let (line, c) := c.takeWhile fun ch => !isBreak ch
      let (b, c) := c.lineBreak
      let (following, c) := blockBreaks indent c.fuel c
      if c.column = indent ∧ c.head ≠ endMark then
        let (joint, following) :=
          if folded && b == ['\n'] && leading && isText c.head then
            (if following.isEmpty then [' '] else [], following)
          else (b, following)
        let (more, last, rest, c) := blockLines folded indent n following c
        (breaks ++ line ++ joint ++ more, last, rest, c)
      else (breaks ++ line, b, following, c)
    else ([], [], breaks, c)

/-- Reads a block scalar; `outer` is the indentation of the block around it. -/
def blockScalar (folded : Bool) (outer : Int) (c : Cursor) : Except ReadError (Token × Cursor) := do
  let (chomping, given, c) ← c.next.blockHeader
  let least := max 1 (outer + 1).toNat
  let (breaks, indent, c) :=
    match given with
    | none =>
      let (breaks, deepest, c) := measureIndent (2 * c.fuel) 0 c
      (breaks, max least deepest, c)
    | some d =>
      let indent := least + d - 1
      let (breaks, c) := blockBreaks indent c.fuel c
      (breaks, indent, c)
  let (body, last, blank, c) := blockLines folded indent c.fuel breaks c
  let text := body ++ (if chomping = .strip then [] else last) ++
    (if chomping = .keep then blank else [])
  return (.scalar (String.ofList text) false, c)

/-! ### Anchors, tags and directives -/

/-- Reads an anchor or an alias after its mark. -/
def anchorName (c : Cursor) : Except ReadError (String × Cursor) := do
  let (name, c) ← c.next.name
  if isGap c.head || ['?', ':', ',', ']', '\x7d', '%', '@', '`'].contains c.head then
    return (name, c)
  else .error .malformed

/-- Whether a character may stand in a tag. -/
def isTagChar (c : Char) : Bool :=
  isNameChar c ||
    [';', '/', '?', ':', '@', '&', '=', '+', '$', ',', '.', '!', '~', '*', '\'', '(', ')', '[',
      ']', '%'].contains c

/-- The bytes at the beginning of a part of a tag that are written as escapes, and what follows
them. -/
def escapedBytes : List Char → Except ReadError (List UInt8 × List Char)
  | '%' :: a :: b :: rest =>
    match Text.readDigits? Text.hexDigitValue? 16 [a, b] with
    | some code => (escapedBytes rest).map fun (bytes, after) => (code.toUInt8 :: bytes, after)
    | none => .error .malformed
  | '%' :: _ => .error .malformed
  | rest => .ok ([], rest)

/-- Resolves the escapes in a part of a tag: those that follow one another write characters in
UTF-8. -/
def unescapeTag : Nat → List Char → Except ReadError (List Char)
  | 0, _ => .error .malformed
  | _, [] => .ok []
  | n + 1, c :: rest => do
    if c == '%' then
      let (bytes, after) ← escapedBytes (c :: rest)
      match Text.ofUtf8? bytes with
      | some s => return s.toList ++ (← unescapeTag n after)
      | none => .error .malformed
    else return c :: (← unescapeTag n rest)

/-- Reads the part of a tag that names it. -/
def tagSuffix (c : Cursor) : Except ReadError (String × Cursor) := do
  let (cs, c) := c.takeWhile isTagChar
  if cs.isEmpty then .error .malformed
  else return (String.ofList (← unescapeTag (cs.length + 1) cs), c)

/-- Reads a handle: an exclamation mark, or a name between two. -/
def tagHandle (c : Cursor) : Except ReadError (String × Cursor) :=
  if c.head ≠ '!' then .error .malformed
  else
    let (name, after) := c.next.takeWhile isNameChar
    if after.head == '!' then .ok (String.ofList ('!' :: name ++ ['!']), after.next)
    else if name.isEmpty && (after.head == ' ') then .ok ("!", after)
    else .error .malformed

/-- Reads a tag. -/
def tagToken (c : Cursor) : Except ReadError (Token × Cursor) := do
  let following := c.peek 1
  let (token, c) ←
    if following == '<' then do
      let (suffix, c) ← (c.skip 2).tagSuffix
      if c.head == '>' then Except.ok (Token.tag none suffix, c.next) else .error .malformed
    else if isGap following then Except.ok (Token.tag none "!", c.next)
    else do
      let ahead := c.next.rest.takeWhile fun ch => ch != ' ' && !isBreak ch
      if ahead.contains '!' then
        let (handle, c) ← c.tagHandle
        let (suffix, c) ← c.tagSuffix
        Except.ok (Token.tag (some handle) suffix, c)
      else
        let (suffix, c) ← c.next.tagSuffix
        Except.ok (Token.tag (some "!") suffix, c)
  if c.head == ' ' || isBreakOrEnd c.head then return (token, c) else .error .malformed

/-- Reads a whole number. -/
def number (c : Cursor) : Except ReadError (Nat × Cursor) :=
  let (ds, c) := c.takeWhile fun ch => '0' ≤ ch && ch ≤ '9'
  match Text.readDigits? Text.asciiDigitValue? 10 ds with
  | some n => .ok (n, c)
  | none => .error .malformed

/-- Reads a directive. -/
def directiveToken (c : Cursor) : Except ReadError (Token × Cursor) := do
  let (name, c) ← c.next.name
  if !(c.head == ' ' || isBreakOrEnd c.head) then .error .malformed
  if name = "YAML" then
    let (major, c) ← c.skipSpaces.number
    if c.head ≠ '.' then .error .malformed
    let (_, c) ← c.next.number
    if !(c.head == ' ' || isBreakOrEnd c.head) then .error .malformed
    return (.version major, ← c.restOfLine)
  else if name = "TAG" then
    let (handle, c) ← c.skipSpaces.tagHandle
    if c.head ≠ ' ' then .error .malformed
    let (stem, c) ← c.skipSpaces.tagSuffix
    if !(c.head == ' ' || isBreakOrEnd c.head) then .error .malformed
    return (.handle handle stem, ← c.restOfLine)
  else return (.directive, ← c.toLineEnd.restOfLine)

end Cursor

/-! ### The state of cutting -/

/-- A place that may turn out to be a key. -/
structure PossibleKey where
  /-- The number of tokens before it. -/
  token : Nat
  /-- Whether it must be a key, because a block of keys goes on there. -/
  isRequired : Bool
  index : Nat
  line : Nat
  column : Nat
  deriving Repr

/-- How far the cutting of a text has come. -/
structure Cutting where
  cursor : Cursor
  /-- The tokens so far, the last one first. -/
  tokens : List Token
  /-- How many tokens there are so far. -/
  count : Nat
  /-- How many flow collections are open. -/
  flow : Nat
  indent : Int
  /-- The indentations of the blocks around the current one. -/
  outer : List Int
  /-- Whether a key may begin here. -/
  allowKey : Bool
  /-- The places that may turn out to be keys, at most one for each flow collection. -/
  keys : List (Nat × PossibleKey)
  isDone : Bool
  deriving Repr

namespace Cutting

/-- The beginning of a text. -/
def start (cs : List Char) : Cutting :=
  { cursor := .start cs, tokens := [], count := 0, flow := 0, indent := -1, outer := [], allowKey := true,
    keys := [], isDone := false }

/-- Adds a token. -/
def push (s : Cutting) (t : Token) : Cutting :=
  { s with tokens := t :: s.tokens, count := s.count + 1 }

/-- Adds a token and moves on. -/
def pushAt (s : Cutting) (t : Token) (c : Cursor) : Cutting :=
  { s.push t with cursor := c }

/-- Skips blanks, comments and line breaks up to the next token. -/
def skipToToken : Nat → Cutting → Cutting
  | 0, s => s
  | n + 1, s =>
    let c := s.cursor.skipSpaces
    let c := if c.head == '#' then c.toLineEnd else c
    if isBreak c.head then
      skipToToken n
        { s with cursor := c.lineBreak.2, allowKey := s.allowKey || s.flow == 0 }
    else { s with cursor := c }

/-- Drops the places that can be keys no more: a key and its colon are on one line and not too far
apart. -/
def dropStale (s : Cutting) : Except ReadError Cutting :=
  let isStale (k : PossibleKey) : Bool :=
    k.line != s.cursor.line || 1024 < s.cursor.index - k.index
  if s.keys.any fun k => isStale k.2 && k.2.isRequired then .error .malformed
  else .ok { s with keys := s.keys.filter fun k => !isStale k.2 }

/-- Ends the blocks that are further in than a column. -/
def unwind (column : Int) : Nat → Cutting → Cutting
  | 0, s => s
  | n + 1, s =>
    if s.flow = 0 ∧ column < s.indent then
      unwind column n
        ({ s with indent := s.outer.headD (-1), outer := s.outer.tail }.push .blockEnd)
    else s

/-- Ends the blocks that are further in than a column. -/
def unwindTo (s : Cutting) (column : Int) : Cutting := unwind column (s.outer.length + 1) s

/-- Gives up the place that might have been a key of the current collection. -/
def dropKey (s : Cutting) : Except ReadError Cutting :=
  match s.keys.lookup s.flow with
  | some k =>
    if k.isRequired then .error .malformed
    else .ok { s with keys := s.keys.filter fun e => e.1 != s.flow }
  | none => .ok s

/-- Remembers the current place as one that may turn out to be a key. -/
def noteKey (s : Cutting) : Except ReadError Cutting :=
  if s.allowKey then do
    let isRequired := s.flow == 0 && s.indent == (s.cursor.column : Int)
    let s ← s.dropKey
    let k : PossibleKey :=
      ⟨s.count, isRequired, s.cursor.index, s.cursor.line, s.cursor.column⟩
    return { s with keys := (s.flow, k) :: s.keys }
  else .ok s

/-- Begins a block at a column if it is further in; the flag tells whether it is. -/
def indentTo (s : Cutting) (column : Nat) : Bool × Cutting :=
  if s.indent < column then
    (true, { s with indent := column, outer := s.indent :: s.outer })
  else (false, s)

/-- Begins a block at the current column, with a token if it is further in. -/
def openBlock (s : Cutting) (t : Token) : Cutting :=
  match s.indentTo s.cursor.column with
  | (true, s) => s.push t
  | (false, s) => s

/-- The end of the text. -/
def cutEnd (s : Cutting) : Except ReadError Cutting := do
  let s ← (s.unwindTo (-1)).dropKey
  return { s with allowKey := false, keys := [], isDone := true }.push .streamEnd

/-- The mark that begins or ends a document. -/
def cutDocumentMark (s : Cutting) (t : Token) : Except ReadError Cutting := do
  let s ← (s.unwindTo (-1)).dropKey
  return { s with allowKey := false }.pushAt t (s.cursor.skip 3)

/-- A directive. -/
def cutDirective (s : Cutting) : Except ReadError Cutting := do
  let s ← (s.unwindTo (-1)).dropKey
  let (t, c) ← s.cursor.directiveToken
  return { s with allowKey := false }.pushAt t c

/-- The beginning of a flow collection. -/
def cutFlowStart (s : Cutting) (t : Token) : Except ReadError Cutting := do
  let s ← s.noteKey
  return { s with flow := s.flow + 1, allowKey := true }.pushAt t s.cursor.next

/-- The end of a flow collection. -/
def cutFlowEnd (s : Cutting) (t : Token) : Except ReadError Cutting := do
  let s ← s.dropKey
  if s.flow = 0 then .error .malformed
  return { s with flow := s.flow - 1, allowKey := false }.pushAt t s.cursor.next

/-- The comma between the entries of a flow collection. -/
def cutFlowEntry (s : Cutting) : Except ReadError Cutting := do
  let s ← { s with allowKey := true }.dropKey
  return s.pushAt .flowEntry s.cursor.next

/-- The dash before an entry of a block sequence. -/
def cutBlockEntry (s : Cutting) : Except ReadError Cutting := do
  if s.flow = 0 ∧ !s.allowKey then .error .malformed
  let s := if s.flow = 0 then s.openBlock .blockSequenceStart else s
  let s ← { s with allowKey := true }.dropKey
  return s.pushAt .blockEntry s.cursor.next

/-- The question mark before a key. -/
def cutKey (s : Cutting) : Except ReadError Cutting := do
  if s.flow = 0 ∧ !s.allowKey then .error .malformed
  let s := if s.flow = 0 then s.openBlock .blockMappingStart else s
  let s ← { s with allowKey := s.flow == 0 }.dropKey
  return s.pushAt .key s.cursor.next

/-- Puts a token where a number of tokens are before it. -/
def insertToken (s : Cutting) (i : Nat) (t : Token) : Cutting :=
  { s with tokens := s.tokens.insertIdx (s.count - i) t, count := s.count + 1 }

/-- The colon before a value. If the place of the key was remembered, the tokens for the key and
for the block it begins are put there. -/
def cutValue (s : Cutting) : Except ReadError Cutting := do
  match s.keys.lookup s.flow with
  | some k =>
    let s := { s with keys := s.keys.filter fun e => e.1 != s.flow }
    let s := s.insertToken k.token .key
    let s :=
      if s.flow = 0 then
        match s.indentTo k.column with
        | (true, s) => s.insertToken k.token .blockMappingStart
        | (false, s) => s
      else s
    return { s with allowKey := false }.pushAt .value s.cursor.next
  | none =>
    if s.flow = 0 ∧ !s.allowKey then .error .malformed
    let s := if s.flow = 0 then s.openBlock .blockMappingStart else s
    let s ← { s with allowKey := s.flow == 0 }.dropKey
    return s.pushAt .value s.cursor.next

/-- An anchor or an alias. -/
def cutAnchor (s : Cutting) (token : String → Token) : Except ReadError Cutting := do
  let s ← s.noteKey
  let (name, c) ← s.cursor.anchorName
  return { s with allowKey := false }.pushAt (token name) c

/-- A tag. -/
def cutTag (s : Cutting) : Except ReadError Cutting := do
  let s ← s.noteKey
  let (t, c) ← s.cursor.tagToken
  return { s with allowKey := false }.pushAt t c

/-- A block scalar. -/
def cutBlockScalar (s : Cutting) (folded : Bool) : Except ReadError Cutting := do
  let s ← { s with allowKey := true }.dropKey
  let (t, c) ← s.cursor.blockScalar folded s.indent
  return s.pushAt t c

/-- A quoted scalar. -/
def cutQuoted (s : Cutting) (double : Bool) : Except ReadError Cutting := do
  let s ← s.noteKey
  let (t, c) ← s.cursor.quotedScalar double
  return { s with allowKey := false }.pushAt t c

/-- A plain scalar. -/
def cutPlain (s : Cutting) : Except ReadError Cutting := do
  let s ← s.noteKey
  let (t, ended, c) := s.cursor.plainScalar (s.flow != 0) (s.indent + 1)
  return { s with allowKey := ended }.pushAt t c

/-- Whether a plain scalar begins at the position. -/
def startsPlain (s : Cutting) : Bool :=
  let ch := s.cursor.head
  let marks :=
    ['-', '?', ':', ',', '[', ']', '\x7b', '\x7d', '#', '&', '*', '!', '|', '>', '\'', '"', '%',
      '@', '`']
  (!isGap ch && !marks.contains ch) ||
    (!isGap (s.cursor.peek 1) && (ch == '-' || (s.flow == 0 && (ch == '?' || ch == ':'))))

/-- The tokens that can be told for certain: those before the first place that may turn out to be
a key. -/
def settled (s : Cutting) : List Token :=
  match (s.keys.map (·.2.token)).min? with
  | some n => (s.tokens.drop (s.count - n)).reverse
  | none => s.tokens.reverse

/-- Cuts off the next token. -/
def cut (s : Cutting) : Except ReadError Cutting := do
  let s := skipToToken s.cursor.fuel s
  let s ← s.dropStale
  let c := s.cursor
  let s := s.unwindTo c.column
  let ch := c.head
  let gapFollows := isGap (c.peek 1)
  let inFlow := s.flow != 0
  if ch == endMark then s.cutEnd
  else if ch == '%' && c.column == 0 then s.cutDirective
  else if c.column == 0 && c.atDocumentMark then
    s.cutDocumentMark (if ch == '-' then .documentStart else .documentEnd)
  else if ch == '[' then s.cutFlowStart .flowSequenceStart
  else if ch == '\x7b' then s.cutFlowStart .flowMappingStart
  else if ch == ']' then s.cutFlowEnd .flowSequenceEnd
  else if ch == '\x7d' then s.cutFlowEnd .flowMappingEnd
  else if ch == ',' then s.cutFlowEntry
  else if ch == '-' && gapFollows then s.cutBlockEntry
  else if ch == '?' && (inFlow || gapFollows) then s.cutKey
  else if ch == ':' && (inFlow || gapFollows) then s.cutValue
  else if ch == '*' then s.cutAnchor .reference
  else if ch == '&' then s.cutAnchor .anchor
  else if ch == '!' then s.cutTag
  else if ch == '|' && !inFlow then s.cutBlockScalar false
  else if ch == '>' && !inFlow then s.cutBlockScalar true
  else if ch == '\'' then s.cutQuoted false
  else if ch == '"' then s.cutQuoted true
  else if s.startsPlain then s.cutPlain
  else .error .malformed

/-- Cuts tokens off until the text ends or a token cannot be cut. With a limit the text goes on
there, but not with what a document may hold. -/
def cutAll (limit : Option Nat) : Nat → Cutting → List Token
  | 0, s => s.settled ++ [.fault .malformed]
  | n + 1, s =>
    if s.isDone then s.tokens.reverse
    else
      match s.dropStale with
      | .error e => s.settled ++ [.fault e]
      | .ok s =>
        match s.cut with
        | .error e => s.settled ++ [.fault e]
        | .ok next =>
          if limit.any (· ≤ next.cursor.index) then s.settled ++ [.fault .malformed]
          else cutAll limit n next

end Cutting

/-- A text is looked over piece by piece for characters that no document may hold: the first piece
is twice as long as this, and each later one as long. -/
def pieceLength : Nat := 4096

/-- Where the piece with a character begins. -/
def pieceStart (i : Nat) : Nat :=
  if i < 2 * pieceLength then 0 else i / pieceLength * pieceLength

/-- The tokens of a text, up to the one for its end or for a fault. -/
def tokens (cs : List Char) : List Token :=
  let limit := (cs.findIdx? fun c => !isAllowed c).map pieceStart
  let start := Cutting.start (cs.take (limit.getD cs.length))
  let start :=
    if cs.head? = some '\uFEFF' then { start with cursor := start.cursor.next } else start
  start.cutAll limit (cs.length + 3)

end TextAdventure.Yaml
