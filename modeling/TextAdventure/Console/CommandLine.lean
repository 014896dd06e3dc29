import TextAdventure.Text.Digit

/-!
# Command lines

The arguments with which the game is started. Every switch has a long name, which may be shortened
as long as it stays clear which one is meant, and its value follows it as the next argument or
behind an equals sign. A pair of hyphens behind the equals sign is no value, and leaves the switch
without one.
-/

namespace TextAdventure

/-- Whether and where everything is logged. -/
inductive Debugging where
  | off
  | on
  | file (path : String)
  deriving DecidableEq, Repr

/-- What the arguments ask for. -/
structure Options where
  /-- The language; it is missing only where a switch asks for none. -/
  language : Option String
  world : Option String
  save : Option String
  username : Option String
  debugging : Debugging
  deriving DecidableEq, Repr

/-- What is asked for without arguments. -/
def Options.standard : Options :=
  { language := some "en", world := none, save := none, username := none, debugging := .off }

/-- What the program is to do. -/
inductive Invocation where
  | play (o : Options)
  | help
  /-- The arguments make no sense. -/
  | misuse
  deriving DecidableEq, Repr

/-- A switch. -/
inductive Switch where
  | help
  | language
  | world
  | save
  | username
  | debug
  deriving DecidableEq, Repr

namespace Switch

/-- The long names of the switches. -/
def longNames : List (String × Switch) :=
  [("--help", .help), ("--language", .language), ("--world", .world), ("--save", .save),
    ("--username", .username), ("--debug", .debug)]

end Switch

/-- How an argument is understood. -/
inductive Argument where
  /-- A switch, perhaps with a value behind an equals sign. -/
  | switch (s : Switch) (attached : Option String)
  /-- The short name for help with more letters behind it. -/
  | letters (more : List Char)
  /-- It looks like a switch, but it is none. -/
  | unknown
  | plain (text : String)
  /-- A shortened name that several switches may have. -/
  | ambiguous
  deriving DecidableEq, Repr

namespace Argument

/-- Whether a text is a negative number; the end of a line may follow it. -/
def isNegativeNumber : List Char → Bool
  | '-' :: rest =>
    let isDigit (c : Char) : Bool := (Text.digitValue? c).isSome
    let isEnd (cs : List Char) : Bool := cs = [] || cs = ['\n']
    match rest.dropWhile isDigit with
    | '.' :: fraction =>
      (fraction.head?.any isDigit) && isEnd (fraction.dropWhile isDigit)
    | after => (rest.head?.any isDigit) && isEnd after
  | _ => false

/-- How an argument is understood that is no switch by its full name. -/
def ofOther (text : String) : Argument :=
  let cs := text.toList
  if isNegativeNumber cs || cs.contains ' ' then .plain text else .unknown

/-- How an argument is understood. -/
def ofText (text : String) : Argument :=
  let cs := text.toList
  let stem := String.ofList (cs.takeWhile (· != '='))
  let attached : Option String :=
    if cs.contains '=' then some (String.ofList ((cs.dropWhile (· != '=')).drop 1)) else none
  if cs.head? != some '-' || cs = ['-'] then .plain text
  else
    match Switch.longNames.lookup stem with
    | some s => .switch s attached
    | none =>
      if cs = ['-', 'h'] then .switch .help none
      else if ['-', '-'].isPrefixOf cs then
        match Switch.longNames.filter fun n => stem.toList.isPrefixOf n.1.toList with
        | [n] => .switch n.2 attached
        | [] => ofOther text
        | _ => .ambiguous
      else if ['-', 'h', '='].isPrefixOf cs then .letters (cs.drop 3)
      else if ['-', 'h'].isPrefixOf cs then .letters (cs.drop 2)
      else ofOther text

/-- Whether letters behind the short name for help make sense: each stands for another short name,
and there is no other. -/
def isHelp (letters : List Char) : Bool := !letters.isEmpty && letters.all (· == 'h')

/-- The value of a switch that stands behind an equals sign. -/
def value? (attached : String) : Option String := if attached = "--" then none else some attached

/-- How arguments are understood. A double hyphen takes away the meaning of those behind it, and
means nothing by itself. -/
def ofTexts : List String → List Argument
  | [] => []
  | text :: rest =>
    if text = "--" then .unknown :: rest.map .plain else ofText text :: ofTexts rest

end Argument

namespace Options

/-- The options after a switch with a value, or without one. -/
def set (o : Options) (value : Option String) : Switch → Options
  | .help => o
  | .language => { o with language := value }
  | .world => { o with world := value }
  | .save => { o with save := value }
  | .username => { o with username := value }
  | .debug => { o with debugging := value.elim .on .file }

end Options

namespace Invocation

/-- Follows the arguments from left to right. `misplaced` tells whether one of those before had no
place; that is found fault with only at the end. -/
def follow (o : Options) (misplaced : Bool) : List Argument → Invocation
  | [] => if misplaced then .misuse else .play o
  | .switch .help none :: _ => .help
  | .switch .help (some _) :: _ => .misuse
  | .letters more :: _ => if Argument.isHelp more then .help else .misuse
  | .switch s (some text) :: rest => follow (o.set (Argument.value? text) s) misplaced rest
  | .switch s none :: .plain text :: rest => follow (o.set (some text) s) misplaced rest
  | .switch .debug none :: rest => follow (o.set none .debug) misplaced rest
  | .switch .. :: _ => .misuse
  | .unknown :: rest | .plain _ :: rest | .ambiguous :: rest => follow o true rest

/-- What arguments ask the program to do. -/
def ofArgs (args : List String) : Invocation :=
  let arguments := Argument.ofTexts args
  if arguments.contains .ambiguous then .misuse else follow .standard false arguments

end Invocation

end TextAdventure
