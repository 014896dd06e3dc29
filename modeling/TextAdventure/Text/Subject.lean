import TextAdventure.Text.Quoted

/-!
# Subjects of message fields

What a field of a message template can stand for. A field starts at a text and may lead on from it:
to the kind of the text, to the name of that kind, to an operation on texts, and so on. From every
subject one gets on by the name of a feature (`Subject.feature?`) or to an item by its number
(`Subject.item`), and every subject can be shown.
-/

namespace TextAdventure.Text

/-- The kinds of subjects. -/
inductive Kind where
  | text
  /-- The most general kind. -/
  | thing
  | kind
  | row
  | nothing
  /-- An operation of one subject. -/
  | operation
  /-- An operation of one subject that has its own sign. -/
  | signOperation
  /-- An operation of all subjects of a kind. -/
  | member
  /-- An operation of all subjects of a kind that has its own sign. -/
  | signMember
  deriving DecidableEq, Repr

namespace Kind

/-- The name of a kind. -/
def name : Kind → String
  | .text => "str"
  | .thing => "object"
  | .kind => "type"
  | .row => "tuple"
  | .nothing => "NoneType"
  | .operation => "builtin_function_or_method"
  | .signOperation => "method-wrapper"
  | .member => "method_descriptor"
  | .signMember => "wrapper_descriptor"

/-- A kind as it is shown. -/
def display (k : Kind) : String := "<class '" ++ k.name ++ "'>"

/-- The kind that a kind belongs to next; the most general one belongs to none. -/
def base? : Kind → Option Kind
  | .thing => none
  | _ => some .thing

/-- A kind and all that it belongs to. -/
def lineage (k : Kind) : List Kind := k :: k.base?.toList

end Kind

/-- The operations on texts that have names of their own. -/
def namedOperations : List String :=
  ["capitalize", "casefold", "center", "count", "encode", "endswith", "expandtabs", "find",
    "format", "format_map", "index", "isalnum", "isalpha", "isascii", "isdecimal", "isdigit",
    "isidentifier", "islower", "isnumeric", "isprintable", "isspace", "istitle", "isupper", "join",
    "ljust", "lower", "lstrip", "maketrans", "partition", "removeprefix", "removesuffix",
    "replace", "rfind", "rindex", "rjust", "rpartition", "rsplit", "rstrip", "split",
    "splitlines", "startswith", "strip", "swapcase", "title", "translate", "upper", "zfill",
    "__dir__", "__format__", "__getnewargs__", "__getstate__", "__reduce__", "__reduce_ex__",
    "__sizeof__"]

/-- The operations on texts that are written with a sign. -/
def signOperations : List String :=
  ["__add__", "__contains__", "__delattr__", "__eq__", "__ge__", "__getattribute__",
    "__getitem__", "__gt__", "__hash__", "__init__", "__iter__", "__le__", "__len__", "__lt__",
    "__mod__", "__mul__", "__ne__", "__repr__", "__rmod__", "__rmul__", "__setattr__", "__str__"]

/-- The operations on texts that all things have in common. -/
def commonOperations : List String :=
  ["__delattr__", "__dir__", "__getstate__", "__init__", "__reduce__", "__reduce_ex__",
    "__setattr__"]

/-- The kind for which an operation on texts is defined. -/
def operationOwner (name : String) : Kind :=
  if commonOperations.contains name then .thing else .text

/-- What is told about all texts. -/
def textAccount : String :=
  "str(object='') -> str\nstr(bytes_or_buffer[, encoding[, errors]]) -> str\n\n" ++
    "Create a new string object from the given object. If encoding or\n" ++
    "errors is specified, then the object must expose a data buffer\n" ++
    "that will be decoded using the given encoding and error handler.\n" ++
    "Otherwise, returns the result of object.__str__() (if defined)\n" ++
    "or repr(object).\n" ++
    "encoding defaults to sys.getdefaultencoding().\n" ++
    "errors defaults to 'strict'."

/-- What a field can stand for. -/
inductive Subject where
  | text (s : List Char)
  | kind (k : Kind)
  | kinds (ks : List Kind)
  /-- An operation of a certain text. -/
  | operation (name : String) (of : List Char)
  /-- An operation of all texts. -/
  | member (name : String)
  | nothing
  deriving DecidableEq, Repr

namespace Subject

/-- A subject that is a given text. -/
def ofString (s : String) : Subject := .text s.toList

/-- The kind of a subject. -/
def kindOf : Subject → Kind
  | .text _ => .text
  | .kind _ => .kind
  | .kinds _ => .row
  | .operation name _ => if signOperations.contains name then .signOperation else .operation
  | .member name => if signOperations.contains name then .signMember else .member
  | .nothing => .nothing

/-- Whether texts have an operation of this name. -/
def isOperation (name : String) : Bool :=
  namedOperations.contains name || signOperations.contains name

/-- A feature of a kind. -/
def kindFeature? (k : Kind) (name : String) : Option Subject :=
  match name with
  | "__name__" | "__qualname__" => some (.ofString k.name)
  | "__module__" => some (.ofString "builtins")
  | "__base__" => some (k.base?.elim .nothing .kind)
  | "__bases__" => some (.kinds k.base?.toList)
  | "__mro__" => some (.kinds k.lineage)
  | "__text_signature__" => some .nothing
  | _ =>
    match k with
    | .text =>
      if name = "__doc__" then some (.ofString textAccount)
      else if isOperation name then some (.member name) else none
    | .thing =>
      if commonOperations.contains name then some (.member name) else none
    | _ => none

/-- A feature of a subject by its name. -/
def feature? (x : Subject) (name : String) : Option Subject :=
  if name = "__class__" then some (.kind x.kindOf)
  else
    match x with
    | .text s =>
      if name = "__doc__" then some (.ofString textAccount)
      else if isOperation name then some (.operation name s) else none
    | .kind k => kindFeature? k name
    | .kinds _ => none
    | .operation op s =>
      match name with
      | "__name__" => some (.ofString op)
      | "__self__" => some (.text s)
      | "__qualname__" =>
        let owner := if signOperations.contains op then operationOwner op else .text
        some (.ofString (owner.name ++ "." ++ op))
      | "__objclass__" =>
        if signOperations.contains op then some (.kind (operationOwner op)) else none
      | "__module__" => if signOperations.contains op then none else some .nothing
      | _ => none
    | .member op =>
      match name with
      | "__name__" => some (.ofString op)
      | "__qualname__" => some (.ofString ((operationOwner op).name ++ "." ++ op))
      | "__objclass__" => some (.kind (operationOwner op))
      | _ => none
    | .nothing => if name = "__doc__" then some .nothing else none

/-- Whether a subject has items. -/
def hasItems : Subject → Bool
  | .text _ | .kinds _ => true
  | .kind _ | .operation .. | .member _ | .nothing => false

/-- The item of a subject at a position. -/
def item? (x : Subject) (n : Nat) : Option Subject :=
  match x with
  | .text s => s[n]?.map fun c => .text [c]
  | .kinds ks => ks[n]?.map .kind
  | .kind _ | .operation .. | .member _ | .nothing => none

/-- A subject as it is shown. -/
def display : Subject → List Char
  | .text s => s
  | .kind k => k.display.toList
  | .kinds [k] => ("(" ++ k.display ++ ",)").toList
  | .kinds ks => ("(" ++ ", ".intercalate (ks.map Kind.display) ++ ")").toList
  | .operation name _ =>
    if signOperations.contains name then ("<method-wrapper '" ++ name ++ "' of str object>").toList
    else ("<built-in method " ++ name ++ " of str object>").toList
  | .member name =>
    let sort := if signOperations.contains name then "slot wrapper" else "method"
    ("<" ++ sort ++ " '" ++ name ++ "' of '" ++ (operationOwner name).name ++ "' objects>").toList
  | .nothing => "None".toList

/-- A subject as it is shown when a text is to be told from other subjects. -/
def inspect : Subject → String
  | .text s => quoted (String.ofList s)
  | x => String.ofList x.display

end Subject

end TextAdventure.Text
