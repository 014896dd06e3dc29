import TextAdventure.Text.Words

/-!
# Paths

Paths to files as they are typed. Reading a path drops what makes no difference: repeated slashes,
a slash at the end, and steps that stay where they are.
-/

namespace TextAdventure

/-- A path: the slashes with which it begins, if it begins at the root, and its steps. -/
structure Path where
  root : String
  steps : List String
  deriving DecidableEq, Repr

namespace Path

/-- Reads a path. Two slashes at the beginning are kept apart from one; more are one. -/
def ofText (text : String) : Path :=
  let cs := text.toList
  let slashes := (cs.takeWhile (· == '/')).length
  { root := if slashes = 0 then "" else if slashes = 2 then "//" else "/"
    steps := ((Text.partsAt '/' cs).map String.ofList).filter fun s => s != "" && s != "." }

/-- The written form of a path; that of one without steps is a dot. -/
def toText (p : Path) : String :=
  let text := p.root ++ "/".intercalate p.steps
  if text = "" then "." else text

/-- The last step. -/
def name (p : Path) : String := p.steps.getLastD ""

/-- One path taken from the end of another, unless it begins at the root. -/
def join (p q : Path) : Path := if q.root = "" then { p with steps := p.steps ++ q.steps } else q

/-- Whether a path leads to a folder above another one. -/
def isAbove (p q : Path) : Bool :=
  p.root == q.root && p.steps.length < q.steps.length && p.steps.isPrefixOf q.steps

/-- Whether a path can be the name of a file at all. -/
def isName (p : Path) : Bool := p.steps.all fun s => !s.toList.contains '\x00'

/-- The most bytes that a step may have. -/
def maxStep : Nat := 255

/-- The most bytes that a path may have. -/
def maxLength : Nat := 4095

end Path

end TextAdventure
