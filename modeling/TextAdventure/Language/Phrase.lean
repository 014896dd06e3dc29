import TextAdventure.Language.Vocabulary
import TextAdventure.Text.Words

/-!
# Phrases

Reading one line of a player into a verb and an object. Case, punctuation around words and the
amount of white space do not matter, and neither do fluff words. A line that joins two commands is
refused as a whole.
-/

namespace TextAdventure

/-- What a player asks for. -/
structure Phrase where
  /-- The line as it was typed. -/
  line : String
  verb : String
  /-- The words after the verb, joined by the separator; empty if there are none. -/
  object : String
  /-- The verb as it was typed, if it was an alias. -/
  typedVerb : Option String
  /-- The operator that stood between verb and object. -/
  operator : Option String
  deriving DecidableEq, Repr

/-- What reading a line gives. -/
inductive Reading where
  /-- The line has no words that matter. -/
  | nothing
  /-- The line joins two commands. -/
  | compound
  | phrase (p : Phrase)
  deriving DecidableEq, Repr

namespace Reading

/-- The phrase that was read, if any. -/
def phrase? : Reading → Option Phrase
  | .phrase p => some p
  | _ => none

end Reading

namespace Vocabulary

/-- The words of a line that matter: folded, without punctuation at their ends, and without
fluff. -/
def tokens (v : Vocabulary) (line : String) : List String :=
  ((Text.splitWords (Text.foldChars line.toList)).map fun w =>
      String.ofList (Text.trim Text.isPunctuation w)).filter
    fun t => t != "" && !isAmong t v.fluff

/-- The operator of a phrase and the words of its object, given the words after the verb. An
operator counts only if an object follows it. -/
def splitOperator (v : Vocabulary) : List String → Option String × List String
  | word :: next :: rest =>
    if isAmong word v.operators then (some word, next :: rest) else (none, word :: next :: rest)
  | rest => (none, rest)

/-- Reads a line. -/
def readLine (v : Vocabulary) (line : String) : Reading :=
  match v.tokens line with
  | [] => .nothing
  | first :: rest =>
    if (first :: rest).any fun t => isAmong t v.linkers then .compound
    else
      let (operator, object) := v.splitOperator rest
      match v.resolveAlias? first with
      | some verb =>
        .phrase ⟨line, verb, Text.join v.separator object, some first, operator⟩
      | none =>
        .phrase ⟨line, v.spelling first, Text.join v.separator object, none, operator⟩

/-- The phrase of a line, if it can be handled. -/
def parse? (v : Vocabulary) (line : String) : Option Phrase := (v.readLine line).phrase?

end Vocabulary

end TextAdventure
