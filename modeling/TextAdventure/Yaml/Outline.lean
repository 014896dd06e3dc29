import TextAdventure.Yaml.Document

/-!
# Outlines of documents

What is to be written of a value: scalars, lists and tables as before, but the entries of every table
in order, and every object that may stand at several places with its label. Keys are in increasing
order if they can be compared: all of them are texts, or numbers, or bytes, or dates, or points in
time. Keys of several kinds stay in the order in which they stand.
-/

namespace TextAdventure.Yaml

/-- What is to be written of a value. -/
inductive Outline where
  | scalar (label : Option Label) (v : Value)
  | sequence (label : Option Label) (items : List Outline)
  | mapping (label : Option Label) (isSet : Bool) (entries : List (Outline × Outline))
  /-- An object that is written around this place. -/
  | alias (label : Label)
  deriving Repr, Inhabited

namespace Outline

/-! ### The order of keys -/

/-- Whether one number lies below another; what is no number lies below nothing. -/
def numberLess (a b : Value) : Bool :=
  let ratio? : Value → Option (Int × Nat)
    | .float (.finite s m e) => some (Binary64.signedRatio s m e)
    | v => v.whole?.map (·, 1)
  let infinite? : Value → Option Bool
    | .float (.infinite s) => some s
    | _ => none
  match infinite? a, infinite? b, ratio? a, ratio? b with
  | some s, some t, _, _ => s && !t
  | some s, none, _, some _ => s
  | none, some t, some _, _ => !t
  | none, none, some (m, d), some (n, e) => m * e < n * d
  | _, _, _, _ => false

/-- The codes of a text. -/
def codes? : Value → Option (List Nat)
  | .text s => some (s.toList.map Char.toNat)
  | .damaged codes => some codes
  | _ => none

/-- The bytes of a value. -/
def bytes? : Value → Option (List Nat)
  | .binary bytes => some (bytes.map UInt8.toNat)
  | _ => none

/-- The date or point in time that a value is. -/
def stamp? (v : Value) : Option Stamp :=
  match v.bare with
  | .stamp s => some s
  | _ => none

/-- Whether a value is a number. -/
def isNumber : Value → Bool
  | .bool _ | .int _ | .float _ => true
  | _ => false

/-- How keys are compared, if they can be. -/
def less? (keys : List Value) : Option (Value → Value → Bool) :=
  let along? {α : Type} (part? : Value → Option α) (less : α → α → Bool) :
      Option (Value → Value → Bool) :=
    if keys.all fun k => (part? k).isSome then
      some fun a b =>
        match part? a, part? b with
        | some x, some y => less x y
        | _, _ => false
    else none
  let ofSort (hasClock hasOffset : Bool) (v : Value) : Option Int :=
    ((stamp? v).filter fun s =>
      s.clock.isSome == hasClock && s.offset?.isSome == hasOffset).map (·.instant)
  let keys' := keys.map Value.bare
  (along? codes? fun x y => x < y).or <|
    (if keys'.all isNumber then some fun a b => numberLess a.bare b.bare else none).or <|
    (along? bytes? fun x y => x < y).or <|
    (along? (ofSort false false) fun x y => x < y).or <|
    (along? (ofSort true false) fun x y => x < y).or <|
    along? (ofSort true true) fun x y => x < y

/-- Puts an element into a sorted list: behind all that it does not lie below, as far as halving the
list tells. The search takes no more than `n` steps. -/
def insertSorted {α : Type} (less : α → α → Bool) (x : α) (xs : List α) : List α :=
  let rec search : Nat → Nat → Nat → Nat
    | 0, low, _ => low
    | n + 1, low, high =>
      if low < high then
        let middle := low + (high - low) / 2
        match xs[middle]? with
        | some y => if less x y then search n low middle else search n (middle + 1) high
        | none => low
      else low
  xs.insertIdx (search (xs.length + 1) 0 xs.length) x

/-- The elements at the beginning of a list that go on as the first two do, after the given one. -/
def runAfter {α : Type} (goesOn : α → α → Bool) (x : α) : List α → List α × List α
  | [] => ([], [])
  | y :: rest =>
    if goesOn x y then
      let (run, rest) := runAfter goesOn y rest
      (y :: run, rest)
    else ([], y :: rest)

/-- Sorts a list: the increasing or decreasing run that it begins with is kept, and the other
elements are put in one by one. -/
def sort {α : Type} (less : α → α → Bool) : List α → List α
  | x :: y :: rest =>
    let (run, rest) :=
      if less y x then
        let (run, rest) := runAfter (fun a b => less b a) x (y :: rest)
        ((x :: run).reverse, rest)
      else
        let (run, rest) := runAfter (fun a b => !less b a) x (y :: rest)
        (x :: run, rest)
    rest.foldl (fun sorted e => insertSorted less e sorted) run
  | xs => xs

/-- Entries in the order of their keys, which are given with them. -/
def sortEntries {α : Type} (entries : List (Value × α)) : List α :=
  match less? (entries.map (·.1)) with
  | some less => (sort (fun a b => less a.1 b.1) entries).map (·.2)
  | none => entries.map (·.2)

/-! ### Outlines of values -/

/-- An outline with a label. Of the scalars only points in time and dates have one. -/
def withLabel (l : Label) : Outline → Outline
  | .scalar _ (.stamp s) => .scalar (some l) (.stamp s)
  | .sequence _ items => .sequence (some l) items
  | .mapping _ isSet entries => .mapping (some l) isSet entries
  | o => o

mutual
/-- The outline of a value. -/
def ofValue : Value → Outline
  | .list items => .sequence none (ofItems items)
  | .pair a b => .sequence none [ofValue a, ofValue b]
  | .table entries => .mapping none false (sortEntries (ofEntries entries))
  | .set items => .mapping none true (sortEntries (ofKeys items))
  | .shared l v => withLabel l (ofValue v)
  | .again l => .alias l
  | v => .scalar none v
termination_by structural v => v

/-- The outlines of the items of a list. -/
def ofItems : List Value → List Outline
  | [] => []
  | x :: xs => ofValue x :: ofItems xs
termination_by structural v => v

/-- The outlines of the entries of a table, with their keys. -/
def ofEntries : List (Value × Value) → List (Value × (Outline × Outline))
  | [] => []
  | x :: xs => ofEntry x :: ofEntries xs
termination_by structural v => v

/-- The outline of an entry of a table, with its key. -/
def ofEntry : Value × Value → Value × (Outline × Outline)
  | (k, v) => (k, ofValue k, ofValue v)
termination_by structural v => v

/-- The outlines of the items of a set, which are written as keys. -/
def ofKeys : List Value → List (Value × (Outline × Outline))
  | [] => []
  | x :: xs => (x, ofValue x, .scalar none .null) :: ofKeys xs
termination_by structural v => v
end

/-- The outlines of the entries of a table in their order. -/
def ofFields (entries : Fields) : List (Outline × Outline) := sortEntries (ofEntries entries)

/-! ### Anchors -/

/-- The objects that have been come upon, and those of them that need an anchor, the latest one
first. -/
structure Meetings where
  seen : List Label
  twice : List Label

/-- Comes upon an object: what it holds is looked at only the first time. -/
def meet (label : Option Label) (inside : Meetings → Meetings) (m : Meetings) : Meetings :=
  match label with
  | none => inside m
  | some l =>
    if m.seen.contains l then
      if m.twice.contains l then m else { m with twice := l :: m.twice }
    else inside { m with seen := l :: m.seen }

mutual
/-- Comes upon all objects of an outline. -/
def meetAll : Outline → Meetings → Meetings
  | .scalar label _, m => meet label id m
  | .sequence label items, m => meet label (meetItems items) m
  | .mapping label _ entries, m => meet label (meetEntries entries) m
  | .alias label, m => meet (some label) id m
termination_by structural o => o

/-- Comes upon all objects of the items of a list. -/
def meetItems : List Outline → Meetings → Meetings
  | [], m => m
  | x :: xs, m => meetItems xs (meetAll x m)
termination_by structural o => o

/-- Comes upon all objects of the entries of a table. -/
def meetEntries : List (Outline × Outline) → Meetings → Meetings
  | [], m => m
  | x :: xs, m => meetEntries xs (meetEntry x m)
termination_by structural o => o

/-- Comes upon all objects of an entry of a table. -/
def meetEntry : Outline × Outline → Meetings → Meetings
  | (k, v), m => meetAll v (meetAll k m)
termination_by structural o => o
end

/-- The numbers of the anchors in a document, in the order in which the need for them shows. -/
def numbersOf (entries : List (Outline × Outline)) : List (Label × Nat) :=
  (meetEntries entries ⟨[], []⟩).twice.reverse.mapIdx fun i l => (l, i + 1)

end Outline

end TextAdventure.Yaml
