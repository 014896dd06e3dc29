import TextAdventure.Value.Basic

/-!
# Equality of values

`Value` has decidable equality, which tells all values apart. `Value.equals` is the equality of
selectors: numbers are compared by what they count, so that `1`, `1.0` and `true` are equal, and
tables and sets without regard to order; labels do not matter. Inside lists and tables, and for the
keys of a table, `Value.agrees` counts: there an object equals itself even if it is a number that
equals nothing. On texts all these agree (`equals_text_left`, `agrees_text_left`).
-/

namespace TextAdventure

namespace Value

/-- Whether two values are known to be one object: their labels tell, and the number that is none
is one object unless it has a label. -/
def isOneWith : Value → Value → Bool
  | .float .nan, .float .nan => true
  | .shared l _, .shared m _ => l == m
  | .shared l _, .again m => l == m
  | .again l, .shared m _ => l == m
  | .again l, .again m => l == m
  | _, _ => false

mutual
/-- Whether two values are equal as selectors see them. -/
def equals (a : Value) : Value → Bool
  | .null =>
    match a with
    | .null => true
    | _ => false
  | .bool q => a.whole? == some (if q then 1 else 0)
  | .int n => a.whole? == some n
  | .float y =>
    match a.bare with
    | .float x => x.equals y
    | a => y.toInt?.isSome && a.whole? == y.toInt?
  | .text t =>
    match a with
    | .text s => s == t
    | _ => false
  | .damaged t =>
    match a with
    | .damaged s => s == t
    | _ => false
  | .binary t =>
    match a with
    | .binary s => s == t
    | _ => false
  | .stamp t =>
    match a.bare with
    | .stamp s => s.equals t
    | _ => false
  | .list ys =>
    match a.bare with
    | .list xs => agreesList xs ys
    | _ => false
  | .table ys =>
    match a.bare with
    | .table xs => xs.length == ys.length && agreesTable xs ys
    | _ => false
  | .pair c d =>
    match a.bare with
    | .pair x y => (x.isOneWith c || equals x c) && (y.isOneWith d || equals y d)
    | _ => false
  | .set ys =>
    match a.bare with
    | .set xs => xs.length == ys.length && agreesSet xs ys
    | _ => false
  | .shared _ b =>
    match a with
    | .text _ => false
    | a => equals a b
  | .again _ => false
termination_by structural v => v

/-- Whether two lists agree item by item. -/
def agreesList (xs : List Value) : List Value → Bool
  | [] => xs.isEmpty
  | y :: ys =>
    match xs with
    | x :: xs => (x.isOneWith y || equals x y) && agreesList xs ys
    | [] => false
termination_by structural v => v

/-- Whether each entry of the second table has one in the first that agrees with it. -/
def agreesTable (xs : List (Value × Value)) : List (Value × Value) → Bool
  | [] => true
  | y :: ys => agreesEntry xs y && agreesTable xs ys
termination_by structural v => v

/-- Whether an entry has one in a table that agrees with it. -/
def agreesEntry (xs : List (Value × Value)) : Value × Value → Bool
  | (k, v) => xs.any fun e => (e.1.isOneWith k || equals e.1 k) && (e.2.isOneWith v || equals e.2 v)
termination_by structural v => v

/-- Whether each item of the second set has one in the first that agrees with it. -/
def agreesSet (xs : List Value) : List Value → Bool
  | [] => true
  | y :: ys => (xs.any fun x => x.isOneWith y || equals x y) && agreesSet xs ys
termination_by structural v => v
end

/-- Whether two values are one object or equal. -/
def agrees (a b : Value) : Bool := a.isOneWith b || equals a b

/-- A text equals itself and nothing else. -/
@[simp] theorem equals_text_left (s : String) (v : Value) :
    equals (.text s) v = true ↔ v = .text s := by
  cases v with
  | text t => simpa [equals] using ⟨Eq.symm, Eq.symm⟩
  | float y => simp [equals, bare, whole?]; intro h e; simp [← e] at h
  | _ => simp [equals, bare, whole?]

/-- A text agrees with itself and nothing else. -/
@[simp] theorem agrees_text_left (s : String) (v : Value) :
    agrees (.text s) v = true ↔ v = .text s := by
  simp [agrees, isOneWith]

/-- A text agrees with no other value. -/
theorem agrees_text_of_ne {s : String} {v : Value} (h : v ≠ .text s) :
    agrees (.text s) v = false :=
  Bool.eq_false_iff.2 fun e => h ((agrees_text_left s v).1 e)

end Value

end TextAdventure
