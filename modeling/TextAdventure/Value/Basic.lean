import TextAdventure.Number.Binary64
import TextAdventure.Value.Stamp

/-!
# Values

The values that documents, records and message tables hold: scalars, lists, and tables whose
entries keep the order in which they were written. A document may also hold bytes, sets, and lists
of pairs.

In a document one object may stand at several places, and even inside itself. Every place of such
an object is marked with the same label (`Value.shared`), and a place inside the object where it
stands again holds the label only (`Value.again`); so a value is always a finite tree. Two values
that differ in labels only hold the same things, and `Value.bare` takes the label off before a value
is looked into.
-/

namespace TextAdventure

/-- What tells an object that stands at several places from all others. Records that are copied on
their own have their own copies of the objects in them. -/
structure Label where
  copy : Nat
  number : Nat
  deriving DecidableEq, Repr, Inhabited

/-- A value of a document. -/
inductive Value where
  | null
  | bool (b : Bool)
  | int (n : Int)
  | float (x : Binary64)
  | text (s : String)
  /-- A text with codes that are no characters: halves of pairs that stand for one character. -/
  | damaged (codes : List Nat)
  | binary (bytes : List UInt8)
  | stamp (s : Stamp)
  | list (items : List Value)
  | table (entries : List (Value × Value))
  /-- An entry of a list of pairs. -/
  | pair (first second : Value)
  | set (items : List Value)
  /-- An object that may stand at other places as well. -/
  | shared (label : Label) (v : Value)
  /-- The object around this place that has the label. -/
  | again (label : Label)
  deriving Repr, Inhabited

/-- The entries of a table, in the order in which they were written. -/
abbrev Fields := List (Value × Value)

namespace Value

/-! ### Sameness -/

mutual
/-- Whether two values are the same. -/
def isSame : Value → Value → Bool
  | .null, .null => true
  | .bool a, .bool b => a == b
  | .int m, .int n => m == n
  | .float x, .float y => x == y
  | .text s, .text t => s == t
  | .damaged s, .damaged t => s == t
  | .binary s, .binary t => s == t
  | .stamp s, .stamp t => s == t
  | .list xs, .list ys => isSameList xs ys
  | .table xs, .table ys => isSameTable xs ys
  | .pair a b, .pair c d => isSame a c && isSame b d
  | .set xs, .set ys => isSameList xs ys
  | .shared l v, .shared m w => l == m && isSame v w
  | .again l, .again m => l == m
  | _, _ => false
termination_by structural v => v

/-- Whether two lists hold the same values. -/
def isSameList : List Value → List Value → Bool
  | [], [] => true
  | x :: xs, y :: ys => isSame x y && isSameList xs ys
  | _, _ => false
termination_by structural v => v

/-- Whether two tables hold the same entries in the same order. -/
def isSameTable : List (Value × Value) → List (Value × Value) → Bool
  | [], [] => true
  | x :: xs, y :: ys => isSameEntry x y && isSameTable xs ys
  | _, _ => false
termination_by structural v => v

/-- Whether two entries are the same. -/
def isSameEntry : Value × Value → Value × Value → Bool
  | (k, v), (k', v') => isSame k k' && isSame v v'
termination_by structural v => v
end

mutual
private theorem eq_of_isSame : ∀ a b : Value, isSame a b = true → a = b
  | .null, b, h => by cases b <;> simp_all [isSame]
  | .bool _, b, h => by cases b <;> simp_all [isSame]
  | .int _, b, h => by cases b <;> simp_all [isSame]
  | .float _, b, h => by cases b <;> simp_all [isSame]
  | .text _, b, h => by cases b <;> simp_all [isSame]
  | .damaged _, b, h => by cases b <;> simp_all [isSame]
  | .binary _, b, h => by cases b <;> simp_all [isSame]
  | .stamp _, b, h => by cases b <;> simp_all [isSame]
  | .again _, b, h => by cases b <;> simp_all [isSame]
  | .list xs, b, h => by
    cases b with
    | list ys => simp only [isSame] at h; rw [eq_of_isSameList xs ys h]
    | _ => simp [isSame] at h
  | .table xs, b, h => by
    cases b with
    | table ys => simp only [isSame] at h; rw [eq_of_isSameTable xs ys h]
    | _ => simp [isSame] at h
  | .pair x y, b, h => by
    cases b with
    | pair z w =>
      simp only [isSame, Bool.and_eq_true] at h
      rw [eq_of_isSame x z h.1, eq_of_isSame y w h.2]
    | _ => simp [isSame] at h
  | .set xs, b, h => by
    cases b with
    | set ys => simp only [isSame] at h; rw [eq_of_isSameList xs ys h]
    | _ => simp [isSame] at h
  | .shared l v, b, h => by
    cases b with
    | shared m w =>
      simp only [isSame, Bool.and_eq_true, beq_iff_eq] at h
      rw [h.1, eq_of_isSame v w h.2]
    | _ => simp [isSame] at h
termination_by structural v => v

private theorem eq_of_isSameList : ∀ a b : List Value, isSameList a b = true → a = b
  | [], b, h => by cases b <;> simp_all [isSameList]
  | x :: xs, b, h => by
    cases b with
    | nil => simp [isSameList] at h
    | cons y ys =>
      simp only [isSameList, Bool.and_eq_true] at h
      rw [eq_of_isSame x y h.1, eq_of_isSameList xs ys h.2]
termination_by structural v => v

private theorem eq_of_isSameTable : ∀ a b : List (Value × Value), isSameTable a b = true → a = b
  | [], b, h => by cases b <;> simp_all [isSameTable]
  | x :: xs, b, h => by
    cases b with
    | nil => simp [isSameTable] at h
    | cons y ys =>
      simp only [isSameTable, Bool.and_eq_true] at h
      rw [eq_of_isSameEntry x y h.1, eq_of_isSameTable xs ys h.2]
termination_by structural v => v

private theorem eq_of_isSameEntry : ∀ a b : Value × Value, isSameEntry a b = true → a = b
  | (k, v), (k', v'), h => by
    simp only [isSameEntry, Bool.and_eq_true] at h
    rw [eq_of_isSame k k' h.1, eq_of_isSame v v' h.2]
termination_by structural v => v
end

mutual
private theorem isSame_self : ∀ a : Value, isSame a a = true
  | .null => rfl
  | .bool _ => by simp [isSame]
  | .int _ => by simp [isSame]
  | .float _ => by simp [isSame]
  | .text _ => by simp [isSame]
  | .damaged _ => by simp [isSame]
  | .binary _ => by simp [isSame]
  | .stamp _ => by simp [isSame]
  | .again _ => by simp [isSame]
  | .list xs => by simp only [isSame]; exact isSameList_self xs
  | .table xs => by simp only [isSame]; exact isSameTable_self xs
  | .pair a b => by simp only [isSame, isSame_self a, isSame_self b, Bool.and_self]
  | .set xs => by simp only [isSame]; exact isSameList_self xs
  | .shared l v => by simp only [isSame, isSame_self v, BEq.rfl, Bool.and_self]
termination_by structural v => v

private theorem isSameList_self : ∀ a : List Value, isSameList a a = true
  | [] => rfl
  | x :: xs => by simp only [isSameList, isSame_self x, isSameList_self xs, Bool.and_self]
termination_by structural v => v

private theorem isSameTable_self : ∀ a : List (Value × Value), isSameTable a a = true
  | [] => rfl
  | x :: xs => by simp only [isSameTable, isSameEntry_self x, isSameTable_self xs, Bool.and_self]
termination_by structural v => v

private theorem isSameEntry_self : ∀ a : Value × Value, isSameEntry a a = true
  | (k, v) => by simp only [isSameEntry, isSame_self k, isSame_self v, Bool.and_self]
termination_by structural v => v
end

instance : DecidableEq Value := fun a b =>
  if h : isSame a b = true then isTrue (eq_of_isSame a b h)
  else isFalse fun e => h (e ▸ isSame_self a)

/-! ### Objects that stand at several places -/

mutual
/-- A value with an object put in where its label stands for it. -/
def fill (l : Label) (whole : Value) : Value → Value
  | .list items => .list (fillList l whole items)
  | .table entries => .table (fillTable l whole entries)
  | .pair a b => .pair (fill l whole a) (fill l whole b)
  | .set items => .set (fillList l whole items)
  | .shared m v => if m = l then .shared m v else .shared m (fill l whole v)
  | .again m => if m = l then whole else .again m
  | v => v
termination_by structural v => v

/-- The items of a list with an object put in. -/
def fillList (l : Label) (whole : Value) : List Value → List Value
  | [] => []
  | x :: xs => fill l whole x :: fillList l whole xs
termination_by structural v => v

/-- The entries of a table with an object put in. -/
def fillTable (l : Label) (whole : Value) : List (Value × Value) → List (Value × Value)
  | [] => []
  | x :: xs => fillEntry l whole x :: fillTable l whole xs
termination_by structural v => v

/-- An entry of a table with an object put in. -/
def fillEntry (l : Label) (whole : Value) : Value × Value → Value × Value
  | (k, v) => (fill l whole k, fill l whole v)
termination_by structural v => v
end

/-- The value without its label, so that one can look into it. -/
def bare : Value → Value
  | .shared l v => fill l (.shared l v) v
  | v => v

/-! ### Kinds of values -/

/-- Whether a value counts as given: not null, not false, not zero and not empty. -/
def isGiven : Value → Bool
  | .null => false
  | .bool b => b
  | .int n => n != 0
  | .float x => !x.isZero
  | .text s => s != ""
  | .damaged codes => !codes.isEmpty
  | .binary bytes => !bytes.isEmpty
  | .stamp _ => true
  | .list items => !items.isEmpty
  | .table entries => !entries.isEmpty
  | .pair .. => true
  | .set items => !items.isEmpty
  | .shared _ v => isGiven v
  | .again _ => true

/-- Whether a value may be the key of a table entry. -/
def isKey : Value → Bool
  | .list _ | .table _ | .set _ | .again _ => false
  | .pair a b => isKey a && isKey b
  | .shared _ v => isKey v
  | _ => true

/-- The text that a value is, if it is one. -/
def text? : Value → Option String
  | .text s => some s
  | _ => none

/-- The entries of a table. -/
def fields? (v : Value) : Option Fields :=
  match v.bare with
  | .table entries => some entries
  | _ => none

/-- The items of a list. -/
def items? (v : Value) : Option (List Value) :=
  match v.bare with
  | .list items => some items
  | _ => none

/-- What a value counts, if it is a whole number: a truth value counts as one or zero. -/
def whole? : Value → Option Int
  | .bool b => some (if b then 1 else 0)
  | .int n => some n
  | .float x => x.toInt?
  | _ => none

@[simp] theorem fields?_table (entries : Fields) : fields? (.table entries) = some entries := rfl

@[simp] theorem items?_list (items : List Value) : items? (.list items) = some items := rfl

end Value

end TextAdventure
