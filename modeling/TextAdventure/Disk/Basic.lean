import TextAdventure.Disk.Path
import TextAdventure.Text.Bytes
import TextAdventure.Yaml.Document

/-!
# Files on a disk

The files that a game reads and writes. A folder is there if a file is in it or if it is listed;
files can be read, and written where their folder is.
-/

namespace TextAdventure

/-- What a file holds. -/
inductive Content where
  | text (s : String)
  /-- A document that has been read already. -/
  | document (v : Value)
  /-- Bytes that need not be the UTF-8 of a text. -/
  | raw (bytes : List UInt8)
  deriving DecidableEq, Repr

/-- The value of a document. -/
def Content.read : Content → Except Yaml.ReadError Value
  | .text s => Yaml.read s
  | .document v => .ok v
  | .raw bytes =>
    match Text.ofUtf8? bytes with
    | some s => Yaml.read s
    | none => .error (.defect .badForm)

/-- Why a file cannot be reached. -/
inductive FileError where
  | missing
  /-- There is a folder in its place. -/
  | isFolder
  /-- There is a file in the place of a folder on the way. -/
  | notFolder
  /-- No file can have the name. -/
  | badName
  /-- The name, or a step on the way, is longer than names can be. -/
  | longName
  deriving DecidableEq, Repr

/-- Why a document cannot be loaded. -/
inductive LoadError where
  | file (e : FileError)
  | content (e : Yaml.ReadError)
  deriving DecidableEq, Repr

/-- A disk: its files, and folders that may be without files. -/
structure Disk where
  folders : List Path
  files : List (Path × Content)
  deriving DecidableEq, Repr

namespace Disk

/-- A disk without files. -/
def empty : Disk := ⟨[], []⟩

/-- Whether there is a folder at a place. -/
def isFolder (d : Disk) (place : Path) : Bool :=
  place.steps.all (· == "..") || d.folders.any (fun f => f == place || place.isAbove f) ||
    d.files.any fun f => place.isAbove f.1

/-- The file at a place. -/
def file? (d : Disk) (place : Path) : Option Content := d.files.lookup place

/-- Takes the steps of a path one by one; all but the last must lead to folders. -/
def walk (d : Disk) (place : Path) : List String → Except FileError Path
  | [] => .ok place
  | step :: rest =>
    if d.isFolder place then
      if Path.maxStep < step.utf8ByteSize then .error .longName
      else if step = ".." then
        if place.steps = [] ∧ place.root ≠ "" then d.walk place rest
        else if place.steps.all (· == "..") then
          d.walk { place with steps := place.steps ++ [".."] } rest
        else d.walk { place with steps := place.steps.dropLast } rest
      else d.walk { place with steps := place.steps ++ [step] } rest
    else if (d.file? place).isSome then .error .notFolder
    else .error .missing

/-- The place to which a path leads. -/
def locate (d : Disk) (p : Path) : Except FileError Path :=
  if !p.isName then .error .badName
  else if Path.maxLength < p.toText.utf8ByteSize then .error .longName
  else d.walk ⟨p.root, []⟩ p.steps

/-- What a file holds. -/
def read (d : Disk) (p : Path) : Except FileError Content := do
  let place ← d.locate p
  match d.file? place with
  | some content => return content
  | none => .error (if d.isFolder place then .isFolder else .missing)

/-- Whether there is a file or a folder. What has too long a name cannot even be looked for. -/
def has (d : Disk) (p : Path) : Except FileError Bool :=
  match d.read p with
  | .ok _ | .error .isFolder => .ok true
  | .error .longName => .error .longName
  | .error _ => .ok false

/-- Puts a content in the place of the one that a file has, or adds a file. -/
def putFile (place : Path) (content : Content) : List (Path × Content) → List (Path × Content)
  | [] => [(place, content)]
  | (p, old) :: rest =>
    if p = place then (p, content) :: rest else (p, old) :: putFile place content rest

/-- Writes a file. -/
def write (d : Disk) (p : Path) (content : Content) : Except FileError Disk := do
  let place ← d.locate p
  if d.isFolder place then .error .isFolder
  else return { d with files := putFile place content d.files }

/-- Loads a document; an empty one stands for null. -/
def load (d : Disk) (p : Path) : Except LoadError Value :=
  match d.read p with
  | .error e => .error (.file e)
  | .ok content => content.read.mapError .content

/-! ### What is written is found -/

@[simp] theorem lookup_putFile (place : Path) (content : Content) (files : List (Path × Content)) :
    (putFile place content files).lookup place = some content := by
  induction files with
  | nil => simp [putFile]
  | cons f files ih =>
    obtain ⟨p, old⟩ := f
    by_cases h : p = place
    · simp [putFile, h]
    · have h' : (place == p) = false := by simpa using Ne.symm h
      simp [putFile, h, List.lookup_cons, h', ih]

theorem lookup_putFile_of_ne {place other : Path} (h : other ≠ place) (content : Content)
    (files : List (Path × Content)) :
    (putFile place content files).lookup other = files.lookup other := by
  induction files with
  | nil => simp [putFile, h]
  | cons f files ih =>
    obtain ⟨p, old⟩ := f
    by_cases hp : p = place
    · subst hp
      have h' : (other == p) = false := by simpa using h
      simp [putFile, List.lookup_cons, h']
    · simp only [putFile, hp, if_false, List.lookup_cons]
      split <;> simp_all

end Disk

end TextAdventure
