import TextAdventure.Disk.Basic

/-!
# Writing files

Writing a file that can be written leaves all other files and all folders as they are, so that paths
lead where they led before and other documents load as before (`Disk.AgreesBut`). In particular the
file can be written again and again.
-/

namespace TextAdventure

theorem Path.isAbove_iff {p q : Path} :
    p.isAbove q = true ↔ p.root = q.root ∧ p.steps.length < q.steps.length ∧ p.steps <+: q.steps := by
  simp [isAbove, and_assoc]

namespace Disk

variable {d d' : Disk} {place : Path}

/-- All places above a place are folders. -/
def FoldersAbove (d : Disk) (place : Path) : Prop :=
  ∀ q : Path, q.isAbove place = true → d.isFolder q = true

/-- What is above a step from a folder is the folder or above it. -/
theorem FoldersAbove.step (h : d.FoldersAbove place) (hfolder : d.isFolder place = true)
    (step : String) : d.FoldersAbove { place with steps := place.steps ++ [step] } := by
  intro q hq
  obtain ⟨hroot, hlength, hprefix⟩ := Path.isAbove_iff.1 hq
  have hlength' : q.steps.length ≤ place.steps.length := by
    simpa [Nat.lt_succ_iff] using hlength
  have hprefix' : q.steps <+: place.steps :=
    List.prefix_of_prefix_length_le hprefix (List.prefix_append _ _) hlength'
  -- a prefix that is not shorter is the folder itself
  rcases Nat.lt_or_ge q.steps.length place.steps.length with hless | hge
  · exact h q (Path.isAbove_iff.2 ⟨hroot, hless, hprefix'⟩)
  · have hsteps : q.steps = place.steps := hprefix'.eq_of_length_le hge
    have hq : q = place := by
      cases q
      cases place
      simp_all
    rwa [hq]

theorem FoldersAbove.dropLast (h : d.FoldersAbove place) :
    d.FoldersAbove { place with steps := place.steps.dropLast } := by
  intro q hq
  obtain ⟨hroot, hlength, hprefix⟩ := Path.isAbove_iff.1 hq
  have hle : place.steps.dropLast.length ≤ place.steps.length := by
    simp
  exact h q (Path.isAbove_iff.2
    ⟨hroot, Nat.lt_of_lt_of_le hlength hle, hprefix.trans (List.dropLast_prefix _)⟩)

theorem walk_foldersAbove (steps : List String) {q : Path} (h : d.FoldersAbove place)
    (hwalk : d.walk place steps = .ok q) : d.FoldersAbove q := by
  induction steps generalizing place with
  | nil =>
    obtain rfl : place = q := Except.ok.inj hwalk
    exact h
  | cons step rest ih =>
    rw [walk] at hwalk
    split at hwalk
    · next hfolder =>
      split at hwalk
      · cases hwalk
      · split at hwalk
        · split at hwalk
          · exact ih h hwalk
          · split at hwalk
            · exact ih (h.step hfolder _) hwalk
            · exact ih h.dropLast hwalk
        · exact ih (h.step hfolder _) hwalk
    · split at hwalk <;> cases hwalk

/-- A path leads through folders only. -/
theorem locate_foldersAbove {p q : Path} (h : d.locate p = .ok q) : d.FoldersAbove q := by
  unfold locate at h
  split at h
  · cases h
  · split at h
    · cases h
    · refine walk_foldersAbove _ (fun r hr => ?_) h
      exact absurd (Path.isAbove_iff.1 hr).2.1 (Nat.not_lt_zero _)

/-- A path leads to a place at which there is nothing yet, and where a file can be written. -/
structure HasRoomFor (d : Disk) (path place : Path) : Prop where
  locate : d.locate path = .ok place
  isFolder : d.isFolder place = false
  file? : d.file? place = none

/-- A file that is missing and can be written has a place. -/
theorem exists_hasRoomFor {path : Path} (hmissing : d.has path = .ok false) {content : Content}
    (hwrite : d.write path content = .ok d') : ∃ place, d.HasRoomFor path place := by
  unfold Disk.write at hwrite
  unfold Disk.has Disk.read at hmissing
  cases hplace : d.locate path with
  | error e =>
    rw [hplace] at hwrite
    cases hwrite
  | ok place =>
    rw [hplace] at hwrite hmissing
    simp only [bind, Except.bind] at hwrite hmissing
    have hfolder : d.isFolder place = false := by
      cases hfolder : d.isFolder place with
      | false => rfl
      | true =>
        rw [hfolder] at hwrite
        cases hwrite
    refine ⟨place, hplace, hfolder, ?_⟩
    cases hfile : d.file? place with
    | none => rfl
    | some content =>
      rw [hfile] at hmissing
      cases hmissing

/-- Two disks have the same folders, and the same files but for one. -/
structure AgreesBut (place : Path) (d d' : Disk) : Prop where
  isFolder : ∀ q, d'.isFolder q = d.isFolder q
  file? : ∀ q ≠ place, d'.file? q = d.file? q

theorem any_putFile (f : Path → Bool) (place : Path) (content : Content)
    (files : List (Path × Content)) :
    (putFile place content files).any (fun e => f e.1) =
      (f place || files.any fun e => f e.1) := by
  induction files with
  | nil => simp [putFile]
  | cons e files ih =>
    obtain ⟨p, old⟩ := e
    by_cases h : p = place
    · simp [putFile, h]
    · simp only [putFile, h, if_false, List.any_cons, ih]
      exact Bool.or_left_comm ..

/-- A path that leads to a place leads there when a file is put at it, and nothing else changes. -/
theorem agreesBut_putFile {path : Path} (hplace : d.locate path = .ok place) (content : Content) :
    AgreesBut place d { d with files := putFile place content d.files } where
  isFolder q := by
    cases habove : q.isAbove place with
    | true =>
      -- what is above the file is a folder already, so that writing it makes no new ones
      rw [locate_foldersAbove hplace q habove]
      simp only [Disk.isFolder, any_putFile, habove, Bool.true_or, Bool.or_true]
    | false => simp only [Disk.isFolder, any_putFile, habove, Bool.false_or]
  file? _ hq := lookup_putFile_of_ne hq content d.files

/-- Writing a file changes nothing but what the path leads to. -/
theorem agreesBut_write {path : Path} {content : Content} (h : d.write path content = .ok d') :
    ∃ place, d.locate path = .ok place ∧ AgreesBut place d d' ∧ d'.file? place = some content := by
  unfold Disk.write at h
  cases hplace : d.locate path with
  | error e =>
    rw [hplace] at h
    cases h
  | ok place =>
    rw [hplace] at h
    simp only [bind, Except.bind] at h
    split at h
    · cases h
    · obtain rfl := Except.ok.inj h
      exact ⟨place, rfl, agreesBut_putFile hplace content, lookup_putFile _ _ _⟩

namespace AgreesBut

theorem refl (place : Path) (d : Disk) : AgreesBut place d d := ⟨fun _ => rfl, fun _ _ => rfl⟩

theorem trans {d'' : Disk} (h : AgreesBut place d d') (h' : AgreesBut place d' d'') :
    AgreesBut place d d'' :=
  ⟨fun q => (h'.isFolder q).trans (h.isFolder q),
    fun q hq => (h'.file? q hq).trans (h.file? q hq)⟩

variable (h : AgreesBut place d d')
include h

theorem walk {p q : Path} {steps : List String} (hwalk : d.walk p steps = .ok q) :
    d'.walk p steps = .ok q := by
  induction steps generalizing p with
  | nil => exact hwalk
  | cons step rest ih =>
    rw [Disk.walk] at hwalk ⊢
    rw [h.isFolder]
    split at hwalk
    · next hfolder =>
      rw [if_pos hfolder]
      split at hwalk
      · cases hwalk
      · next hstep =>
        rw [if_neg hstep]
        split at hwalk
        · next hup =>
          rw [if_pos hup]
          split at hwalk
          · next hroot =>
            rw [if_pos hroot]
            exact ih hwalk
          · next hroot =>
            rw [if_neg hroot]
            split at hwalk
            · next hups =>
              rw [if_pos hups]
              exact ih hwalk
            · next hups =>
              rw [if_neg hups]
              exact ih hwalk
        · next hup =>
          rw [if_neg hup]
          exact ih hwalk
    · split at hwalk <;> cases hwalk

/-- Paths lead where they led before. -/
theorem locate {p q : Path} (hlocate : d.locate p = .ok q) : d'.locate p = .ok q := by
  unfold Disk.locate at hlocate ⊢
  split at hlocate
  · cases hlocate
  · next hname =>
    rw [if_neg hname]
    split at hlocate
    · cases hlocate
    · next hlength =>
      rw [if_neg hlength]
      exact h.walk hlocate

/-- Documents that could be loaded can be loaded still, if the one file is new. -/
theorem load {p : Path} {v : Value} (hnew : d.file? place = none) (hload : d.load p = .ok v) :
    d'.load p = .ok v := by
  unfold Disk.load Disk.read at hload ⊢
  cases hlocate : d.locate p with
  | error e =>
    rw [hlocate] at hload
    cases hload
  | ok q =>
    rw [hlocate] at hload
    rw [h.locate hlocate]
    cases hfile : d.file? q with
    | none =>
      simp only [bind, Except.bind, hfile] at hload
      cases hload
    | some content =>
      -- the document is not the new file, which was not there to be loaded
      have hne : q ≠ place := by
        rintro rfl
        rw [hnew] at hfile
        cases hfile
      simp only [bind, Except.bind, hfile] at hload
      simp only [bind, Except.bind, h.file? q hne, hfile]
      exact hload

/-- The one file can be written, if it could be at first. -/
theorem write {path : Path} (hroom : d.HasRoomFor path place) (content : Content) :
    ∃ d'', d'.write path content = .ok d'' ∧ AgreesBut place d d'' ∧
      d''.file? place = some content := by
  have hplace := h.locate hroom.locate
  refine ⟨{ d' with files := putFile place content d'.files }, ?_,
    h.trans (agreesBut_putFile hplace content), lookup_putFile _ _ _⟩
  simp only [Disk.write, hplace, bind, Except.bind, h.isFolder, hroom.isFolder,
    Bool.false_eq_true, if_false]
  rfl

end AgreesBut

end Disk

end TextAdventure
