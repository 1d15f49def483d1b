import BuiltinAtlas.Proofs.Files.Kept

/-!
# What operations on files touch

`FileSystem.Touches` says of two file systems that nothing changed but the files that some paths
lead to, and directories that were missing and that other paths lead to now. It is preserved from
step to step, since a path that led somewhere leads there still.
-/

namespace BuiltinAtlas

/-- The directory around a path, and those around that. -/
inductive Path.Encloses (path : RawText) : RawText → Prop
  | parent {around : RawText} : parent? path = some around → Encloses path around
  | outer {around outer : RawText} : Encloses path around → parent? around = some outer →
      Encloses path outer

/-- The directories that may have to be created for one around a path are all around it. -/
theorem Path.Encloses.of_mem_withParents {path around outer : RawText} {fuel : Nat}
    (h : Encloses path around) (mem : outer ∈ withParents fuel around) : Encloses path outer := by
  induction fuel generalizing around with
  | zero => cases mem
  | succ fuel ih =>
    rw [withParents] at mem
    split at mem
    · cases mem
    · rcases List.mem_cons.mp mem with rfl | mem
      · exact h
      · cases parent : parent? around with
        | none =>
          rw [parent] at mem
          cases mem
        | some next =>
          rw [parent] at mem
          exact ih (h.outer parent) mem

namespace FileSystem

/-- Nothing changed but files that some paths lead to, and directories that were missing. -/
structure Touches (files directories : RawText → Prop) (fs fs' : FileSystem) : Prop where
  workingDirectory : fs'.workingDirectory = fs.workingDirectory
  stays (place : Place) : Entry.Stays (∃ path, files path ∧ fs'.Leads path true place)
    (fs.root.at? place) (fs'.root.at? place)
  created (place : Place) : fs.root.at? place = none → fs'.root.DirectoryAt place →
    ∃ path, directories path ∧ fs'.Leads path true place

namespace Touches

variable {files directories : RawText → Prop} {fs fs' fs'' : FileSystem} {path : RawText}

/-- Nothing is touched if nothing is done. -/
theorem refl (files directories : RawText → Prop) (fs : FileSystem) :
    fs.Touches files directories fs where
  workingDirectory := rfl
  stays place := .same _
  created place missing := by
    rintro ⟨es, there⟩
    rw [missing] at there
    cases there

/-- A path that led to a place leads there still. -/
theorem leads (h : fs.Touches files directories fs') {followLast : Bool} {place : Place}
    (led : fs.Leads path followLast place) : fs'.Leads path followLast place := by
  obtain ⟨valid, located, rfl⟩ := led.exists_locate
  exact locate_eq_ok_iff.mp (locate_of_ways (.of_stays h.stays) h.workingDirectory located)

/-- What is touched by two steps is touched by one of them. -/
theorem trans (h : fs.Touches files directories fs') (h' : fs'.Touches files directories fs'') :
    fs.Touches files directories fs'' where
  workingDirectory := h'.workingDirectory.trans h.workingDirectory
  stays place := by
    have before : Entry.Stays (∃ path, files path ∧ fs''.Leads path true place)
        (fs.root.at? place) (fs'.root.at? place) :=
      (h.stays place).mono fun ⟨path, file, led⟩ ↦ ⟨path, file, h'.leads led⟩
    exact before.trans (h'.stays place)
  created place missing directory := by
    have stays := h.stays place
    cases there : fs'.root.at? place with
    | none => exact h'.created place there directory
    | some x =>
      rw [missing, there] at stays
      cases stays with
      | created es =>
        obtain ⟨path, isDirectory, led⟩ := h.created place missing ⟨es, there⟩
        exact ⟨path, isDirectory, h'.leads led⟩
      | new content =>
        have stays' := h'.stays place
        obtain ⟨es, directory⟩ := directory
        rw [there, directory] at stays'
        cases stays'

/-- A file is written where a path leads. -/
theorem write {content : ByteArray} (file : files path) (h : fs.write path content = .ok fs') :
    fs.Touches files directories fs' := by
  obtain ⟨-, written, located, free, rfl⟩ := write_eq_ok_iff.mp h
  obtain ⟨around, name, same, dir⟩ :=
    exists_around_of_locate located (Entry.not_directoryAt_of_free free)
  have kept := Kept.put_file located free content
  have leads := locate_eq_ok_iff.mp (kept.locate located)
  refine ⟨kept.workingDirectory, fun place ↦ ?_, fun place missing ⟨es, directory⟩ ↦ ?_⟩
  · exact (kept.root place).mono fun here ↦ ⟨path, file, here ▸ leads⟩
  · -- Nothing is new but the file.
    have there := (kept_put_of_locate located free content).2
    change (Entry.put (.file content) fs.root written.1).at? place = _ at directory
    rw [same] at free directory there
    rw [Entry.eq_of_at?_put_leaf dir (Entry.not_directoryAt_of_free free) (Entry.at?_file content)
      missing directory, there] at directory
    cases directory

/-- A directory is created that was missing. -/
theorem createDirectory (isDirectory : directories path) (trimmed : Path.trimSlashes path = path)
    (h : fs.createDirectory path = .ok fs') : fs.Touches files directories fs' := by
  have kept (written : Place) := Kept.createDirectory written h
  obtain ⟨made, located, free, rfl⟩ := createDirectory_eq_ok_iff.mp h
  rw [trimmed] at located
  obtain ⟨around, name, same, dir⟩ :=
    exists_around_of_locate located (Entry.not_directoryAt_of_free (.inl free))
  have leads := locate_eq_ok_iff.mp ((kept []).locate located)
  refine ⟨rfl, fun place ↦ ?_, fun place missing ⟨es, directory⟩ ↦ ?_⟩
  · -- No file is written, so that another place may stand for that of the written file.
    let other : Place := "" :: place
    have elsewhere : place ≠ other := fun h ↦ by simpa [other] using congrArg List.length h
    exact ((kept other).root place).mono fun here ↦ absurd here elsewhere
  · change (Entry.put (.directory []) fs.root made.1).at? place = _ at directory
    have there : (Entry.put (.directory []) fs.root made.1).at? made.1 = some (.directory []) := by
      rw [same]
      exact Entry.at?_put_self _ name dir
    have here : place = made.1 := by
      rw [same] at free directory ⊢
      exact Entry.eq_of_at?_put_leaf dir (Entry.not_directoryAt_of_free (.inl free))
        Entry.at?_directory_nil missing directory
    subst here
    refine ⟨path, isDirectory, leads.clean, leads.notEmpty, leads.start, ?_⟩
    exact walk_true leads.walk fun target link ↦ by cases there.symm.trans link

/-- A directory is created unless it exists. -/
theorem ensureDirectory (isDirectory : directories path) (trimmed : Path.trimSlashes path = path)
    (h : fs.ensureDirectory path = .ok fs') : fs.Touches files directories fs' := by
  rw [FileSystem.ensureDirectory] at h
  split at h
  · next created =>
    cases h
    exact createDirectory isDirectory trimmed created
  · split at h
    · cases h
      exact refl files directories fs
    · cases h

/-- Directories are created, as far as that does not fail. -/
theorem createDirectories (fs : FileSystem) {paths : List RawText}
    (h : ∀ path ∈ paths, directories path ∧ Path.trimSlashes path = path) :
    fs.Touches files directories (fs.createDirectories paths).2 := by
  induction paths with
  | nil => exact refl files directories fs
  | cons path around ih =>
    obtain ⟨isDirectory, trimmed⟩ := h path List.mem_cons_self
    have outer := ih fun path mem ↦ h path (List.mem_cons_of_mem _ mem)
    rw [FileSystem.createDirectories]
    split
    · next created => exact createDirectory isDirectory trimmed created
    · split
      · next prepared made =>
        rw [made] at outer
        split
        · next created => exact outer.trans (ensureDirectory isDirectory trimmed created)
        · exact outer
      · exact outer
    · split
      · exact refl files directories fs
      · exact refl files directories fs

end Touches

end FileSystem

end BuiltinAtlas
