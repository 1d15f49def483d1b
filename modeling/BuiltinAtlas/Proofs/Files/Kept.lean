import BuiltinAtlas.Proofs.Files.Location

/-!
# What stays in a file system when a file is written

`FileSystem.Kept` says of two file systems that nothing changed but the file at a place, and
directories that were created. It is preserved from step to step, so that it holds of whole
operations, and a path that led somewhere leads there still.
-/

namespace BuiltinAtlas.FileSystem

/-- Nothing changes in a file system but the file at a place, and directories that are created. -/
structure Kept (written : Place) (fs fs' : FileSystem) : Prop where
  root : Entry.Kept written fs.root fs'.root
  workingDirectory : fs'.workingDirectory = fs.workingDirectory

namespace Kept

variable {written : Place} {fs fs' fs'' : FileSystem} {path : RawText} {place : ValidPlace}

/-- A file system keeps itself. -/
theorem refl (written : Place) (fs : FileSystem) : fs.Kept written fs :=
  ⟨.refl written fs.root, rfl⟩

/-- What is kept twice is kept. -/
theorem trans (h : fs.Kept written fs') (h' : fs'.Kept written fs'') : fs.Kept written fs'' :=
  ⟨h.root.trans h'.root, h'.workingDirectory.trans h.workingDirectory⟩

/-- A path that leads to a place leads there still. -/
theorem locate (h : fs.Kept written fs') {followLast : Bool}
    (located : fs.locate path followLast = .ok place) : fs'.locate path followLast = .ok place :=
  locate_of_ways h.root.ways h.workingDirectory located

/-- What is found is found still, at the same place. -/
theorem find (h : fs.Kept written fs') {x : Entry} (found : fs.find path = .ok (place, x)) :
    ∃ y, fs'.find path = .ok (place, y) ∧
      Entry.Stays (place.1 = written) (some x) (some y) := by
  obtain ⟨located, there⟩ := find_eq_ok_iff.mp found
  have stays := h.root place.1
  rw [there] at stays
  cases now : fs'.root.at? place.1 with
  | none =>
    rw [now] at stays
    cases stays
  | some y =>
    rw [now] at stays
    exact ⟨y, find_eq_ok_iff.mpr ⟨h.locate located, now⟩, stays⟩

/-- A file that is not written is found with the content that it had. -/
theorem find_file (h : fs.Kept written fs') {content : ByteArray}
    (found : fs.find path = .ok (place, .file content)) (elsewhere : place.1 ≠ written) :
    fs'.find path = .ok (place, .file content) := by
  obtain ⟨y, found', stays⟩ := h.find found
  rcases stays.file with same | ⟨here, -⟩
  · cases same
    exact found'
  · exact absurd here elsewhere

/-- Canonical paths stay. -/
theorem canonicalPath (h : fs.Kept written fs') {root : RawText}
    (canonical : fs.canonicalPath path = .ok root) : fs'.canonicalPath path = .ok root := by
  obtain ⟨place, x, found, rfl⟩ := canonicalPath_eq_ok_iff.mp canonical
  obtain ⟨y, found', -⟩ := h.find found
  exact canonicalPath_eq_ok_iff.mpr ⟨place, y, found', rfl⟩

/-- Under the path of a file or directory that is not the written file, what was read before is
read. -/
theorem read_iff (h : fs.Kept written fs') {x : Entry} {content : ByteArray}
    (found : fs.find path = .ok (place, x))
    (elsewhere : ∀ before, x = .file before → place.1 ≠ written) :
    fs'.read path = .ok content ↔ fs.read path = .ok content := by
  rw [read_eq_ok_iff, read_eq_ok_iff]
  constructor
  · rintro ⟨place', now⟩
    obtain ⟨y, found', stays⟩ := h.find found
    cases now.symm.trans found'
    have same : x = .file content := by
      by_cases here : place.1 = written
      · cases stays with
        | same => rfl
        | changed => exact absurd here (elsewhere _ rfl)
      · exact Option.some.inj (stays.file_back here)
    exact ⟨place, same ▸ found⟩
  · rintro ⟨place', before⟩
    cases found.symm.trans before
    exact ⟨place, h.find_file before (elsewhere content rfl)⟩

/-- A path that leads to something leads to a directory if it did so before. -/
theorem isDirectory (h : fs.Kept written fs') {x : Entry}
    (found : fs.find path = .ok (place, x)) : fs'.isDirectory path = fs.isDirectory path := by
  obtain ⟨y, found', stays⟩ := h.find found
  rw [Bool.eq_iff_iff, isDirectory_iff, isDirectory_iff]
  constructor
  · rintro ⟨place', es, now⟩
    cases now.symm.trans found'
    obtain ⟨es', same⟩ := stays.directory_back
    cases same
    exact ⟨place, es', found⟩
  · rintro ⟨place', es, before⟩
    cases found.symm.trans before
    obtain ⟨es', same⟩ := stays.directory
    cases same
    exact ⟨place, es', found'⟩

/-- A file is written where a path leads to nothing or a file. -/
theorem put_file {followLast : Bool} (located : fs.locate path followLast = .ok place)
    (free : fs.root.at? place.1 = none ∨ ∃ before, fs.root.at? place.1 = some (.file before))
    (content : ByteArray) :
    fs.Kept place.1 (fs.put place (.file content) (wellFormed_file content)) :=
  ⟨(kept_put_of_locate located free content).1, rfl⟩

/-- A directory is created. -/
theorem createDirectory (written : Place) (h : fs.createDirectory path = .ok fs') :
    fs.Kept written fs' := by
  obtain ⟨place, located, free, rfl⟩ := createDirectory_eq_ok_iff.mp h
  obtain ⟨around, name, same, dir⟩ :=
    exists_around_of_locate located (Entry.not_directoryAt_of_free (.inl free))
  refine ⟨?_, rfl⟩
  change Entry.Kept written fs.root (Entry.put (.directory []) fs.root place.1)
  rw [same] at free ⊢
  exact .put_directory dir free

/-- A directory is created unless it exists. -/
theorem ensureDirectory (written : Place) (h : fs.ensureDirectory path = .ok fs') :
    fs.Kept written fs' := by
  rw [FileSystem.ensureDirectory] at h
  split at h
  · next created =>
    cases h
    exact createDirectory written created
  · split at h
    · cases h
      exact refl written fs
    · cases h

/-- Directories are created, as far as that does not fail. -/
theorem createDirectories (written : Place) (fs : FileSystem) (paths : List RawText) :
    fs.Kept written (fs.createDirectories paths).2 := by
  induction paths with
  | nil => exact refl written fs
  | cons path around ih =>
    rw [FileSystem.createDirectories]
    split
    · next created => exact createDirectory written created
    · split
      · next prepared outer =>
        rw [outer] at ih
        split
        · next created => exact ih.trans (ensureDirectory written created)
        · exact ih
      · exact ih
    · split
      · exact refl written fs
      · exact refl written fs

end Kept

end BuiltinAtlas.FileSystem
