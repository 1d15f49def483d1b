import BuiltinAtlas.Index.Store
import BuiltinAtlas.Proofs.Atlas.Written
import BuiltinAtlas.Proofs.Files.Location
import BuiltinAtlas.Proofs.Job.Run

/-!
# The index file keeps the atlas

What was saved is loaded, and saving that again leaves the files as they are. If saving fails, what
can be loaded is what could be loaded before.
-/

namespace BuiltinAtlas

/-- The bytes of a text are those of that text. -/
theorem fromUTF8?_toUTF8 (text : String) : String.fromUTF8? text.toUTF8 = some text :=
  dif_pos text.isValidUTF8

namespace FileSystem

/-- The atlas in an index file, which is empty if there is none. -/
def storedAtlas (fs : FileSystem) (path : RawText) : Except Failure Atlas :=
  if fs.isFile path then fs.readAtlas path else .ok .empty

/-- Create the directory around an index file. -/
def prepareAround (fs : FileSystem) (path : RawText) : Except Failure Unit × FileSystem :=
  match Path.parent? path with
  | none => (.ok (), fs)
  | some around =>
    if around.isEmpty then (.ok (), fs)
    else match fs.createDirectoryAll around with
      | (.ok (), fs) => (.ok (), fs)
      | (.error e, fs) => (.error (.files around e), fs)

/-- Where the index file can be reached, nothing has to be created around it. -/
theorem prepareAround_of_locate {fs : FileSystem} {path : RawText} {place : ValidPlace}
    (h : fs.locate path true = .ok place) : fs.prepareAround path = (.ok (), fs) := by
  unfold prepareAround
  cases haround : Path.parent? path with
  | none => rfl
  | some around =>
    by_cases hne : around = ""
    · simp [hne]
    · have there := isDirectory_of_parent? h haround hne
      have nothing := createDirectoryAll_of_isDirectory there (Path.trimSlashes_of_parent? haround)
      simp [hne, nothing]

private theorem isFile_of_prepareAround {fs fs' : FileSystem} {path : RawText} {f : Failure}
    (h : fs.prepareAround path = (.error f, fs')) : fs'.isFile path = false := by
  rw [Bool.eq_false_iff]
  intro file
  obtain ⟨place, content, found⟩ := isFile_iff.mp file
  have located := (find_eq_ok_iff.mp found).1
  unfold prepareAround at h
  cases haround : Path.parent? path with
  | none =>
    rw [haround] at h
    cases h
  | some around =>
    by_cases hne : around = ""
    · simp [haround, hne] at h
    · have there := isDirectory_of_parent? located haround hne
      simp only [haround, RawText.isEmpty_iff, hne, if_false] at h
      split at h
      · cases h
      · next e _ failed =>
        cases h
        have noDirectory := not_isDirectory_of_createDirectories failed
        rw [there] at noDirectory
        cases noDirectory

private theorem isFile_of_write {fs : FileSystem} {path : RawText} {content : ByteArray}
    {e : FileError} (h : fs.write path content = .error e) : fs.isFile path = false := by
  rw [Bool.eq_false_iff]
  intro file
  obtain ⟨place, before, found⟩ := isFile_iff.mp file
  obtain ⟨located, there⟩ := find_eq_ok_iff.mp found
  have written : fs.write path content =
      .ok (fs.put place (.file content) (wellFormed_file content)) :=
    write_eq_ok_iff.mpr ⟨getLast?_of_find found, place, located, .inr ⟨before, there⟩, rfl⟩
  rw [h] at written
  cases written

/-- What is stored depends on the bytes of the index file only. -/
theorem storedAtlas_of_find_eq {fs fs' : FileSystem} {path : RawText} {place place' : ValidPlace}
    {content : ByteArray} (h : fs.find path = .ok (place, .file content))
    (h' : fs'.find path = .ok (place', .file content)) :
    fs.storedAtlas path = fs'.storedAtlas path := by
  have file : fs.isFile path = true := isFile_iff.mpr ⟨place, content, h⟩
  have file' : fs'.isFile path = true := isFile_iff.mpr ⟨place', content, h'⟩
  rw [storedAtlas, storedAtlas, if_pos file, if_pos file', readAtlas, readAtlas, readText,
    readText, read_of_find h, read_of_find h']

/-- An index file is read if its text is that of an atlas. -/
theorem readAtlas_eq_ok_iff {fs : FileSystem} {path : RawText} {a : Atlas} :
    fs.readAtlas path = .ok a ↔ ∃ text, fs.readText path = .ok text ∧ Atlas.read text = .ok a := by
  rw [readAtlas]
  cases fs.readText path with
  | error e => simp
  | ok text => cases read : Atlas.read text <;> simp [read]

/-- An index file is not read if it has no text or a malformed one. -/
theorem readAtlas_eq_error_iff {fs : FileSystem} {path : RawText} {f : Failure} :
    fs.readAtlas path = .error f ↔
      (∃ e, fs.readText path = .error e ∧ f = .files path e) ∨
        ∃ text fault, fs.readText path = .ok text ∧ Atlas.read text = .error fault ∧
          f = .malformedIndex path fault := by
  rw [readAtlas]
  cases fs.readText path with
  | error e => simp [eq_comm]
  | ok text => cases read : Atlas.read text <;> simp [read, eq_comm (a := f)]

/-- What was written is the atlas that is stored. -/
theorem readAtlas_of_find {fs : FileSystem} {path : RawText} {place : ValidPlace} {a : Atlas}
    (h : fs.find path = .ok (place, .file a.write.toUTF8)) : fs.readAtlas path = .ok a := by
  have text : fs.readText path = .ok a.write := by
    rw [readText, read_of_find h]
    simp only [bind, Except.bind, fromUTF8?_toUTF8]
  rw [readAtlas, text]
  simp only [Atlas.read_write]

end FileSystem

/-- Loading gives what is stored. -/
theorem loadAtlas_runOn (path : RawText) (w : World) :
    (loadAtlas path).runOn w = (w.files.storedAtlas path, w) := by
  simp only [loadAtlas, Job.runOn_bind, Job.runOn_files, FileSystem.storedAtlas]
  split
  · rw [Job.runOn_ofExcept]
    cases w.files.readAtlas path <;> rfl
  · rfl

/-- Loading an existing index gives what is stored, if there is something. -/
theorem loadExistingAtlas_runOn (path : RawText) (w : World) :
    (loadExistingAtlas path).runOn w =
      (if w.files.isFile path then w.files.readAtlas path
        else .error (.indexNotFound path), w) := by
  simp only [loadExistingAtlas, Job.runOn_bind, Job.runOn_files]
  split
  · rw [Job.runOn_ofExcept]
    cases w.files.readAtlas path <;> rfl
  · rfl

/-- Saving prepares the directory around the index file, then writes the file. -/
theorem saveAtlas_runOn (path : RawText) (a : Atlas) (w : World) :
    (saveAtlas path a).runOn w =
      match w.files.prepareAround path with
      | (.error f, fs) => (.error f, { w with files := fs })
      | (.ok (), fs) =>
        match fs.write path a.write.toUTF8 with
        | .ok fs => (.ok (), { w with files := fs })
        | .error e => (.error (.files path e), { w with files := fs }) := by
  unfold saveAtlas FileSystem.prepareAround
  cases Path.parent? path with
  | none => exact Job.runOn_change _ _ w
  | some around =>
    cases empty : around.isEmpty with
    | true =>
      simp only [empty]
      exact Job.runOn_change _ _ w
    | false =>
      simp only [empty, Bool.not_false, if_true, Bool.false_eq_true, if_false]
      rw [Job.runOn_bind, Job.runOn_createDirectoryAll]
      rcases w.files.createDirectoryAll around with ⟨_ | _, fs⟩
      · rfl
      · exact Job.runOn_change _ _ _

private theorem find_of_saveAtlas {path : RawText} {a : Atlas} {w w' : World}
    (h : (saveAtlas path a).runOn w = (.ok (), w')) :
    ∃ place, w'.files.find path = .ok (place, .file a.write.toUTF8) := by
  rw [saveAtlas_runOn] at h
  split at h
  · cases h
  · split at h
    · next written =>
      cases h
      exact FileSystem.find_of_write written
    · cases h

private theorem saveAtlas_of_find {path : RawText} {a : Atlas} {w : World} {place : ValidPlace}
    (h : w.files.find path = .ok (place, .file a.write.toUTF8)) :
    (saveAtlas path a).runOn w = (.ok (), w) := by
  have located := (FileSystem.find_eq_ok_iff.mp h).1
  have written := FileSystem.write_of_find h
  rw [saveAtlas_runOn, FileSystem.prepareAround_of_locate located]
  simp only [written]

private theorem storedAtlas_of_saveAtlas {path : RawText} {a : Atlas} {w w' : World}
    (h : (saveAtlas path a).runOn w = (.ok (), w')) : w'.files.storedAtlas path = .ok a := by
  obtain ⟨place, found⟩ := find_of_saveAtlas h
  have file : w'.files.isFile path = true := FileSystem.isFile_iff.mpr ⟨place, _, found⟩
  rw [FileSystem.storedAtlas, if_pos file, FileSystem.readAtlas_of_find found]

/-- What was saved is loaded, whatever was there before, and saving it again writes the same
bytes, so that nothing changes. -/
theorem loadAtlas_of_saveAtlas {path : RawText} {a : Atlas} {w w' : World}
    (h : (saveAtlas path a).runOn w = (.ok (), w')) :
    (loadAtlas path).runOn w' = (.ok a, w') ∧ (loadExistingAtlas path).runOn w' = (.ok a, w') ∧
      w'.files.read path = .ok a.write.toUTF8 ∧
      (loadAtlas path >>= saveAtlas path).runOn w' = (.ok (), w') := by
  obtain ⟨place, found⟩ := find_of_saveAtlas h
  have file : w'.files.isFile path = true := FileSystem.isFile_iff.mpr ⟨place, _, found⟩
  have stored := FileSystem.readAtlas_of_find found
  have load : (loadAtlas path).runOn w' = (.ok a, w') := by
    rw [loadAtlas_runOn, storedAtlas_of_saveAtlas h]
  refine ⟨load, ?_, FileSystem.read_of_find found, ?_⟩
  · simp only [loadExistingAtlas, Job.runOn_bind, Job.runOn_files, file, if_true,
      Job.runOn_ofExcept, stored]
    rfl
  · rw [Job.runOn_bind, load]
    exact saveAtlas_of_find found

/-- An atlas with names and texts that are empty, that hold quotes, backslashes, line ends and other
control characters, or that need four bytes for a character. -/
def awkwardAtlas : Atlas where
  types := .ofList [("", ⟨⟨"a\"b\\c\n\t\u0001", ""⟩, ["𝄞", "", "é"]⟩)]
  modules := .ofList [("\r\n", ⟨⟨"", "/x\"y.c"⟩, []⟩)]
  tables := .ofList [("", .empty), ("m", .ofList [("\\", "\u2028"), ("𝄞", "")])]
  functions := .ofList [("f", ⟨"\x7b", "\x7d"⟩), ("\u0000", ⟨"\u001f", "/"⟩)]
  digests := .ofList [("/x\"y.c", "")]

/-- Saved where there is not even a directory, an awkward atlas is loaded again. -/
theorem loadAtlas_of_saveAtlas_awkwardAtlas :
    ∃ w', (saveAtlas "atlas/index.json" awkwardAtlas).runOn ⟨.empty, []⟩ = (.ok (), w') ∧
      (loadAtlas "atlas/index.json").runOn w' = (.ok awkwardAtlas, w') ∧
      (loadExistingAtlas "atlas/index.json").runOn w' = (.ok awkwardAtlas, w') ∧
      w'.files.read "atlas/index.json" = .ok awkwardAtlas.write.toUTF8 ∧
      (loadAtlas "atlas/index.json" >>= saveAtlas "atlas/index.json").runOn w' = (.ok (), w') := by
  have saved : ((saveAtlas "atlas/index.json" awkwardAtlas).runOn ⟨.empty, []⟩).1 = .ok () := by
    rfl
  rcases run : (saveAtlas "atlas/index.json" awkwardAtlas).runOn ⟨.empty, []⟩ with ⟨result, w'⟩
  rw [run] at saved
  obtain rfl : result = .ok () := saved
  exact ⟨w', rfl, loadAtlas_of_saveAtlas run⟩

/-- If saving fails, what is stored stays. -/
theorem storedAtlas_of_saveAtlas_error {path : RawText} {a : Atlas} {w w' : World} {f : Failure}
    (h : (saveAtlas path a).runOn w = (.error f, w')) :
    w'.files.storedAtlas path = w.files.storedAtlas path := by
  have there (file : w.files.isFile path = true) : False := by
    obtain ⟨place, content, found⟩ := FileSystem.isFile_iff.mp file
    have located := (FileSystem.find_eq_ok_iff.mp found).1
    rw [saveAtlas_runOn, FileSystem.prepareAround_of_locate located] at h
    simp only at h
    split at h
    · cases h
    · next failed =>
      have gone := FileSystem.isFile_of_write failed
      rw [file] at gone
      cases gone
  have absent : w'.files.isFile path = false := by
    rw [saveAtlas_runOn] at h
    split at h
    · next failed =>
      cases h
      exact FileSystem.isFile_of_prepareAround failed
    · split at h
      · cases h
      · next failed =>
        cases h
        exact FileSystem.isFile_of_write failed
  rw [FileSystem.storedAtlas, FileSystem.storedAtlas, absent, if_neg there]
  rfl

end BuiltinAtlas
