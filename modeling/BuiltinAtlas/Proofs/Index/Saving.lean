import BuiltinAtlas.Proofs.Files.Kept
import BuiltinAtlas.Proofs.Index.Persistence

/-!
# Saving over and over

Whether an index can be saved does not depend on what is saved (`FileSystem.saves_or_fails`). Once
it was saved, saving it again replaces the content of the index file and nothing else.
`FileSystem.Saves` says that it can be saved, and where.
-/

namespace BuiltinAtlas

namespace FileSystem

/-- Write an index file, and create the directory around it. -/
def save (fs : FileSystem) (index : RawText) (content : ByteArray) :
    Except Failure Unit × FileSystem :=
  match fs.prepareAround index with
  | (.error f, fs) => (.error f, fs)
  | (.ok (), fs) =>
    match fs.write index content with
    | .ok fs => (.ok (), fs)
    | .error e => (.error (.files index e), fs)

/-- Once the directory around the index file is prepared, the index file can be written, at a
place. -/
structure Saves (fs : FileSystem) (index : RawText) (prepared : FileSystem) (place : ValidPlace) :
    Prop where
  prepare : fs.prepareAround index = (.ok (), prepared)
  located : prepared.locate index true = .ok place
  noSlash : index.toList.getLast? ≠ some RawText.slash
  free : prepared.root.at? place.1 = none ∨
    ∃ before, prepared.root.at? place.1 = some (.file before)

/-- The file system with a file. -/
def putFile (fs : FileSystem) (place : ValidPlace) (content : ByteArray) : FileSystem :=
  fs.put place (.file content) (wellFormed_file content)

variable {fs prepared : FileSystem} {index path : RawText} {place : ValidPlace}

/-- Of two files put at one place the later one counts. -/
theorem putFile_putFile (fs : FileSystem) (place : ValidPlace) (before content : ByteArray) :
    (fs.putFile place before).putFile place content = fs.putFile place content := by
  simp only [putFile, put, mk.injEq, and_true]
  exact Entry.put_put fs.root (.file before) (.file content) place.1

private theorem write_eq_error {before content : ByteArray} {e : FileError}
    (h : fs.write path before = .error e) : fs.write path content = .error e := by
  unfold write at h ⊢
  simp only [bind, Except.bind] at h ⊢
  split at h
  · exact h
  · split at h
    · exact h
    · exact h
    · split at h
      · next slash =>
        rw [if_pos slash]
        exact h
      · cases h
    · split at h
      · next slash =>
        rw [if_pos slash]
        exact h
      · cases h

private theorem kept_prepareAround (written : Place) (fs : FileSystem) (index : RawText) :
    fs.Kept written (fs.prepareAround index).2 := by
  unfold prepareAround
  split
  · exact .refl written fs
  · next around _ =>
    split
    · exact .refl written fs
    · have kept := Kept.createDirectories written fs (Path.withParents (around.size + 1) around)
      rw [createDirectoryAll]
      split
      · next created =>
        rw [created] at kept
        exact kept
      · next created =>
        rw [created] at kept
        exact kept

namespace Saves

/-- An index file whose place can be reached can be written, if nothing or a file is there. -/
theorem of_locate (located : fs.locate index true = .ok place)
    (noSlash : index.toList.getLast? ≠ some RawText.slash)
    (free : fs.root.at? place.1 = none ∨ ∃ before, fs.root.at? place.1 = some (.file before)) :
    fs.Saves index fs place :=
  ⟨prepareAround_of_locate located, located, noSlash, free⟩

/-- The content is put at the place of the index file. -/
theorem save (h : fs.Saves index prepared place) (content : ByteArray) :
    fs.save index content = (.ok (), prepared.putFile place content) := by
  have written := write_eq_ok_iff.mpr
    ⟨h.noSlash, place, h.located, h.free, Eq.refl (prepared.putFile place content)⟩
  rw [FileSystem.save, h.prepare]
  simp only [written]

/-- Nothing changes but the index file, and directories that are created. -/
theorem kept (h : fs.Saves index prepared place) (content : ByteArray) :
    fs.Kept place.1 (prepared.putFile place content) := by
  have before := kept_prepareAround place.1 fs index
  rw [h.prepare] at before
  exact before.trans (Kept.put_file h.located h.free content)

/-- The index file is found where it was put. -/
theorem find (h : fs.Saves index prepared place) (content : ByteArray) :
    (prepared.putFile place content).find index = .ok (place, .file content) := by
  have written := write_eq_ok_iff.mpr
    ⟨h.noSlash, place, h.located, h.free, Eq.refl (prepared.putFile place content)⟩
  obtain ⟨place', found⟩ := find_of_write written
  have located := (Kept.put_file h.located h.free content).locate h.located
  have same := (find_eq_ok_iff.mp found).1
  rw [putFile, located] at same
  cases same
  exact found

/-- The index can be saved again, at the same place. -/
theorem again (h : fs.Saves index prepared place) (content : ByteArray) :
    (prepared.putFile place content).Saves index (prepared.putFile place content) place := by
  obtain ⟨located, there⟩ := find_eq_ok_iff.mp (h.find content)
  exact .of_locate located h.noSlash (.inr ⟨content, there⟩)

/-- What was saved is stored. -/
theorem storedAtlas (h : fs.Saves index prepared place) (a : Atlas) :
    (prepared.putFile place a.write.toUTF8).storedAtlas index = .ok a := by
  have found := h.find a.write.toUTF8
  rw [FileSystem.storedAtlas, if_pos (isFile_iff.mpr ⟨place, _, found⟩), readAtlas_of_find found]

end Saves

/-- An index can be saved, whatever it is, or saving it fails, whatever it is. -/
theorem saves_or_fails (fs : FileSystem) (index : RawText) :
    (∃ prepared place, fs.Saves index prepared place) ∨
      ∃ f fs', ∀ content, fs.save index content = (.error f, fs') := by
  rcases prepare : fs.prepareAround index with ⟨f | _, prepared⟩
  · right
    refine ⟨f, prepared, fun content ↦ ?_⟩
    rw [save, prepare]
  · cases written : prepared.write index ByteArray.empty with
    | ok fs' =>
      obtain ⟨noSlash, place, located, free, -⟩ := write_eq_ok_iff.mp written
      exact .inl ⟨prepared, place, prepare, located, noSlash, free⟩
    | error e =>
      right
      refine ⟨.files index e, prepared, fun content ↦ ?_⟩
      rw [save, prepare]
      simp only [write_eq_error written]

end FileSystem

/-- Saving an atlas writes its text. -/
theorem saveAtlas_runOn_save (index : RawText) (a : Atlas) (w : World) :
    (saveAtlas index a).runOn w =
      ((w.files.save index a.write.toUTF8).1,
        { w with files := (w.files.save index a.write.toUTF8).2 }) := by
  rw [saveAtlas_runOn, FileSystem.save]
  rcases w.files.prepareAround index with ⟨f | _, prepared⟩
  · rfl
  · simp only
    cases prepared.write index a.write.toUTF8 <;> rfl

end BuiltinAtlas
