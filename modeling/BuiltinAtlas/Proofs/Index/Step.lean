import BuiltinAtlas.Index.Update
import BuiltinAtlas.Proofs.Dictionary.Lookup

/-!
# One file of an indexing run

What taking a file into account does to a run, whatever its atlas is. A file that is up to date is
counted only, a file that is there and can be read replaces what was contributed under its key
before, and any other file fails. These laws are all that later ones use of `Run.addFile`, and
`Run.addFile_cases` has them in one.
-/

namespace BuiltinAtlas

/-- A version of a file: the path of the file, and the bytes that it has or had. -/
@[ext] structure FileVersion where
  path : RawText
  bytes : ByteArray

namespace FileVersion

/-- What is recorded for the path of a version, which other files may share. -/
def key (f : FileVersion) : String := f.path.text

/-- What readers see of a version. -/
def source (f : FileVersion) : SourceFile := .atPath f.path f.bytes

@[simp] theorem key_mk (path : RawText) (bytes : ByteArray) : key ⟨path, bytes⟩ = path.text := rfl

@[simp] theorem path_source (f : FileVersion) : f.source.path = f.key := rfl

@[simp] theorem bytes_source (f : FileVersion) : f.source.bytes = f.bytes := rfl

/-- Versions with the same key and bytes are read alike. -/
theorem source_eq_iff {f g : FileVersion} :
    f.source = g.source ↔ f.key = g.key ∧ f.bytes = g.bytes := by
  rw [source, source, SourceFile.atPath, SourceFile.atPath, SourceFile.mk.injEq]
  exact Iff.rfl

end FileVersion

/-- A version of a file is there and can be read. -/
def FileSystem.Offers (fs : FileSystem) (reader : FileReader) (f : FileVersion) : Prop :=
  fs.read f.path = .ok f.bytes ∧ ∃ c, reader f.source = .ok c

namespace Atlas

/-- Whether the recorded digest of a file is that of its content. -/
def upToDate (a : Atlas) (fs : FileSystem) (path : RawText) : Bool :=
  match fs.read path with
  | .ok bytes => a.digest? path.text = some (Sha256.hex bytes)
  | .error _ => false

variable {a : Atlas} {fs : FileSystem} {path : RawText}

/-- A file that is up to date can be read, and its digest is recorded. -/
theorem upToDate_iff :
    a.upToDate fs path = true ↔
      ∃ bytes, fs.read path = .ok bytes ∧ a.digest? path.text = some (Sha256.hex bytes) := by
  unfold upToDate
  cases fs.read path with
  | ok bytes => simp
  | error e => simp

/-- A file whose digest is not the recorded one is not up to date. -/
theorem upToDate_eq_false {bytes : ByteArray} (there : fs.read path = .ok bytes)
    (new : a.digest? path.text ≠ some (Sha256.hex bytes)) : a.upToDate fs path = false := by
  rw [← Bool.not_eq_true, upToDate_iff]
  rintro ⟨bytes', there', same⟩
  cases there.symm.trans there'
  exact new same

/-- Replacing what a file contributed records its new digest. -/
theorem digest?_replaceFile (a : Atlas) (path other : String) (fresh : Findings)
    (digest : String) :
    (a.replaceFile path fresh digest).digest? other =
      if other = path then some digest else a.digest? other :=
  Dictionary.find?_insert a.digests path other digest

end Atlas

namespace Run

variable {reader : FileReader} {fs : FileSystem} {r : Run} {path : RawText} {bytes : ByteArray}
  {c : Construct}

/-- A file that is up to date is counted only. -/
theorem addFile_of_upToDate (h : r.atlas.upToDate fs path = true) :
    r.addFile reader fs path = { r with
      report := { r.report with
        scanned := r.report.scanned + 1
        unchanged := r.report.unchanged + 1 } } := by
  obtain ⟨bytes, there, same⟩ := Atlas.upToDate_iff.mp h
  simp [addFile, there, Atlas.takeIn, SourceFile.atPath, same]

/-- A file that is not up to date, is there and can be read is indexed. -/
theorem addFile_of_readable (h : r.atlas.upToDate fs path = false)
    (there : fs.read path = .ok bytes) (readable : reader (.atPath path bytes) = .ok c) :
    r.addFile reader fs path = { r with
      atlas := r.atlas.replaceFile path.text (c.survey (.atPath path bytes)) (Sha256.hex bytes)
      report := { r.report with
        scanned := r.report.scanned + 1
        indexed := r.report.indexed + 1 } } := by
  have new : r.atlas.digest? path.text ≠ some (Sha256.hex bytes) := by
    intro same
    rw [Atlas.upToDate_iff.mpr ⟨bytes, there, same⟩] at h
    cases h
  simp only [SourceFile.atPath] at readable
  simp [addFile, there, Atlas.takeIn, SourceFile.atPath, new, readable]

/-- Two files with one key and different digests, of which the first one was not the last to be
indexed, are both indexed, and the second one replaces the first one. -/
theorem addFile_addFile_of_text_eq {other : RawText} {bytes' : ByteArray} {c' : Construct}
    (one : other.text = path.text) (different : Sha256.hex bytes ≠ Sha256.hex bytes')
    (new : r.atlas.digest? path.text ≠ some (Sha256.hex bytes))
    (there : fs.read path = .ok bytes) (readable : reader (.atPath path bytes) = .ok c)
    (there' : fs.read other = .ok bytes') (readable' : reader (.atPath other bytes') = .ok c') :
    (r.addFile reader fs path).addFile reader fs other = { r with
      atlas := (r.atlas.replaceFile path.text (c.survey (.atPath path bytes))
        (Sha256.hex bytes)).replaceFile path.text (c'.survey (.atPath other bytes'))
        (Sha256.hex bytes')
      report := { r.report with
        scanned := r.report.scanned + 2
        indexed := r.report.indexed + 2 } } := by
  rw [addFile_of_readable (Atlas.upToDate_eq_false there new) there readable, ← one]
  refine addFile_of_readable (Atlas.upToDate_eq_false there' ?_) there' readable'
  rw [Atlas.digest?_replaceFile, if_pos rfl]
  exact fun same ↦ different (Option.some.inj same)

/-- A file that is not up to date fails if it is not there or cannot be read. -/
theorem addFile_of_not_offers (h : r.atlas.upToDate fs path = false)
    (no : ¬ ∃ bytes, fs.Offers reader ⟨path, bytes⟩) :
    ∃ reason, r.addFile reader fs path = { r with
      report := { r.report with
        scanned := r.report.scanned + 1
        failed := r.report.failed + 1 }
      skipped := reason :: r.skipped } := by
  cases there : fs.read path with
  | error e => exact ⟨_, by simp only [addFile, there]; rfl⟩
  | ok bytes =>
    have new : r.atlas.digest? path.text ≠ some (Sha256.hex bytes) := by
      intro same
      rw [Atlas.upToDate_iff.mpr ⟨bytes, there, same⟩] at h
      cases h
    cases readable : reader ⟨path.text, bytes⟩ with
    | ok c => exact absurd ⟨bytes, there, c, readable⟩ no
    | error e =>
      exact ⟨e.message path.text, by
        simp [addFile, there, Atlas.takeIn, SourceFile.atPath, new, readable]⟩

/-- What becomes of a file: it is up to date, it is indexed, or it fails. -/
theorem addFile_cases (reader : FileReader) (fs : FileSystem) (r : Run) (path : RawText) :
    (r.atlas.upToDate fs path = true ∧
      r.addFile reader fs path = { r with
        report := { r.report with
          scanned := r.report.scanned + 1
          unchanged := r.report.unchanged + 1 } }) ∨
    (∃ bytes c, r.atlas.upToDate fs path = false ∧ fs.read path = .ok bytes ∧
      reader (.atPath path bytes) = .ok c ∧
      r.addFile reader fs path = { r with
        atlas := r.atlas.replaceFile path.text (c.survey (.atPath path bytes)) (Sha256.hex bytes)
        report := { r.report with
          scanned := r.report.scanned + 1
          indexed := r.report.indexed + 1 } }) ∨
    ∃ reason, r.atlas.upToDate fs path = false ∧ (¬ ∃ bytes, fs.Offers reader ⟨path, bytes⟩) ∧
      r.addFile reader fs path = { r with
        report := { r.report with
          scanned := r.report.scanned + 1
          failed := r.report.failed + 1 }
        skipped := reason :: r.skipped } := by
  cases known : r.atlas.upToDate fs path with
  | true => exact .inl ⟨rfl, addFile_of_upToDate known⟩
  | false =>
    by_cases offered : ∃ bytes, fs.Offers reader ⟨path, bytes⟩
    · obtain ⟨bytes, there, c, readable⟩ := offered
      exact .inr (.inl ⟨bytes, c, rfl, there, readable, addFile_of_readable known there readable⟩)
    · obtain ⟨reason, failed⟩ := addFile_of_not_offers known offered
      exact .inr (.inr ⟨reason, rfl, offered, failed⟩)

end Run

end BuiltinAtlas
