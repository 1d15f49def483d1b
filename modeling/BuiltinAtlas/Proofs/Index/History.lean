import Mathlib
import BuiltinAtlas.Proofs.Index.Indexing
import BuiltinAtlas.Proofs.Index.Run

/-!
# Histories of an index

`Annals` are what may have happened to an index since there was none: files changed, and paths were
indexed or failed to be, each run with a reader of its own. They come with the log of all versions
that were indexed, and what the index file holds is always the atlas of that log
(`Annals.storedAtlas`). A `Chronicle` is the case of a single reader.
-/

namespace BuiltinAtlas

open Log

namespace FileSystem

/-- The log after an indexing run over what is below a canonical path. -/
def logAfter (fs : FileSystem) (reader : FileReader) (root : RawText) (log : Log) : Log :=
  (fs.visited root).foldl (visit reader fs) log

private theorem atlas_runOver_of_within {reader whole : FileReader} (within : reader.Within whole)
    (fs : FileSystem) (root : RawText) (log : Log) :
    (fs.runOver reader root (.ofLog whole log)).atlas =
      .ofLog whole (fs.logAfter reader root log) :=
  Run.atlas_foldl_addFile within rfl (fs.visited root)

/-- The atlas of a log becomes that of the log after the run. -/
theorem atlas_runOver (fs : FileSystem) (reader : FileReader) (root : RawText) (log : Log) :
    (fs.runOver reader root (.ofLog reader log)).atlas =
      .ofLog reader (fs.logAfter reader root log) :=
  atlas_runOver_of_within (.refl reader) fs root log

end FileSystem

/-- What may have happened to an index since there was none, with the log of what was indexed. Each
run has one of some readers. -/
inductive Annals {ι : Type} (reader : ι → FileReader) (index : RawText) : World → Log → Prop
  /-- There is no index. -/
  | start {w : World} : w.files.isFile index = false → Annals reader index w []
  /-- Files change, but not what the index file holds. -/
  | edit {w w' : World} {log : Log} : Annals reader index w log →
      w'.files.storedAtlas index = w.files.storedAtlas index → Annals reader index w' log
  /-- A path is indexed. -/
  | run {w w' : World} {log : Log} {path root : RawText} {report : Report} {i : ι} :
      Annals reader index w log → w.files.canonicalPath path = .ok root →
      (indexPath (reader i) index path).runOn w = (.ok report, w') →
      Annals reader index w' (w.files.logAfter (reader i) root log)
  /-- Indexing a path fails. -/
  | fail {w w' : World} {log : Log} {path : RawText} {f : Failure} {i : ι} :
      Annals reader index w log →
      (indexPath (reader i) index path).runOn w = (.error f, w') → Annals reader index w' log

namespace Annals

variable {ι : Type} {reader : ι → FileReader} {whole : FileReader} {index : RawText} {w : World}
  {log : Log}

/-- The index file holds the atlas of the log, if the readers do not contradict one another. -/
theorem storedAtlas (within : ∀ i, (reader i).Within whole) (h : Annals reader index w log) :
    w.files.storedAtlas index = .ok (.ofLog whole log) := by
  induction h with
  | start none =>
    rw [FileSystem.storedAtlas, none]
    rfl
  | edit _ same ih => rw [same, ih]
  | run _ canonical ran ih =>
    rw [(storedAtlas_of_indexPath canonical ih ran).2,
      FileSystem.atlas_runOver_of_within (within _)]
  | fail _ failed ih => rw [storedAtlas_of_indexPath_error failed, ih]

/-- What was indexed could be read. -/
theorem exists_reader_eq_ok (h : Annals reader index w log) {f : FileVersion} (mem : f ∈ log) :
    ∃ i c, reader i f.source = .ok c := by
  induction h with
  | start => cases mem
  | edit _ _ ih => exact ih mem
  | run _ _ _ ih =>
    rcases mem_foldl_visit mem with old | ⟨-, -, readable⟩
    · exact ih old
    · exact ⟨_, readable⟩
  | fail _ _ ih => exact ih mem

/-- What a path leads to is indexed if the index can be saved. -/
theorem exists_run (within : ∀ i, (reader i).Within whole) (h : Annals reader index w log) (i : ι)
    {path root : RawText} {place : ValidPlace} (canonical : w.files.canonicalPath path = .ok root)
    (located : w.files.locate index true = .ok place)
    (slash : index.toList.getLast? ≠ some RawText.slash)
    (free : w.files.root.at? place.1 = none ∨
      ∃ before, w.files.root.at? place.1 = some (.file before)) :
    ∃ content w', (indexPath (reader i) index path).runOn w =
        (.ok (w.files.runOver (reader i) root (.ofLog whole log)).report, w') ∧
      w'.files = w.files.put place (.file content) (FileSystem.wellFormed_file _) ∧
      Annals reader index w' (w.files.logAfter (reader i) root log) := by
  obtain ⟨events, ran⟩ :=
    indexPath_of_saves (reader i) canonical (h.storedAtlas within) (.of_locate located slash free)
  exact ⟨_, _, ran, rfl, h.run canonical ran⟩

end Annals

/-- What may have happened to an index since there was none, with the log of what was indexed. Paths
may be indexed if what they lead to passes a test. -/
inductive Chronicle (reader : FileReader) (index : RawText) (may : FileSystem → RawText → Prop) :
    World → Log → Prop
  /-- There is no index. -/
  | start {w : World} : w.files.isFile index = false → Chronicle reader index may w []
  /-- Files change, but not what the index file holds. -/
  | edit {w w' : World} {log : Log} : Chronicle reader index may w log →
      w'.files.storedAtlas index = w.files.storedAtlas index → Chronicle reader index may w' log
  /-- A path is indexed. -/
  | run {w w' : World} {log : Log} {path root : RawText} {report : Report} :
      Chronicle reader index may w log → w.files.canonicalPath path = .ok root →
      may w.files root → (indexPath reader index path).runOn w = (.ok report, w') →
      Chronicle reader index may w' (w.files.logAfter reader root log)
  /-- Indexing a path fails. -/
  | fail {w w' : World} {log : Log} {path : RawText} {f : Failure} :
      Chronicle reader index may w log →
      (indexPath reader index path).runOn w = (.error f, w') → Chronicle reader index may w' log

namespace Chronicle

variable {reader : FileReader} {index : RawText} {may : FileSystem → RawText → Prop} {w : World}
  {log : Log}

private theorem annals (h : Chronicle reader index may w log) :
    Annals (fun _ : Unit ↦ reader) index w log := by
  induction h with
  | start none => exact .start none
  | edit _ same ih => exact ih.edit same
  | run _ canonical _ ran ih => exact ih.run (i := ()) canonical ran
  | fail _ failed ih => exact ih.fail (i := ()) failed

/-- The index file holds the atlas of the log. -/
theorem storedAtlas (h : Chronicle reader index may w log) :
    w.files.storedAtlas index = .ok (.ofLog reader log) :=
  h.annals.storedAtlas fun _ ↦ .refl reader

/-- What a path leads to is indexed if the index can be saved. -/
theorem exists_run (h : Chronicle reader index may w log) {path root : RawText} {place : ValidPlace}
    (canonical : w.files.canonicalPath path = .ok root) (inside : may w.files root)
    (located : w.files.locate index true = .ok place)
    (slash : index.toList.getLast? ≠ some RawText.slash)
    (free : w.files.root.at? place.1 = none ∨
      ∃ before, w.files.root.at? place.1 = some (.file before)) :
    ∃ content w', (indexPath reader index path).runOn w =
        (.ok (w.files.runOver reader root (.ofLog reader log)).report, w') ∧
      w'.files = w.files.put place (.file content) (FileSystem.wellFormed_file _) ∧
      Chronicle reader index may w' (w.files.logAfter reader root log) := by
  obtain ⟨events, ran⟩ :=
    indexPath_of_saves reader canonical h.storedAtlas (.of_locate located slash free)
  exact ⟨_, _, ran, rfl, h.run canonical inside ran⟩

/-- What was indexed could be read. -/
theorem exists_reader_eq_ok (h : Chronicle reader index may w log) {f : FileVersion}
    (mem : f ∈ log) : ∃ c, reader f.source = .ok c := by
  obtain ⟨_, readable⟩ := h.annals.exists_reader_eq_ok mem
  exact readable

end Chronicle

/-! Short sources for runs that show what can happen, and an index file beside them. -/

namespace Sample

/-- A function without arguments and with an empty body, as in `int f() {}`. -/
def function (name : String) (start : Nat) : Construct :=
  .mk .function name none start (start + 10) [.mk .other "" none (start + 8) (start + 10) []]

/-- The table `PyMethodDef T[] = {{"g", g, 0, 0}}`, behind a function. -/
def table : Construct :=
  .mk .variable "T" (some "PyMethodDef") 11 46 [.mk .initializerList "" none 29 45 [
    .mk .initializerList "" none 30 44 [
      .mk .stringLiteral "\"g\"" none 31 34 [], .mk .reference "g" none 36 37 [],
      .mk .literal "0" none 39 40 [], .mk .literal "0" none 42 43 []]]]

/-- The reader that knows what some files contain. -/
def reader (known : List (FileVersion × List Construct)) : FileReader := fun f ↦
  let parts := ((known.find? fun e ↦ e.1.bytes = f.bytes).map (·.2)).getD []
  .ok (.mk .wholeFile f.path none 0 f.bytes.size parts)

/-- Where a source is. -/
def firstPlace : ValidPlace := ⟨["a.c"], by decide⟩

/-- Where another source is. -/
def secondPlace : ValidPlace := ⟨["b.c"], by decide⟩

/-- Where the index file is. -/
def indexPlace : ValidPlace := ⟨["i.json"], by decide⟩

/-- Files, with an index file. -/
def withIndex (fs : FileSystem) (content : ByteArray) : FileSystem := fs.putFile indexPlace content

/-- Where a source is whose name is no text. -/
def firstAlias : ValidPlace := ⟨[.ofList [0x78, 0xFE, 0x2E, 0x63]], by decide⟩

/-- Where another source is whose name is read as the same text. -/
def secondAlias : ValidPlace := ⟨[.ofList [0x78, 0xFF, 0x2E, 0x63]], by decide⟩

theorem text_firstAlias : (Path.ofNames firstAlias.1).text = "/x\uFFFD.c" := rfl

theorem text_secondAlias : (Path.ofNames secondAlias.1).text = "/x\uFFFD.c" := rfl

/-- The two sources, which have one key. -/
def aliases (first second : String) : FileSystem :=
  (FileSystem.empty.putFile firstAlias first.toUTF8).putFile secondAlias second.toUTF8

/-- The index can be saved beside them. -/
theorem saves_aliases (first second : String) :
    (aliases first second).Saves "/i.json" (aliases first second) indexPlace := by
  have located : (aliases first second).locate "/i.json" true = .ok indexPlace := rfl
  exact .of_locate located (by decide) (.inl rfl)

/-- Of two sources with one key and different digests, which can be read, both are indexed, unless
the first one is up to date, and the second one replaces the first one. -/
theorem runOver_aliases {reader : FileReader} (fs : FileSystem) {a : Atlas} {s t : String}
    {c c' : Construct}
    (visited : fs.visited "/" = [Path.ofNames firstAlias.1, Path.ofNames secondAlias.1])
    (there : fs.read (Path.ofNames firstAlias.1) = .ok s.toUTF8)
    (there' : fs.read (Path.ofNames secondAlias.1) = .ok t.toUTF8)
    (readable : reader ⟨"/x\uFFFD.c", s.toUTF8⟩ = .ok c)
    (readable' : reader ⟨"/x\uFFFD.c", t.toUTF8⟩ = .ok c')
    (different : Sha256.hex s.toUTF8 ≠ Sha256.hex t.toUTF8)
    (new : a.digest? "/x\uFFFD.c" ≠ some (Sha256.hex s.toUTF8)) :
    fs.runOver reader "/" a = {
      atlas := (a.replaceFile "/x\uFFFD.c" (c.survey ⟨"/x\uFFFD.c", s.toUTF8⟩)
        (Sha256.hex s.toUTF8)).replaceFile "/x\uFFFD.c" (c'.survey ⟨"/x\uFFFD.c", t.toUTF8⟩)
        (Sha256.hex t.toUTF8)
      report := { root := "/", scanned := 2, indexed := 2 } } := by
  rw [FileSystem.runOver, visited, List.foldl_cons, List.foldl_cons, List.foldl_nil,
    Run.addFile_addFile_of_text_eq (text_secondAlias.trans text_firstAlias.symm) different
      (text_firstAlias ▸ new) there (by rwa [SourceFile.atPath, text_firstAlias]) there'
      (by rwa [SourceFile.atPath, text_secondAlias])]
  rw [SourceFile.atPath, SourceFile.atPath, text_firstAlias, text_secondAlias]
  rfl

/-- Two sources have different digests. -/
theorem hex_ne : Sha256.hex "int f() \x7b\x7d\nint g() \x7b\x7d\n".toUTF8 ≠
    Sha256.hex "int g() \x7b\x7d\n".toUTF8 := by
  decide +kernel

end Sample

end BuiltinAtlas
