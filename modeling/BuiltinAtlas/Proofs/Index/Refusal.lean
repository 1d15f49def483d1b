import BuiltinAtlas.Proofs.Index.Batch

/-!
# Runs that are refused

An indexing run that fails because its path does not exist, or because the index file cannot be
read, changes nothing, and it fails so in just these cases (`indexPath_refused_iff`). Of several
paths, the ones before the first failure are indexed, and no other one is looked at
(`indexPaths_refused`).
-/

namespace BuiltinAtlas

/-- A failure for which an indexing run is not begun: the path does not exist, or the index file is
there and cannot be read. -/
inductive Failure.Refused (index : RawText) (fs : FileSystem) : Failure → Prop
  | pathNotFound (path : RawText) : Refused index fs (.pathNotFound path)
  | malformedIndex (path : RawText) (fault : Json.Fault) :
      Refused index fs (.malformedIndex path fault)
  | unreadableIndex (e : FileError) :
      fs.isFile index = true → fs.readText index = .error e → Refused index fs (.files index e)

section

variable {reader : FileReader} {index path : RawText} {w w' : World} {f : Failure}

private theorem FileSystem.refused_of_storedAtlas {fs : FileSystem}
    (h : fs.storedAtlas index = .error f) : f.Refused index fs := by
  rw [storedAtlas] at h
  split at h
  · next file =>
    rcases readAtlas_eq_error_iff.mp h with ⟨e, unreadable, rfl⟩ | ⟨text, fault, -, -, rfl⟩
    · exact .unreadableIndex e file unreadable
    · exact .malformedIndex index fault
  · cases h

private theorem FileSystem.not_refused_of_save {fs fs' : FileSystem} {a : Atlas}
    {content : ByteArray} (stored : fs.storedAtlas index = .ok a)
    (failed : fs.save index content = (.error f, fs')) :
    ¬ f.Refused index fs := by
  -- Saving fails for reasons of the files only.
  have reason : ∃ around e, f = .files around e := by
    rw [save] at failed
    split at failed
    · next f' prepared unprepared =>
      cases failed
      rw [prepareAround] at unprepared
      split at unprepared
      · cases unprepared
      · split at unprepared
        · cases unprepared
        · split at unprepared
          · cases unprepared
          · cases unprepared
            exact ⟨_, _, rfl⟩
    · split at failed
      · cases failed
      · cases failed
        exact ⟨_, _, rfl⟩
  obtain ⟨around, e, rfl⟩ := reason
  intro refused
  cases refused with
  | unreadableIndex e file unreadable =>
    rw [storedAtlas, if_pos file, readAtlas, unreadable] at stored
    cases stored

private theorem FileSystem.exists_canonicalPath {fs : FileSystem}
    (there : fs.pathExists path = true) : ∃ root, fs.canonicalPath path = .ok root := by
  rw [pathExists] at there
  rw [canonicalPath]
  cases found : fs.find path with
  | error e =>
    rw [found] at there
    cases there
  | ok found => exact ⟨_, rfl⟩

private theorem indexPath_refused_iff :
    (indexPath reader index path).runOn w = (.error f, w') ∧ f.Refused index w.files ↔
      w' = w ∧
        (w.files.pathExists path = false ∧ f = .pathNotFound path ∨
          w.files.pathExists path = true ∧ w.files.storedAtlas index = .error f) := by
  cases there : w.files.pathExists path with
  | false =>
    have refused : (indexPath reader index path).runOn w = (.error (.pathNotFound path), w) := by
      rw [indexPath_runOn, there]
      rfl
    rw [refused]
    constructor
    · rintro ⟨ran, -⟩
      cases ran
      exact ⟨rfl, .inl ⟨rfl, rfl⟩⟩
    · rintro ⟨rfl, ⟨-, rfl⟩ | ⟨no, -⟩⟩
      · exact ⟨rfl, .pathNotFound path⟩
      · cases no
  | true =>
    obtain ⟨root, canonical⟩ := FileSystem.exists_canonicalPath there
    cases stored : w.files.storedAtlas index with
    | error unreadable =>
      rw [indexPath_of_storedAtlas_error reader canonical stored]
      constructor
      · rintro ⟨ran, -⟩
        cases ran
        exact ⟨rfl, .inr ⟨rfl, rfl⟩⟩
      · rintro ⟨rfl, ⟨no, -⟩ | ⟨-, same⟩⟩
        · cases no
        · cases same
          exact ⟨rfl, FileSystem.refused_of_storedAtlas stored⟩
    | ok a =>
      constructor
      · rintro ⟨ran, refused⟩
        have unsaved := save_of_indexPath_error canonical stored ran ByteArray.empty
        exact absurd refused (FileSystem.not_refused_of_save stored unsaved)
      · rintro ⟨-, ⟨no, -⟩ | ⟨-, no⟩⟩
        · cases no
        · cases no

end

/-- A refused run changes nothing. If one of several runs fails, those before it are done and no
other one is begun, so that the files are those after the runs before it if it is refused. -/
theorem indexPaths_refused (reader : FileReader) (index : RawText) :
    (∀ path w f w',
      (indexPath reader index path).runOn w = (.error f, w') ∧ f.Refused index w.files ↔
        w' = w ∧
          (w.files.pathExists path = false ∧ f = .pathNotFound path ∨
            w.files.pathExists path = true ∧ w.files.storedAtlas index = .error f)) ∧
    ∀ paths w f w', (indexPaths reader index paths).runOn w = (.error f, w') →
      ∃ before path after reports v, paths = before ++ path :: after ∧
        (indexPaths reader index before).runOn w = (.ok reports, v) ∧
        (indexPath reader index path).runOn v = (.error f, w') ∧
        (f.Refused index v.files → w' = v) ∧
        ∀ other, (indexPaths reader index (before ++ path :: other)).runOn w = (.error f, w') := by
  refine ⟨fun path w f w' ↦ indexPath_refused_iff, fun paths w f w' failed ↦ ?_⟩
  obtain ⟨before, path, after, reports, v, rfl, done, last⟩ :=
    Job.runOn_mapM_eq_error_iff.mp failed
  refine ⟨before, path, after, reports, v, rfl, done, last, ?_, fun other ↦ ?_⟩
  · exact fun refused ↦ (indexPath_refused_iff.mp ⟨last, refused⟩).1
  · exact Job.runOn_mapM_eq_error_iff.mpr ⟨before, path, other, reports, v, rfl, done, last⟩

/-! A source is indexed, then a path that does not exist, so that a third path is not reached. Where
the index file is malformed, nothing is indexed at all. -/

namespace Refusals

open Sample

/-- The source. -/
def source : FileVersion := ⟨"/a.c", "int f() \x7b\x7d\n".toUTF8⟩

/-- The reader that can read it. -/
def reader : FileReader := Sample.reader [(source, [function "f" 0])]

/-- The file system with the source. -/
def files : FileSystem := FileSystem.empty.putFile firstPlace source.bytes

/-- The same with an index file that ends too early. -/
def broken : FileSystem := withIndex files "\x7b".toUTF8

/-- The runs over three paths stop at the second one, and the run that finds a malformed index does
nothing. -/
theorem indexPaths_refused_files :
    (∃ v, (indexPaths reader "/i.json" [↑"/a.c"]).runOn ⟨files, []⟩ =
        (.ok [{ root := "/a.c", scanned := 1, indexed := 1 }], v) ∧
      (indexPaths reader "/i.json" [↑"/a.c", ↑"/none", ↑"/"]).runOn ⟨files, []⟩ =
        (.error (.pathNotFound "/none"), v)) ∧
    (indexPath reader "/i.json" "/").runOn ⟨broken, []⟩ =
      (.error (.malformedIndex "/i.json" .ended), ⟨broken, []⟩) := by
  obtain ⟨single, several⟩ := indexPaths_refused reader "/i.json"
  constructor
  · have canonical : files.canonicalPath "/a.c" = .ok "/a.c" := rfl
    have stored : files.storedAtlas "/i.json" = .ok .empty := rfl
    have located : files.locate "/i.json" true = .ok indexPlace := rfl
    have saves : files.Saves "/i.json" files indexPlace :=
      .of_locate located (by decide) (.inl rfl)
    have report : (files.runOver reader "/a.c" .empty).report =
        { root := "/a.c", scanned := 1, indexed := 1 } := rfl
    obtain ⟨v, first, none⟩ : ∃ v, (indexPath reader "/i.json" "/a.c").runOn ⟨files, []⟩ =
        (.ok { root := "/a.c", scanned := 1, indexed := 1 }, v) ∧
        v.files.pathExists "/none" = false := by
      obtain ⟨events, ran⟩ := indexPath_of_saves (w := ⟨files, []⟩) reader canonical stored saves
      exact ⟨_, ran.trans (congrArg (fun r ↦ (Except.ok r, _)) report), rfl⟩
    have once : (indexPaths reader "/i.json" [↑"/a.c"]).runOn ⟨files, []⟩ =
        (.ok [{ root := "/a.c", scanned := 1, indexed := 1 }], v) :=
      indexPaths_cons_of_ok first (Job.runOn_mapM_nil _ v)
    have missing := ((single "/none" v _ v).mpr ⟨rfl, .inl ⟨none, rfl⟩⟩).1
    have twice : (indexPaths reader "/i.json" [↑"/a.c", ↑"/none"]).runOn ⟨files, []⟩ =
        (.error (.pathNotFound "/none"), v) :=
      Job.runOn_mapM_eq_error_iff.mpr ⟨[↑"/a.c"], "/none", [], _, v, rfl, once, missing⟩
    obtain ⟨before, path, after, reports, u, split, done, last, -, others⟩ := several _ _ _ _ twice
    refine ⟨v, once, ?_⟩
    rcases before with _ | ⟨x, _ | ⟨y, before⟩⟩
    · cases split
      cases done.symm.trans (Job.runOn_mapM_nil _ _)
      cases first.symm.trans last
    · cases split
      exact others [↑"/"]
    · simp at split
  · have malformed : broken.storedAtlas "/i.json" =
        .error (.malformedIndex "/i.json" .ended) := by
      have file : broken.isFile "/i.json" = true := rfl
      have text : broken.readText "/i.json" = .ok "\x7b" := rfl
      have fault : Atlas.read "\x7b" = .error .ended := rfl
      rw [FileSystem.storedAtlas, if_pos file, FileSystem.readAtlas, text]
      simp only [fault]
    exact ((single "/" _ _ _).mpr ⟨rfl, .inr ⟨rfl, malformed⟩⟩).1

end Refusals

end BuiltinAtlas
