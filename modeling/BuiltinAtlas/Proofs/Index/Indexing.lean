import BuiltinAtlas.Index.Update
import BuiltinAtlas.Proofs.Index.Saving

/-!
# Indexing a path

An indexing run comes down to two things: `FileSystem.runOver` says what it makes of the stored
atlas, and `FileSystem.Saves` where the result is written. If a run fails, the index file holds what
it held before.
-/

namespace BuiltinAtlas

/-- An indexing run over what is below a canonical path, beginning with an atlas. -/
def FileSystem.runOver (fs : FileSystem) (reader : FileReader) (root : RawText) (a : Atlas) : Run :=
  (fs.visited root).foldl (Run.addFile reader fs) ⟨a, { root := root.text }, []⟩

variable {reader : FileReader} {index path : RawText} {w w' : World}

/-- Indexing a path finds out what is there, loads the index, goes over the files, and saves the
index. -/
theorem indexPath_runOn (reader : FileReader) (index path : RawText) (w : World) :
    (indexPath reader index path).runOn w =
      if w.files.pathExists path then
        match w.files.canonicalPath path with
        | .error e => (.error (.files path e), w)
        | .ok root =>
          match w.files.storedAtlas index with
          | .error f => (.error f, w)
          | .ok a =>
            let run := w.files.runOver reader root a
            match (saveAtlas index run.atlas).runOn
                { w with events := w.events ++ run.skipped.reverse.map .skipped } with
            | (.error f, w') => (.error f, w')
            | (.ok (), w') =>
              (.ok run.report, { w' with events := w'.events ++ [.updated run.report] })
      else (.error (.pathNotFound path), w) := by
  unfold indexPath FileSystem.runOver
  cases there : w.files.pathExists path with
  | false =>
    simp only [Job.runOn_bind, Job.runOn_files, there, Job.runOn_fail, Bool.not_false, if_true]
    rfl
  | true =>
    simp only [Job.runOn_bind, Job.runOn_files, there, Bool.not_true, if_true,
      Job.runOn_ofExcept, Bool.false_eq_true, if_false]
    cases w.files.canonicalPath path with
    | error e => rfl
    | ok root =>
      simp only [Job.runOn_pure, Except.mapError, loadAtlas_runOn]
      cases w.files.storedAtlas index with
      | error f => rfl
      | ok a =>
        simp only [Job.runOn_forM_note]
        rcases (saveAtlas index _).runOn _ with ⟨_ | _, w'⟩
        · rfl
        · rfl

/-- If a path was indexed, it led somewhere, the index file held an atlas, and what the run made of
that was saved. -/
theorem exists_of_indexPath {report : Report}
    (ran : (indexPath reader index path).runOn w = (.ok report, w')) :
    ∃ root a prepared place, w.files.canonicalPath path = .ok root ∧
      w.files.storedAtlas index = .ok a ∧ w.files.Saves index prepared place ∧
      report = (w.files.runOver reader root a).report ∧
      w'.files = prepared.putFile place (w.files.runOver reader root a).atlas.write.toUTF8 := by
  rw [indexPath_runOn] at ran
  split at ran
  · split at ran
    · cases ran
    · next root canonical =>
      split at ran
      · cases ran
      · next a stored =>
        simp only [saveAtlas_runOn_save] at ran
        rcases w.files.saves_or_fails index with ⟨prepared, place, saves⟩ | ⟨f, failed, fails⟩
        · rw [saves.save] at ran
          cases ran
          exact ⟨root, a, prepared, place, canonical, stored, saves, rfl, rfl⟩
        · rw [fails] at ran
          cases ran
  · cases ran

/-- After a path was indexed, the index file holds what the run over the path made of what it held
before. -/
theorem storedAtlas_of_indexPath {root : RawText} {a : Atlas} {report : Report}
    (canonical : w.files.canonicalPath path = .ok root)
    (stored : w.files.storedAtlas index = .ok a)
    (ran : (indexPath reader index path).runOn w = (.ok report, w')) :
    report = (w.files.runOver reader root a).report ∧
      w'.files.storedAtlas index = .ok (w.files.runOver reader root a).atlas := by
  obtain ⟨root', a', prepared, place, canonical', stored', saves, same, files⟩ :=
    exists_of_indexPath ran
  cases canonical.symm.trans canonical'
  cases stored.symm.trans stored'
  exact ⟨same, by rw [files, saves.storedAtlas]⟩

/-- If a path could not be indexed, the index file holds what it held before. -/
theorem storedAtlas_of_indexPath_error {f : Failure}
    (h : (indexPath reader index path).runOn w = (.error f, w')) :
    w'.files.storedAtlas index = w.files.storedAtlas index := by
  rw [indexPath_runOn] at h
  split at h
  · split at h
    · cases h; rfl
    · split at h
      · cases h; rfl
      · simp only at h
        split at h
        · next failed =>
          cases h
          have kept := storedAtlas_of_saveAtlas_error failed
          exact kept
        · cases h
  · cases h; rfl

/-- A path that leads to something is indexed if the index can be loaded and saved. -/
theorem indexPath_of_saves (reader : FileReader) {root : RawText} {a : Atlas}
    {prepared : FileSystem} {place : ValidPlace} (canonical : w.files.canonicalPath path = .ok root)
    (stored : w.files.storedAtlas index = .ok a) (saves : w.files.Saves index prepared place) :
    ∃ events, (indexPath reader index path).runOn w =
      (.ok (w.files.runOver reader root a).report, {
        files := prepared.putFile place (w.files.runOver reader root a).atlas.write.toUTF8
        events := events }) := by
  let run := w.files.runOver reader root a
  refine ⟨w.events ++ run.skipped.reverse.map .skipped ++ [.updated run.report], ?_⟩
  rw [indexPath_runOn, if_pos (FileSystem.pathExists_of_canonicalPath canonical)]
  simp only [canonical, stored, saveAtlas_runOn_save, saves.save]
  rfl

/-- A path that leads to something cannot be indexed if the index can be loaded, but not saved. -/
theorem indexPath_of_fails (reader : FileReader) {root : RawText} {a : Atlas} {f : Failure}
    {failed : FileSystem} (canonical : w.files.canonicalPath path = .ok root)
    (stored : w.files.storedAtlas index = .ok a)
    (fails : ∀ content, w.files.save index content = (.error f, failed)) :
    ∃ events, (indexPath reader index path).runOn w =
      (.error f, { files := failed, events := events }) := by
  let run := w.files.runOver reader root a
  refine ⟨w.events ++ run.skipped.reverse.map .skipped, ?_⟩
  rw [indexPath_runOn, if_pos (FileSystem.pathExists_of_canonicalPath canonical)]
  simp only [canonical, stored, saveAtlas_runOn_save, fails]
  rfl

/-- If a path that leads to something cannot be indexed although the index can be loaded, then the
index cannot be saved, whatever it is. -/
theorem save_of_indexPath_error {root : RawText} {a : Atlas} {f : Failure}
    (canonical : w.files.canonicalPath path = .ok root)
    (stored : w.files.storedAtlas index = .ok a)
    (ran : (indexPath reader index path).runOn w = (.error f, w')) (content : ByteArray) :
    w.files.save index content = (.error f, w'.files) := by
  rcases w.files.saves_or_fails index with ⟨prepared, place, saves⟩ | ⟨f', failed, fails⟩
  · obtain ⟨events, fine⟩ := indexPath_of_saves reader canonical stored saves
    rw [fine] at ran
    cases ran
  · obtain ⟨events, failing⟩ := indexPath_of_fails reader canonical stored fails
    cases ran.symm.trans failing
    exact fails content

/-- A path that leads to something cannot be indexed if the index cannot be loaded. -/
theorem indexPath_of_storedAtlas_error (reader : FileReader) {root : RawText} {f : Failure}
    (canonical : w.files.canonicalPath path = .ok root)
    (stored : w.files.storedAtlas index = .error f) :
    (indexPath reader index path).runOn w = (.error f, w) := by
  rw [indexPath_runOn, if_pos (FileSystem.pathExists_of_canonicalPath canonical)]
  simp only [canonical, stored]

end BuiltinAtlas
