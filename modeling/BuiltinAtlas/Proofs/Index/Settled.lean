import BuiltinAtlas.Proofs.Index.Step

/-!
# What an indexing run leaves behind

A file is settled if it is up to date or cannot be indexed. Taking a file into account settles it,
and it stays as it is when files with other keys are taken into account. Hence the atlas that a run
over files with different keys ends with tells what became of each file: `Run.report_foldl_addFile`
counts the files that are up to date at the end. `Run.foldl_addFile_of_settled` says that a run over
settled files changes nothing.
-/

namespace BuiltinAtlas

/-- A file is up to date or cannot be indexed. -/
def Atlas.Settled (a : Atlas) (reader : FileReader) (fs : FileSystem) (path : RawText) : Prop :=
  a.upToDate fs path = true ∨ ¬ ∃ bytes, fs.Offers reader ⟨path, bytes⟩

namespace Run

variable {reader : FileReader} {fs : FileSystem} {r : Run} {path : RawText} {paths : List RawText}

private theorem upToDate_addFile_iff :
    (r.addFile reader fs path).atlas.upToDate fs path = true ↔
      r.atlas.upToDate fs path = true ∨ ∃ bytes, fs.Offers reader ⟨path, bytes⟩ := by
  rcases addFile_cases reader fs r path with
    ⟨known, counted⟩ | ⟨bytes, c, known, there, readable, indexed⟩ | ⟨_, known, no, failed⟩
  · rw [counted]
    simp [known]
  · rw [indexed]
    refine iff_of_true ?_ (.inr ⟨bytes, there, c, readable⟩)
    exact Atlas.upToDate_iff.mpr ⟨bytes, there, by rw [Atlas.digest?_replaceFile, if_pos rfl]⟩
  · rw [failed]
    simp [known, no]

/-- A file changes no digest but that under its key. -/
theorem digest?_addFile_of_ne {key : String} (other : key ≠ path.text) :
    (r.addFile reader fs path).atlas.digest? key = r.atlas.digest? key := by
  rcases addFile_cases reader fs r path with
    ⟨-, counted⟩ | ⟨bytes, c, -, -, -, indexed⟩ | ⟨_, -, -, failed⟩
  · rw [counted]
  · rw [indexed]
    exact (Atlas.digest?_replaceFile ..).trans (if_neg other)
  · rw [failed]

private theorem upToDate_addFile_of_ne {other : RawText} (h : path.text ≠ other.text) :
    (r.addFile reader fs other).atlas.upToDate fs path = r.atlas.upToDate fs path := by
  rw [Atlas.upToDate, Atlas.upToDate, digest?_addFile_of_ne h]

private theorem upToDate_foldl_addFile (others : path.text ∉ paths.map RawText.text) :
    (paths.foldl (addFile reader fs) r).atlas.upToDate fs path = r.atlas.upToDate fs path := by
  induction paths generalizing r with
  | nil => rfl
  | cons other paths ih =>
    rw [List.map_cons, List.mem_cons, not_or] at others
    rw [List.foldl_cons, ih others.2, upToDate_addFile_of_ne others.1]

/-- Of files with different keys those are up to date after a run that were so before, or are there
and can be read. -/
theorem upToDate_foldl_addFile_iff (nodup : (paths.map RawText.text).Nodup) (mem : path ∈ paths) :
    (paths.foldl (addFile reader fs) r).atlas.upToDate fs path = true ↔
      r.atlas.upToDate fs path = true ∨ ∃ bytes, fs.Offers reader ⟨path, bytes⟩ := by
  induction paths generalizing r with
  | nil => cases mem
  | cons other paths ih =>
    obtain ⟨new, nodup⟩ := List.nodup_cons.mp nodup
    rw [List.foldl_cons]
    rcases List.mem_cons.mp mem with rfl | later
    · rw [upToDate_foldl_addFile new, upToDate_addFile_iff]
    · have elsewhere : path.text ≠ other.text := fun same ↦
        new (same ▸ List.mem_map_of_mem later)
      rw [ih nodup later, upToDate_addFile_of_ne elsewhere]

/-- Files with different keys are settled when a run has taken them into account. -/
theorem settled_foldl_addFile (reader : FileReader) (fs : FileSystem) (r : Run)
    (nodup : (paths.map RawText.text).Nodup) (mem : path ∈ paths) :
    (paths.foldl (addFile reader fs) r).atlas.Settled reader fs path := by
  by_cases offered : ∃ bytes, fs.Offers reader ⟨path, bytes⟩
  · exact .inl ((upToDate_foldl_addFile_iff nodup mem).mpr (.inr offered))
  · exact .inr offered

private theorem report_addFile (reader : FileReader) (fs : FileSystem) (r : Run) (path : RawText) :
    (r.addFile reader fs path).report.root = r.report.root ∧
      (r.addFile reader fs path).report.scanned = r.report.scanned + 1 ∧
      (r.addFile reader fs path).report.indexed + (r.addFile reader fs path).report.unchanged =
        r.report.indexed + r.report.unchanged +
          (if (r.addFile reader fs path).atlas.upToDate fs path then 1 else 0) ∧
      (r.addFile reader fs path).report.failed =
        r.report.failed + (if (r.addFile reader fs path).atlas.upToDate fs path then 0 else 1) := by
  rcases addFile_cases reader fs r path with
    ⟨known, counted⟩ | ⟨bytes, c, -, there, readable, indexed⟩ | ⟨_, known, -, failed⟩
  · rw [counted, if_pos known, if_pos known]
    exact ⟨rfl, rfl, rfl, rfl⟩
  · have now : (r.addFile reader fs path).atlas.upToDate fs path = true :=
      upToDate_addFile_iff.mpr (.inr ⟨bytes, there, c, readable⟩)
    rw [if_pos now, if_pos now, indexed]
    exact ⟨rfl, rfl, Nat.add_right_comm _ _ _, rfl⟩
  · rw [failed]
    simp [known]

/-- A run over files with different keys counts the files that it scans, those that are up to date
at its end, and as failed all others. -/
theorem report_foldl_addFile (reader : FileReader) (fs : FileSystem) (r : Run)
    (nodup : (paths.map RawText.text).Nodup) :
    (paths.foldl (addFile reader fs) r).report.root = r.report.root ∧
      (paths.foldl (addFile reader fs) r).report.scanned = r.report.scanned + paths.length ∧
      (paths.foldl (addFile reader fs) r).report.indexed +
          (paths.foldl (addFile reader fs) r).report.unchanged =
        r.report.indexed + r.report.unchanged +
          paths.countP ((paths.foldl (addFile reader fs) r).atlas.upToDate fs) ∧
      (paths.foldl (addFile reader fs) r).report.failed = r.report.failed +
        paths.countP fun path ↦ !(paths.foldl (addFile reader fs) r).atlas.upToDate fs path := by
  induction paths generalizing r with
  | nil => exact ⟨rfl, rfl, rfl, rfl⟩
  | cons path paths ih =>
    obtain ⟨new, nodup⟩ := List.nodup_cons.mp nodup
    obtain ⟨root, scanned, fine, failed⟩ := report_addFile reader fs r path
    obtain ⟨root', scanned', fine', failed'⟩ := ih (r.addFile reader fs path) nodup
    have last :
        (paths.foldl (addFile reader fs) (r.addFile reader fs path)).atlas.upToDate fs path =
          (r.addFile reader fs path).atlas.upToDate fs path := upToDate_foldl_addFile new
    rw [List.foldl_cons, List.countP_cons, List.countP_cons, List.length_cons, last]
    refine ⟨root'.trans root, by omega, by omega, ?_⟩
    rw [failed', failed]
    cases (r.addFile reader fs path).atlas.upToDate fs path with
    | true => simp
    | false => simp; omega

private theorem addFile_of_settled (h : r.atlas.Settled reader fs path) :
    (r.addFile reader fs path).atlas = r.atlas ∧
      (r.addFile reader fs path).report = { r.report with
        scanned := r.report.scanned + 1
        unchanged := r.report.unchanged + (if r.atlas.upToDate fs path then 1 else 0)
        failed := r.report.failed + (if r.atlas.upToDate fs path then 0 else 1) } := by
  rcases addFile_cases reader fs r path with
    ⟨known, counted⟩ | ⟨bytes, c, known, there, readable, -⟩ | ⟨_, known, -, failed⟩
  · rw [counted, if_pos known, if_pos known]
    exact ⟨rfl, rfl⟩
  · rw [Atlas.Settled, known] at h
    exact absurd ⟨bytes, there, c, readable⟩ (h.resolve_left Bool.false_ne_true)
  · rw [failed, known]
    exact ⟨rfl, rfl⟩

/-- A run over settled files changes nothing, and counts each of them as unchanged or failed. -/
theorem foldl_addFile_of_settled (h : ∀ path ∈ paths, r.atlas.Settled reader fs path) :
    (paths.foldl (addFile reader fs) r).atlas = r.atlas ∧
      (paths.foldl (addFile reader fs) r).report = { r.report with
        scanned := r.report.scanned + paths.length
        unchanged := r.report.unchanged + paths.countP (r.atlas.upToDate fs)
        failed := r.report.failed + paths.countP fun path ↦ !r.atlas.upToDate fs path } := by
  induction paths generalizing r with
  | nil => exact ⟨rfl, rfl⟩
  | cons path paths ih =>
    obtain ⟨same, counted⟩ := addFile_of_settled (h path List.mem_cons_self)
    have later : ∀ other ∈ paths, (r.addFile reader fs path).atlas.Settled reader fs other := by
      intro other mem
      rw [same]
      exact h other (List.mem_cons_of_mem _ mem)
    obtain ⟨atlas, report⟩ := ih later
    rw [List.foldl_cons, List.countP_cons, List.countP_cons, List.length_cons]
    refine ⟨atlas.trans same, ?_⟩
    rw [report, counted, same, Report.mk.injEq]
    cases r.atlas.upToDate fs path with
    | true => simp; omega
    | false => simp; omega

end Run

end BuiltinAtlas
