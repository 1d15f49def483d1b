import BuiltinAtlas.Proofs.Index.Log
import BuiltinAtlas.Proofs.Index.Step

/-!
# Indexing runs

An indexing run goes over the files that it visits, one after the other. `Log.visit` says what one
of them adds to the log, and a run does to the atlas of the log what it does to the log
(`Run.atlas_foldl_addFile`), also if the log has versions that another reader could read. The laws
of a whole run follow by induction on the files, whose keys need not be different.
-/

namespace BuiltinAtlas

namespace FileSystem

/-- A file has the content that was indexed last under its key, as far as digests tell. -/
def UpToDate (fs : FileSystem) (log : Log) (path : RawText) : Prop :=
  ∃ f bytes, log.latest? path.text = some f ∧ fs.read path = .ok bytes ∧
    Sha256.hex f.bytes = Sha256.hex bytes

end FileSystem

namespace Log

variable {reader : FileReader} {fs : FileSystem} {log : Log} {path : RawText} {f : FileVersion}
  {bytes : ByteArray}

/-- The log after the file at a path was taken into account. -/
def visit (reader : FileReader) (fs : FileSystem) (log : Log) (path : RawText) : Log :=
  match fs.read path with
  | .error _ => log
  | .ok bytes =>
    if (latest? log path.text).map (fun f ↦ Sha256.hex f.bytes) = some (Sha256.hex bytes) then log
    else match reader (.atPath path bytes) with
    | .error _ => log
    | .ok _ => ⟨path, bytes⟩ :: log

/-- A file that is up to date is left out. -/
theorem visit_of_upToDate (h : fs.UpToDate log path) : visit reader fs log path = log := by
  obtain ⟨f, bytes, last, there, same⟩ := h
  simp [visit, there, last, same]

/-- A file with another digest than the last version under its key, if there is one, is indexed if
it can be read. -/
theorem visit_of_offers (h : fs.Offers reader f)
    (new : ∀ g, latest? log f.key = some g → Sha256.hex g.bytes ≠ Sha256.hex f.bytes) :
    visit reader fs log f.path = f :: log := by
  obtain ⟨there, c, readable⟩ := h
  rw [FileVersion.source] at readable
  rw [visit, there]
  simp only
  rw [if_neg, readable]
  intro same
  obtain ⟨g, last, equal⟩ := Option.map_eq_some_iff.mp same
  exact new g last equal

private theorem visit_of_not_upToDate (h : fs.Offers reader ⟨path, bytes⟩)
    (new : ¬ fs.UpToDate log path) : visit reader fs log path = ⟨path, bytes⟩ :: log := by
  apply visit_of_offers h
  intro g last equal
  exact new ⟨g, bytes, last, h.1, equal⟩

private theorem visit_of_not_offers (h : ¬ ∃ bytes, fs.Offers reader ⟨path, bytes⟩) :
    visit reader fs log path = log := by
  unfold visit
  split
  · rfl
  · next bytes there =>
    split
    · rfl
    · split
      · rfl
      · next c readable => exact absurd ⟨bytes, there, c, readable⟩ h

private theorem visit_cases (reader : FileReader) (fs : FileSystem) (log : Log) (path : RawText) :
    visit reader fs log path = log ∨
      ∃ f, f.path = path ∧ fs.Offers reader f ∧ visit reader fs log path = f :: log := by
  by_cases upToDate : fs.UpToDate log path
  · exact .inl (visit_of_upToDate upToDate)
  by_cases offered : ∃ bytes, fs.Offers reader ⟨path, bytes⟩
  · obtain ⟨bytes, offers⟩ := offered
    exact .inr ⟨⟨path, bytes⟩, rfl, offers, visit_of_not_upToDate offers upToDate⟩
  · exact .inl (visit_of_not_offers offered)

/-- A file that is there and can be read is up to date when it has been taken into account. -/
theorem upToDate_visit (log : Log) (h : fs.Offers reader ⟨path, bytes⟩) :
    fs.UpToDate (visit reader fs log path) path := by
  by_cases upToDate : fs.UpToDate log path
  · rwa [visit_of_upToDate upToDate]
  · rw [visit_of_not_upToDate h upToDate]
    exact ⟨⟨path, bytes⟩, bytes, current_cons_self ⟨path, bytes⟩ log, h.1, rfl⟩

/-- A file changes nothing under other keys. -/
theorem latest?_visit_of_ne {key : String} (other : key ≠ path.text) :
    latest? (visit reader fs log path) key = latest? log key := by
  rcases visit_cases reader fs log path with same | ⟨f, rfl, -, new⟩
  · rw [same]
  · rw [new, latest?_cons_of_ne log (Ne.symm other)]

/-- A run adds to the log. -/
theorem suffix_foldl_visit (reader : FileReader) (fs : FileSystem) (log : Log)
    (paths : List RawText) : log <:+ paths.foldl (visit reader fs) log := by
  induction paths generalizing log with
  | nil => exact List.suffix_rfl
  | cons path paths ih =>
    refine .trans ?_ (ih (visit reader fs log path))
    rcases visit_cases reader fs log path with same | ⟨f, -, -, new⟩
    · exact ⟨[], same.symm⟩
    · exact ⟨[f], new.symm⟩

/-- What a run left behind at some time is there before it, or is what the first files of it leave
behind. -/
theorem exists_prefix_of_suffix_foldl_visit {paths : List RawText} {earlier : Log}
    (h : earlier <:+ paths.foldl (visit reader fs) log) :
    earlier <:+ log ∨ ∃ first, first <+: paths ∧ earlier = first.foldl (visit reader fs) log := by
  induction paths generalizing log with
  | nil => exact .inl h
  | cons path paths ih =>
    rcases ih h with before | ⟨first, pre, rfl⟩
    · rcases visit_cases reader fs log path with same | ⟨f, -, -, new⟩
      · rw [same] at before
        exact .inl before
      · rw [new] at before
        rcases List.suffix_cons_iff.mp before with rfl | older
        · exact .inr ⟨[path], List.prefix_cons_inj path |>.mpr List.nil_prefix, new.symm⟩
        · exact .inl older
    · exact .inr ⟨path :: first, (List.prefix_cons_inj path).mpr pre, rfl⟩

/-- What a run indexes is there and can be read. -/
theorem mem_foldl_visit {paths : List RawText} {f : FileVersion}
    (h : f ∈ paths.foldl (visit reader fs) log) :
    f ∈ log ∨ f.path ∈ paths ∧ fs.Offers reader f := by
  induction paths generalizing log with
  | nil => exact .inl h
  | cons path paths ih =>
    rcases ih h with mem | ⟨mem, offers⟩
    · rcases visit_cases reader fs log path with same | ⟨g, rfl, offers, new⟩
      · rw [same] at mem
        exact .inl mem
      · rw [new] at mem
        rcases List.mem_cons.mp mem with rfl | old
        · exact .inr ⟨List.mem_cons_self, offers⟩
        · exact .inl old
    · exact .inr ⟨List.mem_cons_of_mem _ mem, offers⟩

end Log

open Log

private theorem Atlas.upToDate_ofLog_iff {reader : FileReader} {fs : FileSystem} {log : Log}
    {path : RawText} :
    (ofLog reader log).upToDate fs path = true ↔ fs.UpToDate log path := by
  simp only [upToDate_iff, digest?_ofLog, Option.map_eq_some_iff]
  constructor
  · rintro ⟨bytes, there, f, last, same⟩
    exact ⟨f, bytes, last, there, same⟩
  · rintro ⟨f, bytes, last, there, same⟩
    exact ⟨bytes, there, f, last, same⟩

namespace Run

variable {reader whole : FileReader} {fs : FileSystem} {r : Run} {log : Log} {paths : List RawText}

private theorem logged_addFile (within : reader.Within whole) (fs : FileSystem)
    (h : r.atlas = .ofLog whole log) (path : RawText) :
    (r.addFile reader fs path).atlas = .ofLog whole (visit reader fs log path) := by
  rcases addFile_cases reader fs r path with
    ⟨known, counted⟩ | ⟨bytes, c, known, there, readable, indexed⟩ | ⟨_, -, no, failed⟩
  · rw [h] at known
    rw [counted, visit_of_upToDate (Atlas.upToDate_ofLog_iff.mp known)]
    exact h
  · rw [h, Bool.eq_false_iff, Ne, Atlas.upToDate_ofLog_iff] at known
    have visited : visit reader fs log path = ⟨path, bytes⟩ :: log :=
      visit_of_not_upToDate ⟨there, c, readable⟩ known
    have found : whole.findings ⟨path, bytes⟩ = c.survey (.atPath path bytes) :=
      FileReader.findings_of_eq_ok (within _ c readable)
    rw [indexed, visited, Atlas.ofLog, ← h, found, FileVersion.key_mk]
  · rw [failed, visit_of_not_offers no]
    exact h

/-- The atlas of a run is that of its log. -/
theorem atlas_foldl_addFile (within : reader.Within whole) (h : r.atlas = .ofLog whole log)
    (paths : List RawText) :
    (paths.foldl (addFile reader fs) r).atlas =
      .ofLog whole (paths.foldl (visit reader fs) log) := by
  induction paths generalizing r log with
  | nil => exact h
  | cons path paths ih => exact ih (logged_addFile within fs h path)

private theorem failed_addFile_cases (reader : FileReader) (fs : FileSystem) (r : Run)
    (path : RawText) :
    (r.addFile reader fs path).report.failed = r.report.failed ∧
        (r.atlas.upToDate fs path = true ∨ ∃ bytes, fs.Offers reader ⟨path, bytes⟩) ∨
      (r.addFile reader fs path).report.failed = r.report.failed + 1 ∧
        ¬ ∃ bytes, fs.Offers reader ⟨path, bytes⟩ := by
  rcases addFile_cases reader fs r path with
    ⟨known, counted⟩ | ⟨bytes, c, -, there, readable, indexed⟩ | ⟨_, -, no, failed⟩
  · rw [counted]
    exact .inl ⟨rfl, .inl known⟩
  · rw [indexed]
    exact .inl ⟨rfl, .inr ⟨bytes, there, c, readable⟩⟩
  · rw [failed]
    exact .inr ⟨rfl, no⟩

private theorem le_failed_foldl_addFile (reader : FileReader) (fs : FileSystem) (r : Run)
    (paths : List RawText) :
    r.report.failed ≤ (paths.foldl (addFile reader fs) r).report.failed := by
  induction paths generalizing r with
  | nil => exact Nat.le_refl _
  | cons path paths ih =>
    have here := failed_addFile_cases reader fs r path
    have later := ih (r.addFile reader fs path)
    rw [List.foldl_cons]
    omega

/-- If no file fails, each of them was up to date at some time of the run, or is there and can be
read. -/
theorem upToDate_or_offers (h : r.atlas = .ofLog reader log)
    (allFine : (paths.foldl (addFile reader fs) r).report.failed = r.report.failed) :
    ∀ path ∈ paths, (∃ earlier, earlier <:+ paths.foldl (visit reader fs) log ∧
      fs.UpToDate earlier path) ∨ ∃ bytes, fs.Offers reader ⟨path, bytes⟩ := by
  induction paths generalizing r log with
  | nil => exact nofun
  | cons first paths ih =>
    have later := le_failed_foldl_addFile reader fs (r.addFile reader fs first) paths
    rw [List.foldl_cons] at allFine
    obtain ⟨same, fine⟩ : (r.addFile reader fs first).report.failed = r.report.failed ∧
        (r.atlas.upToDate fs first = true ∨ ∃ bytes, fs.Offers reader ⟨first, bytes⟩) := by
      refine (failed_addFile_cases reader fs r first).resolve_right fun ⟨failed, _⟩ ↦ ?_
      omega
    intro path mem
    rw [List.foldl_cons]
    rcases List.mem_cons.mp mem with rfl | mem
    · refine fine.imp_left fun known ↦ ?_
      rw [h] at known
      exact ⟨log, suffix_foldl_visit reader fs log (path :: paths),
        Atlas.upToDate_ofLog_iff.mp known⟩
    · exact ih (logged_addFile (.refl reader) fs h first) (allFine.trans same.symm) path mem

/-- If all files are there and can be read, no file fails. -/
theorem failed_foldl_addFile
    (offered : ∀ path ∈ paths, ∃ bytes, fs.Offers reader ⟨path, bytes⟩) :
    (paths.foldl (addFile reader fs) r).report.failed = r.report.failed := by
  induction paths generalizing r with
  | nil => rfl
  | cons path paths ih =>
    rw [List.foldl_cons, ih fun other mem ↦ offered other (List.mem_cons_of_mem _ mem)]
    rcases failed_addFile_cases reader fs r path with ⟨same, -⟩ | ⟨-, no⟩
    · exact same
    · exact absurd (offered path List.mem_cons_self) no

end Run

end BuiltinAtlas
