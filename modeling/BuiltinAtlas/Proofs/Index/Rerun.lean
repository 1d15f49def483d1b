import BuiltinAtlas.Proofs.Index.History
import BuiltinAtlas.Proofs.Index.Settled
import BuiltinAtlas.Proofs.Index.Visited

/-!
# Indexing again

Indexing a path a second time changes nothing (`indexPath_again`). The second run visits the same
files and reads the same from them, and all of them are settled: those that were indexed are up to
date, and the others fail again. If none failed, no file has to be parsed, so that any reader will
do. The files must have different keys: two files with one key are never both up to date, unless
they have the same digest.
-/

namespace BuiltinAtlas

private theorem Atlas.settled_congr {a : Atlas} {reader : FileReader} {fs fs' : FileSystem}
    {path : RawText} (read : ∀ bytes, fs'.read path = .ok bytes ↔ fs.read path = .ok bytes) :
    a.Settled reader fs' path ↔ a.Settled reader fs path := by
  simp only [Settled, upToDate_iff, FileSystem.Offers, read]

private theorem Atlas.upToDate_congr {a : Atlas} {fs fs' : FileSystem} {path : RawText}
    (read : ∀ bytes, fs'.read path = .ok bytes ↔ fs.read path = .ok bytes) :
    a.upToDate fs' path = a.upToDate fs path := by
  rw [Bool.eq_iff_iff, upToDate_iff, upToDate_iff]
  simp only [read]

/-- A run over files with different keys counts the files that it visits, those that are up to date
at its end, and as failed all others. -/
theorem FileSystem.report_runOver (reader : FileReader) (fs : FileSystem) (root : RawText)
    (a : Atlas) (distinct : ((fs.visited root).map RawText.text).Nodup) :
    (fs.runOver reader root a).report.root = root.text ∧
      (fs.runOver reader root a).report.scanned = (fs.visited root).length ∧
      (fs.runOver reader root a).report.indexed + (fs.runOver reader root a).report.unchanged =
        (fs.visited root).countP ((fs.runOver reader root a).atlas.upToDate fs) ∧
      (fs.runOver reader root a).report.failed =
        (fs.visited root).countP fun file ↦ !(fs.runOver reader root a).atlas.upToDate fs file := by
  obtain ⟨rooted, scanned, fine, failed⟩ :=
    Run.report_foldl_addFile reader fs ⟨a, { root := root.text }, []⟩ distinct
  simp only [Nat.zero_add] at scanned fine failed
  exact ⟨rooted, scanned, fine, failed⟩

/-- What a run reports if everything is as this one left it. -/
def Report.again (r : Report) : Report :=
  { r with indexed := 0, unchanged := r.indexed + r.unchanged }

private theorem FileSystem.runOver_again {reader other : FileReader} {fs fs' : FileSystem}
    {root : RawText} {a : Atlas} (distinct : ((fs.visited root).map RawText.text).Nodup)
    (visited : fs'.visited root = fs.visited root)
    (read : ∀ file ∈ fs.visited root, ∀ bytes,
      fs'.read file = .ok bytes ↔ fs.read file = .ok bytes)
    (settled : ∀ file ∈ fs.visited root,
      (fs.runOver reader root a).atlas.Settled other fs file) :
    (fs'.runOver other root (fs.runOver reader root a).atlas).atlas =
        (fs.runOver reader root a).atlas ∧
      (fs'.runOver other root (fs.runOver reader root a).atlas).report =
        (fs.runOver reader root a).report.again := by
  obtain ⟨rooted, scanned, fine, failed⟩ := fs.report_runOver reader root a distinct
  have still : ∀ file ∈ fs'.visited root,
      (fs.runOver reader root a).atlas.Settled other fs' file := by
    intro file mem
    rw [visited] at mem
    exact (Atlas.settled_congr (read file mem)).mpr (settled file mem)
  obtain ⟨atlas, report⟩ := Run.foldl_addFile_of_settled
    (r := ⟨(fs.runOver reader root a).atlas, { root := root.text }, []⟩) still
  have same : ∀ file ∈ fs.visited root,
      (fs.runOver reader root a).atlas.upToDate fs' file =
        (fs.runOver reader root a).atlas.upToDate fs file :=
    fun file mem ↦ Atlas.upToDate_congr (read file mem)
  refine ⟨atlas, report.trans ?_⟩
  rw [visited, Report.again, Report.mk.injEq]
  refine ⟨rooted.symm, (Nat.zero_add _).trans scanned.symm, rfl, ?_, ?_⟩
  · rw [fine, Nat.zero_add]
    exact List.countP_congr fun file mem ↦ by rw [same file mem]
  · rw [failed, Nat.zero_add]
    exact List.countP_congr fun file mem ↦ by rw [same file mem]

/-- Indexing a path again changes nothing, and if nothing failed the first time, the reader does not
matter. -/
theorem indexPath_again {reader : FileReader} {index path : RawText} {w w' : World}
    {root : RawText} {report : Report} (canonical : w.files.canonicalPath path = .ok root)
    (distinct : ((w.files.visited root).map RawText.text).Nodup)
    (ran : (indexPath reader index path).runOn w = (.ok report, w'))
    (apart : ∀ file ∈ w'.files.visited root, w'.files.canonicalPath index ≠ .ok file)
    {v : World} (same : v.files = w'.files) :
    (∃ v', (indexPath reader index path).runOn v = (.ok report.again, v') ∧
      v'.files = w'.files) ∧
    (report.failed = 0 → ∀ other, ∃ v',
      (indexPath other index path).runOn v = (.ok report.again, v') ∧ v'.files = w'.files) := by
  obtain ⟨root', a, prepared, place, canonical', stored, saves, rfl, files⟩ :=
    exists_of_indexPath ran
  cases canonical.symm.trans canonical'
  have held := (storedAtlas_of_indexPath canonical stored ran).2
  obtain ⟨-, -, -, failed⟩ := w.files.report_runOver reader root a distinct
  have kept := saves.kept (w.files.runOver reader root a).atlas.write.toUTF8
  have found := saves.find (w.files.runOver reader root a).atlas.write.toUTF8
  have saves' := saves.again (w.files.runOver reader root a).atlas.write.toUTF8
  rw [← files] at kept found saves'
  -- What is visited is not the index file.
  have elsewhere : ∀ file ∈ w'.files.visited root, file ≠ Path.ofNames place.1 := by
    rintro file mem rfl
    exact apart _ mem (FileSystem.canonicalPath_eq_ok_iff.mpr ⟨place, _, found, rfl⟩)
  obtain ⟨start, x, led, rfl⟩ := FileSystem.canonicalPath_eq_ok_iff.mp canonical
  have leads := FileSystem.find_ofNames_of_find led
  have visited := kept.visited leads fun mem ↦ elsewhere _ mem rfl
  have read : ∀ file ∈ w.files.visited (Path.ofNames start.1), ∀ bytes,
      w'.files.read file = .ok bytes ↔ w.files.read file = .ok bytes := fun file mem bytes ↦
    kept.read_visited leads mem (elsewhere file (visited ▸ mem)) bytes
  have again (other : FileReader)
      (settled : ∀ file ∈ w.files.visited (Path.ofNames start.1),
        (w.files.runOver reader (Path.ofNames start.1) a).atlas.Settled other w.files file) :
      ∃ v', (indexPath other index path).runOn v =
        (.ok (w.files.runOver reader (Path.ofNames start.1) a).report.again, v') ∧
        v'.files = w'.files := by
    obtain ⟨atlas, report⟩ := FileSystem.runOver_again distinct visited read settled
    rw [← same] at held saves' kept atlas report
    obtain ⟨events, ran'⟩ := indexPath_of_saves other (kept.canonicalPath canonical) held saves'
    rw [atlas, report] at ran'
    refine ⟨_, ran', ?_⟩
    simp only
    rw [same, files, FileSystem.putFile_putFile]
  constructor
  · apply again reader
    intro file mem
    exact Run.settled_foldl_addFile reader w.files _ distinct mem
  · intro none other
    apply again other
    intro file mem
    rw [none, eq_comm, List.countP_eq_zero] at failed
    have known := failed file mem
    rw [Bool.not_eq_true', Bool.not_eq_false] at known
    exact .inl known

/-! Two sources are indexed by a reader that can read the first one only, and then by one that can
read both. -/

namespace Repeated

open Sample

/-- The sources. -/
def files : FileSystem :=
  (FileSystem.empty.putFile firstPlace "int f() \x7b\x7d\n".toUTF8).putFile secondPlace
    "int g() \x7b\x7d\n".toUTF8

/-- The reader that can read both, and finds the same function in them. -/
def reader : FileReader := fun f ↦
  .ok (.mk .wholeFile f.path none 0 f.bytes.size [function "f" 0])

/-- The reader that can read the first one only. -/
def weakReader : FileReader := fun f ↦
  if f.path = "/a.c" then reader f else .error .noTree

/-- The sources can be indexed, and are visited again then, while the index file is beside them. -/
theorem exists_run (reader : FileReader) (report : Report)
    (reported : (files.runOver reader "/" .empty).report = report) :
    ∃ w', (indexPath reader "/i.json" "/").runOn ⟨files, []⟩ = (.ok report, w') ∧
      w'.files.visited "/" = [↑"/a.c", ↑"/b.c"] ∧
      w'.files.canonicalPath "/i.json" = .ok "/i.json" := by
  have canonical : files.canonicalPath "/" = .ok "/" := rfl
  have stored : files.storedAtlas "/i.json" = .ok .empty := rfl
  have located : files.locate "/i.json" true = .ok indexPlace := rfl
  have saves : files.Saves "/i.json" files indexPlace := .of_locate located (by decide) (.inl rfl)
  obtain ⟨events, ran⟩ := indexPath_of_saves (w := ⟨files, []⟩) reader canonical stored saves
  rw [reported] at ran
  exact ⟨_, ran, rfl, rfl⟩

private theorem distinct : ((files.visited "/").map RawText.text).Nodup := by decide +kernel

/-- Both runs are the same the second time, and the second one with any reader. -/
theorem indexPath_again_files :
    (∃ w' v', (indexPath weakReader "/i.json" "/").runOn ⟨files, []⟩ =
        (.ok { root := "/", scanned := 2, indexed := 1, failed := 1 }, w') ∧
      (indexPath weakReader "/i.json" "/").runOn w' =
        (.ok { root := "/", scanned := 2, unchanged := 1, failed := 1 }, v') ∧
      v'.files = w'.files) ∧
    ∃ w', (indexPath reader "/i.json" "/").runOn ⟨files, []⟩ =
        (.ok { root := "/", scanned := 2, indexed := 2 }, w') ∧
      ∀ other, ∃ v', (indexPath other "/i.json" "/").runOn w' =
        (.ok { root := "/", scanned := 2, unchanged := 2 }, v') ∧ v'.files = w'.files := by
  have canonical : files.canonicalPath "/" = .ok "/" := rfl
  constructor
  · obtain ⟨w', ran, visited, here⟩ := exists_run weakReader
      { root := "/", scanned := 2, indexed := 1, failed := 1 } rfl
    obtain ⟨v', again, same⟩ :=
      (indexPath_again canonical distinct ran (by rw [visited, here]; decide) rfl).1
    exact ⟨w', v', ran, again, same⟩
  · obtain ⟨w', ran, visited, here⟩ := exists_run reader
      { root := "/", scanned := 2, indexed := 2 } rfl
    exact ⟨w', ran,
      (indexPath_again canonical distinct ran (by rw [visited, here]; decide) rfl).2 rfl⟩

/-- Two sources that have one key. -/
def merged : FileSystem := aliases "int f() \x7b\x7d\nint g() \x7b\x7d\n" "int g() \x7b\x7d\n"

private theorem report_merged (fs : FileSystem) {a : Atlas}
    (visited : fs.visited "/" = [Path.ofNames firstAlias.1, Path.ofNames secondAlias.1])
    (there : fs.read (Path.ofNames firstAlias.1) = merged.read (Path.ofNames firstAlias.1))
    (there' : fs.read (Path.ofNames secondAlias.1) = merged.read (Path.ofNames secondAlias.1))
    (new : a.digest? "/x\uFFFD.c" ≠
      some (Sha256.hex "int f() \x7b\x7d\nint g() \x7b\x7d\n".toUTF8)) :
    (fs.runOver reader "/" a).report = { root := "/", scanned := 2, indexed := 2 } ∧
      (fs.runOver reader "/" a).atlas.digest? "/x\uFFFD.c" =
        some (Sha256.hex "int g() \x7b\x7d\n".toUTF8) := by
  rw [runOver_aliases fs visited there there' rfl rfl hex_ne new]
  exact ⟨rfl, (Atlas.digest?_replaceFile ..).trans (if_pos rfl)⟩

private theorem saves_merged : merged.Saves "/i.json" merged indexPlace := saves_aliases _ _

private theorem indexPath_withIndex_merged (a : Atlas) (events : List Event)
    (last : a.digest? "/x\uFFFD.c" = some (Sha256.hex "int g() \x7b\x7d\n".toUTF8)) :
    ∃ v', (indexPath reader "/i.json" "/").runOn ⟨withIndex merged a.write.toUTF8, events⟩ =
      (.ok { root := "/", scanned := 2, indexed := 2 }, v') := by
  have canonical : (withIndex merged a.write.toUTF8).canonicalPath "/" = .ok "/" := rfl
  obtain ⟨report, -⟩ := report_merged (withIndex merged a.write.toUTF8) (a := a) rfl rfl rfl
    fun same ↦ hex_ne (Option.some.inj (same.symm.trans last))
  obtain ⟨_, ran⟩ := indexPath_of_saves (w := ⟨withIndex merged a.write.toUTF8, events⟩) reader
    canonical (saves_merged.storedAtlas a) (saves_merged.again a.write.toUTF8)
  rw [report] at ran
  exact ⟨_, ran⟩

/-- Where two sources have one key, each replaces the other one, so that both are indexed again the
second time. -/
theorem indexPath_merged_twice : ∃ w' v',
    (indexPath reader "/i.json" "/").runOn ⟨merged, []⟩ =
      (.ok { root := "/", scanned := 2, indexed := 2 }, w') ∧
    w'.files.visited "/" = [Path.ofNames firstAlias.1, Path.ofNames secondAlias.1] ∧
    w'.files.canonicalPath "/i.json" = .ok "/i.json" ∧
    (indexPath reader "/i.json" "/").runOn w' =
      (.ok { root := "/", scanned := 2, indexed := 2 }, v') := by
  have canonical : merged.canonicalPath "/" = .ok "/" := rfl
  obtain ⟨report, last⟩ := report_merged merged (a := .empty) rfl rfl rfl nofun
  obtain ⟨events, ran⟩ :=
    indexPath_of_saves (w := ⟨merged, []⟩) reader canonical rfl saves_merged
  obtain ⟨v', ran'⟩ := indexPath_withIndex_merged _ events last
  rw [report] at ran
  exact ⟨_, v', ran, rfl, rfl, ran'⟩

end Repeated

end BuiltinAtlas
