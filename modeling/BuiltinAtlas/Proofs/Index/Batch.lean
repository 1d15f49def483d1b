import BuiltinAtlas.Proofs.Index.Rerun

/-!
# Indexing files one by one

Indexing a directory keeps one atlas in memory and saves it at the end; indexing the files below it
one by one loads and saves the index around each of them. Both leave the same files behind, and the
report of the first sums up those of the second (`indexPaths_sources`). `Saves.indexPath_file` is
one step of the second way, and the rest is by induction on the files.
-/

namespace BuiltinAtlas

/-- The counts of two reports, under the root of the first one. -/
def Report.add (r s : Report) : Report where
  root := r.root
  scanned := r.scanned + s.scanned
  indexed := r.indexed + s.indexed
  unchanged := r.unchanged + s.unchanged
  failed := r.failed + s.failed

/-- The counts of several reports, under a root. -/
def Report.total (root : RawText) (reports : List Report) : Report where
  root := root.text
  scanned := (reports.map (·.scanned)).sum
  indexed := (reports.map (·.indexed)).sum
  unchanged := (reports.map (·.unchanged)).sum
  failed := (reports.map (·.failed)).sum

private theorem Report.foldl_add (r : Report) (reports : List Report) :
    reports.foldl Report.add r = r.add (.total r.root reports) := by
  induction reports generalizing r with
  | nil => rfl
  | cons s reports ih =>
    rw [List.foldl_cons, ih]
    simp [add, total, Nat.add_assoc]

private theorem Run.addFile_eq_add (reader : FileReader) (fs : FileSystem) (r : Run)
    (path : RawText) :
    (r.addFile reader fs path).atlas =
        (addFile reader fs ⟨r.atlas, { root := path.text }, []⟩ path).atlas ∧
      (r.addFile reader fs path).report =
        r.report.add (addFile reader fs ⟨r.atlas, { root := path.text }, []⟩ path).report := by
  rcases addFile_cases reader fs r path with
    ⟨known, counted⟩ | ⟨bytes, c, known, there, readable, indexed⟩ | ⟨_, known, no, failed⟩
  · rw [counted, addFile_of_upToDate (r := ⟨r.atlas, { root := path.text }, []⟩) known]
    exact ⟨rfl, rfl⟩
  · rw [indexed,
      addFile_of_readable (r := ⟨r.atlas, { root := path.text }, []⟩) known there readable]
    exact ⟨rfl, rfl⟩
  · obtain ⟨_, failed'⟩ :=
      addFile_of_not_offers (r := ⟨r.atlas, { root := path.text }, []⟩) known no
    rw [failed, failed']
    exact ⟨rfl, rfl⟩

namespace FileSystem

variable {fs fs' prepared : FileSystem} {place : ValidPlace} {index file : RawText}

/-- A path is the canonical one of a file elsewhere. -/
def Beside (fs : FileSystem) (place : ValidPlace) (file : RawText) : Prop :=
  ∃ (other : ValidPlace) (content : ByteArray), file = Path.ofNames other.1 ∧
    other.1 ≠ place.1 ∧ fs.find file = .ok (other, .file content)

/-- The canonical path of a file is its canonical path. -/
theorem Beside.canonicalPath (h : fs.Beside place file) : fs.canonicalPath file = .ok file := by
  obtain ⟨other, content, same, -, found⟩ := h
  exact canonicalPath_eq_ok_iff.mpr ⟨other, _, found, same⟩

/-- Indexing a file visits the file. -/
theorem Beside.visited (h : fs.Beside place file) : fs.visited file = [file] := by
  obtain ⟨other, content, -, -, found⟩ := h
  exact visited_of_find_file found

/-- A file elsewhere stays, with its content. -/
theorem Beside.of_kept (h : fs.Beside place file) (kept : fs.Kept place.1 fs') :
    fs'.Beside place file ∧ fs'.read file = fs.read file := by
  obtain ⟨other, content, same, elsewhere, found⟩ := h
  have found' := kept.find_file found elsewhere
  exact ⟨⟨other, content, same, elsewhere, found'⟩,
    (read_of_find found').trans (read_of_find found).symm⟩

/-- A source below a directory lies beside the index file, unless it is the index file. -/
theorem Saves.beside {start : ValidPlace} {es : List (RawText × Entry)} {content : ByteArray}
    (saves : fs.Saves index prepared place)
    (found : fs.find (Path.ofNames start.1) = .ok (start, .directory es))
    (mem : file ∈ fs.sources (Path.ofNames start.1))
    (apart : (prepared.putFile place content).canonicalPath index ≠ .ok file) :
    fs.Beside place file := by
  obtain ⟨other, before, same, there⟩ := exists_find_of_mem_sources found mem
  refine ⟨other, before, same, ?_, there⟩
  intro here
  apply apart
  rw [same, here]
  exact canonicalPath_eq_ok_iff.mpr ⟨place, _, saves.find content, rfl⟩

end FileSystem

variable {reader : FileReader} {index path root : RawText} {fs prepared : FileSystem}
  {place : ValidPlace} {v w w' : World} {r : Run}

private theorem indexPaths_cons_of_error {first : RawText} {f : Failure}
    (ran : (indexPath reader index first).runOn w = (.error f, w')) (rest : List RawText) :
    (indexPaths reader index (first :: rest)).runOn w = (.error f, w') := by
  rw [indexPaths, Job.runOn_mapM_cons, ran]

/-- If the first file can be indexed, the others follow. -/
theorem indexPaths_cons_of_ok {first : RawText} {rest : List RawText} {report : Report}
    {reports : List Report} (ran : (indexPath reader index first).runOn v = (.ok report, w))
    (later : (indexPaths reader index rest).runOn w = (.ok reports, w')) :
    (indexPaths reader index (first :: rest)).runOn v = (.ok (report :: reports), w') := by
  rw [indexPaths, Job.runOn_mapM_cons, ran]
  simp only
  rw [← indexPaths, later]

private theorem FileSystem.Saves.indexPath_file {file : RawText} (reader : FileReader)
    (saves : v.files.Saves index prepared place) (beside : fs.Beside place file)
    (kept : fs.Kept place.1 v.files) (stored : v.files.storedAtlas index = .ok r.atlas) :
    ∃ report v', (indexPath reader index file).runOn v = (.ok report, v') ∧
      v'.files = prepared.putFile place (r.addFile reader fs file).atlas.write.toUTF8 ∧
      (r.addFile reader fs file).report = r.report.add report := by
  obtain ⟨beside', read⟩ := beside.of_kept kept
  obtain ⟨events, ran⟩ := indexPath_of_saves reader beside'.canonicalPath stored saves
  have once : v.files.runOver reader file r.atlas =
      Run.addFile reader fs ⟨r.atlas, { root := file.text }, []⟩ file := by
    rw [FileSystem.runOver, beside'.visited, List.foldl_cons, List.foldl_nil, Run.addFile,
      Run.addFile, read]
  obtain ⟨atlas, report⟩ := r.addFile_eq_add reader fs file
  rw [once, ← atlas] at ran
  exact ⟨_, _, ran, rfl, report⟩

private theorem FileSystem.Saves.indexPaths_files (reader : FileReader)
    (saves : fs.Saves index prepared place) (files : List RawText)
    (beside : ∀ file ∈ files, fs.Beside place file)
    (held : v.files = prepared.putFile place r.atlas.write.toUTF8) :
    ∃ reports v', (indexPaths reader index files).runOn v = (.ok reports, v') ∧
      v'.files =
        prepared.putFile place (files.foldl (Run.addFile reader fs) r).atlas.write.toUTF8 ∧
      (files.foldl (Run.addFile reader fs) r).report = reports.foldl Report.add r.report := by
  induction files generalizing v r with
  | nil => exact ⟨[], v, Job.runOn_mapM_nil _ v, held, rfl⟩
  | cons file files ih =>
    have again := saves.again r.atlas.write.toUTF8
    have kept := saves.kept r.atlas.write.toUTF8
    have stored := saves.storedAtlas r.atlas
    rw [← held] at again kept stored
    obtain ⟨report, v₁, ran, held₁, counted⟩ :=
      again.indexPath_file reader (beside file List.mem_cons_self) kept stored
    rw [held, FileSystem.putFile_putFile] at held₁
    obtain ⟨reports, v₂, rest, held₂, counted₂⟩ :=
      ih (fun other mem ↦ beside other (List.mem_cons_of_mem _ mem)) held₁
    refine ⟨report :: reports, v₂, indexPaths_cons_of_ok ran rest, held₂, ?_⟩
    rw [List.foldl_cons, List.foldl_cons, ← counted]
    exact counted₂

private theorem FileSystem.Saves.indexPaths_cons (reader : FileReader) {first : RawText}
    {rest : List RawText} (saves : w.files.Saves index prepared place)
    (beside : ∀ file ∈ first :: rest, w.files.Beside place file)
    (stored : w.files.storedAtlas index = .ok r.atlas) :
    ∃ reports w', (indexPaths reader index (first :: rest)).runOn w = (.ok reports, w') ∧
      w'.files = prepared.putFile place
        ((first :: rest).foldl (Run.addFile reader w.files) r).atlas.write.toUTF8 ∧
      ((first :: rest).foldl (Run.addFile reader w.files) r).report =
        reports.foldl Report.add r.report := by
  obtain ⟨report, w₁, ran₁, held₁, counted₁⟩ :=
    saves.indexPath_file reader (beside first List.mem_cons_self) (.refl _ _) stored
  obtain ⟨reports, w₂, ran₂, held₂, counted₂⟩ := saves.indexPaths_files reader rest
    (fun file mem ↦ beside file (List.mem_cons_of_mem _ mem)) held₁
  refine ⟨report :: reports, w₂, indexPaths_cons_of_ok ran₁ ran₂, held₂, ?_⟩
  rw [List.foldl_cons, List.foldl_cons, ← counted₁]
  exact counted₂

/-- Indexing the sources below a directory one by one does to the files what indexing the directory
does to them, and gives the same counts in total; if the one fails, then the other fails for the
same reason. -/
theorem indexPaths_sources {result : Except Failure Report}
    (canonical : w.files.canonicalPath path = .ok root)
    (directory : w.files.isDirectory root = true) (some : w.files.sources root ≠ [])
    (ran : (indexPath reader index path).runOn w = (result, w'))
    (apart : ∀ file ∈ w.files.sources root, w'.files.canonicalPath index ≠ .ok file) :
    ∃ results w'', (indexPaths reader index (w.files.sources root)).runOn w = (results, w'') ∧
      w''.files = w'.files ∧ result = results.map (.total root) := by
  obtain ⟨start, x, led, rfl⟩ := FileSystem.canonicalPath_eq_ok_iff.mp canonical
  have leads := FileSystem.find_ofNames_of_find led
  obtain ⟨dir, es, leads'⟩ := FileSystem.isDirectory_iff.mp directory
  cases leads.symm.trans leads'
  obtain ⟨first, rest, files⟩ := List.exists_cons_of_ne_nil some
  have listed : ∀ file ∈ first :: rest, file ∈ w.files.sources (Path.ofNames start.1) :=
    fun file mem ↦ files ▸ mem
  have canonical₁ : w.files.canonicalPath first = .ok first := by
    obtain ⟨other, content, same, found⟩ :=
      FileSystem.exists_find_of_mem_sources leads (listed first List.mem_cons_self)
    exact FileSystem.canonicalPath_eq_ok_iff.mpr ⟨other, _, found, same⟩
  rw [files]
  cases stored : w.files.storedAtlas index with
  | error f =>
    have ran₁ := indexPath_of_storedAtlas_error reader canonical₁ stored
    cases ran.symm.trans (indexPath_of_storedAtlas_error reader canonical stored)
    exact ⟨.error f, w, indexPaths_cons_of_error ran₁ rest, rfl, rfl⟩
  | ok a =>
    rcases w.files.saves_or_fails index with ⟨prepared, place, saves⟩ | ⟨f, failed, fails⟩
    · obtain ⟨events, whole⟩ := indexPath_of_saves reader canonical stored saves
      cases ran.symm.trans whole
      have beside : ∀ file ∈ first :: rest, w.files.Beside place file :=
        fun file mem ↦ saves.beside leads (listed file mem) (apart file (listed file mem))
      have run : w.files.runOver reader (Path.ofNames start.1) a =
          (first :: rest).foldl (Run.addFile reader w.files)
            ⟨a, { root := (Path.ofNames start.1).text }, []⟩ := by
        rw [FileSystem.runOver, FileSystem.visited, if_pos directory, files]
      obtain ⟨reports, w₂, ran₂, held, counted⟩ := saves.indexPaths_cons reader
        (r := ⟨a, { root := (Path.ofNames start.1).text }, []⟩) beside stored
      refine ⟨.ok reports, w₂, ran₂, ?_, ?_⟩
      · rw [held, run]
      · rw [run, counted, Report.foldl_add]
        simp [Except.map, Report.add, Report.total]
    · obtain ⟨events, whole⟩ := indexPath_of_fails reader canonical stored fails
      obtain ⟨events₁, ran₁⟩ := indexPath_of_fails reader canonical₁ stored fails
      cases ran.symm.trans whole
      exact ⟨.error f, _, indexPaths_cons_of_error ran₁ rest, rfl, rfl⟩

namespace Repeated

/-- Indexing the two sources one by one, of which only the first one can be read, does the same as
indexing both. -/
theorem indexPaths_sources_files : ∃ w' w'' reports,
    (indexPath weakReader "/i.json" "/").runOn ⟨files, []⟩ =
      (.ok { root := "/", scanned := 2, indexed := 1, failed := 1 }, w') ∧
    (indexPaths weakReader "/i.json" [↑"/a.c", ↑"/b.c"]).runOn ⟨files, []⟩ = (.ok reports, w'') ∧
    w''.files = w'.files ∧
    Report.total "/" reports = { root := "/", scanned := 2, indexed := 1, failed := 1 } := by
  obtain ⟨w', ran, -, here⟩ := exists_run weakReader
    { root := "/", scanned := 2, indexed := 1, failed := 1 } rfl
  have canonical : files.canonicalPath "/" = .ok "/" := rfl
  have directory : files.isDirectory "/" = true := rfl
  have sources : files.sources "/" = [↑"/a.c", ↑"/b.c"] := rfl
  have apart : ∀ file ∈ files.sources "/", w'.files.canonicalPath "/i.json" ≠ .ok file := by
    rw [here]
    decide
  obtain ⟨results, w'', ran', same, counted⟩ := indexPaths_sources (w := ⟨files, []⟩) canonical
    directory (by rw [sources]; nofun) ran apart
  rw [sources] at ran'
  cases results with
  | error f => cases counted
  | ok reports => exact ⟨w', w'', reports, ran, ran', same, (Except.ok.inj counted).symm⟩

end Repeated

end BuiltinAtlas
