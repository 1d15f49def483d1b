import BuiltinAtlas.Proofs.Files.Canonical
import BuiltinAtlas.Proofs.Files.Creation
import BuiltinAtlas.Proofs.Index.Intake
import BuiltinAtlas.Proofs.Index.Rerun
import BuiltinAtlas.Proofs.Text.Raw

/-!
# Files that fail

Indexing a directory leaves alone what is known of the sources that fail, and what it makes of the
others is the same as if those that fail were not there (`indexPath_failing`). A file fails if it is
not up to date and cannot be read, which does not depend on what was taken in before under other
keys. So a run goes over the same files one after the other, with those that fail or without, and
the files that it writes to are the same.
-/

namespace BuiltinAtlas

namespace FileSystem

/-- A file fails if it is not up to date and cannot be read. -/
def fails (fs : FileSystem) (reader : FileReader) (a : Atlas) (path : RawText) : Bool :=
  !a.upToDate fs path && (fs.readable? reader path).isNone

/-- The sources of a directory that fail. -/
def failing (fs : FileSystem) (reader : FileReader) (a : Atlas) (root : RawText) : List RawText :=
  (fs.sources root).filter (fs.fails reader a)

variable {fs fs' : FileSystem} {reader : FileReader} {a : Atlas} {path : RawText}

/-- What fails is not up to date, and not offered. -/
theorem fails_iff : fs.fails reader a path = true ↔
    a.upToDate fs path = false ∧ ¬ ∃ bytes, fs.Offers reader ⟨path, bytes⟩ := by
  rw [fails, Bool.and_eq_true, Bool.not_eq_true', Option.isNone_iff_eq_none]
  apply and_congr_right
  intro _
  constructor
  · rintro none ⟨bytes, offers⟩
    rw [readable?_eq_some_iff.mpr ⟨rfl, offers⟩] at none
    cases none
  · intro no
    apply Option.eq_none_iff_forall_ne_some.mpr
    intro f readable
    obtain ⟨rfl, offers⟩ := readable?_eq_some_iff.mp readable
    exact no ⟨f.bytes, offers⟩

private theorem news?_of_fails (h : fs.fails reader a path = true) :
    fs.news? reader a path = none := by
  apply Option.eq_none_iff_forall_ne_some.mpr
  intro f new
  obtain ⟨rfl, offers, -⟩ := news?_eq_some_iff.mp new
  exact (fails_iff.mp h).2 ⟨f.bytes, offers⟩

private theorem news_filter (fs : FileSystem) (reader : FileReader) (a : Atlas) (root : RawText) :
    fs.news reader a ((fs.sources root).filter (· ∉ fs.failing reader a root)) =
      fs.news reader a (fs.sources root) := by
  rw [news, news, List.filterMap_filter]
  apply List.filterMap_congr
  intro path mem
  by_cases fails : path ∈ fs.failing reader a root
  · rw [if_neg (by simpa using fails), news?_of_fails (List.mem_filter.mp fails).2]
  · rw [if_pos (by simpa using fails)]

private theorem upToDate_runOver {root : RawText}
    (distinct : ((fs.visited root).map RawText.text).Nodup) (mem : path ∈ fs.visited root) :
    (fs.runOver reader root a).atlas.upToDate fs path = !fs.fails reader a path := by
  have last : (fs.runOver reader root a).atlas.upToDate fs path = true ↔
      a.upToDate fs path = true ∨ ∃ bytes, fs.Offers reader ⟨path, bytes⟩ :=
    Run.upToDate_foldl_addFile_iff distinct mem
  rw [Bool.eq_iff_iff, last, Bool.not_eq_true', ← Bool.not_eq_true, fails_iff, not_and_or,
    Bool.not_eq_false, not_not]

private theorem report_runOver_directory {root : RawText} (directory : fs.isDirectory root = true)
    (distinct : ((fs.sources root).map RawText.text).Nodup) (reader : FileReader) (a : Atlas) :
    (fs.runOver reader root a).report.scanned =
        (fs.runOver reader root a).report.indexed + (fs.runOver reader root a).report.unchanged +
          (fs.runOver reader root a).report.failed ∧
      (fs.runOver reader root a).report.scanned = (fs.sources root).length ∧
      (fs.runOver reader root a).report.failed = (fs.failing reader a root).length := by
  have visited : fs.visited root = fs.sources root := if_pos directory
  obtain ⟨-, scanned, fine, failed⟩ := fs.report_runOver reader root a (visited ▸ distinct)
  have all := (fs.visited root).length_eq_countP_add_countP
    ((fs.runOver reader root a).atlas.upToDate fs)
  simp only [Bool.not_eq_true, Bool.decide_eq_false] at all
  refine ⟨by omega, visited ▸ scanned, ?_⟩
  rw [failed, failing, ← List.countP_eq_length_filter, visited]
  apply List.countP_congr
  intro path mem
  rw [upToDate_runOver (visited ▸ distinct) (visited ▸ mem), Bool.not_not]

namespace Without

variable {gone : List RawText} {index : RawText}

/-- The directory around an index file is prepared in both. -/
theorem prepareAround (h : fs.Without gone fs') {made : FileSystem}
    (prepared : fs.prepareAround index = (.ok (), made)) :
    ∃ made', fs'.prepareAround index = (.ok (), made') ∧ made.Without gone made' := by
  rw [FileSystem.prepareAround] at prepared ⊢
  cases parent : Path.parent? index with
  | none =>
    rw [parent] at prepared
    cases prepared
    exact ⟨fs', rfl, h⟩
  | some around =>
    simp only [parent] at prepared ⊢
    by_cases empty : around.isEmpty = true
    · rw [if_pos empty] at prepared
      cases prepared
      exact ⟨fs', if_pos empty, h⟩
    · rw [if_neg empty] at prepared
      rw [if_neg empty]
      split at prepared
      · next created =>
        cases prepared
        have trimmed := Path.trimSlashes_of_mem_withParents (around.size + 1)
          (Path.trimSlashes_of_parent? parent)
        obtain ⟨made', created', lacks⟩ := h.createDirectories trimmed created
        exact ⟨made', by rw [createDirectoryAll, created'], lacks⟩
      · cases prepared

/-- An index can be saved in both, at one place. -/
theorem saves (h : fs.Without gone fs') {prepared : FileSystem} {place : ValidPlace}
    (saves : fs.Saves index prepared place) :
    ∃ prepared', fs'.Saves index prepared' place := by
  obtain ⟨prepared', made, lacks⟩ := h.prepareAround saves.prepare
  refine ⟨prepared', made, lacks.locate_eq_ok_iff.mpr saves.located, saves.noSlash, ?_⟩
  have here := lacks.root place
  rcases saves.free with nothing | ⟨before, there⟩
  · exact .inl (lacks.at?_eq_none nothing)
  · rw [there] at here
    rcases here.file with stays | lost
    · exact .inr ⟨before, stays⟩
    · exact .inl lost

/-- An index file that is not gone holds the same. -/
theorem storedAtlas (h : fs.Without gone fs')
    (stays : ∀ path ∈ gone, fs.canonicalPath index ≠ .ok path) :
    fs'.storedAtlas index = fs.storedAtlas index := by
  by_cases file : fs.isFile index = true
  · obtain ⟨place, content, found⟩ := isFile_iff.mp file
    have here : Path.ofNames place.1 ∉ gone := fun mem ↦
      stays _ mem (canonicalPath_eq_ok_iff.mpr ⟨place, _, found, rfl⟩)
    exact storedAtlas_of_find_eq (h.find_file_iff.mpr ⟨found, here⟩) found
  · have noFile : ¬ fs'.isFile index = true := by
      intro file'
      obtain ⟨place, content, found'⟩ := isFile_iff.mp file'
      exact file (isFile_iff.mpr ⟨place, content, (h.find_file_iff.mp found').1⟩)
    rw [FileSystem.storedAtlas, FileSystem.storedAtlas, if_neg file, if_neg noFile]

/-- Without the sources that fail, a run over a directory makes the same of an atlas. -/
theorem atlas_runOver {root : ValidPlace} {es : List (RawText × Entry)}
    (h : fs.Without (fs.failing reader a (Path.ofNames root.1)) fs')
    (found : fs.find (Path.ofNames root.1) = .ok (root, .directory es))
    (distinct : ((fs.sources (Path.ofNames root.1)).map RawText.text).Nodup) :
    (fs'.runOver reader (Path.ofNames root.1) a).atlas =
      (fs.runOver reader (Path.ofNames root.1) a).atlas := by
  obtain ⟨es', found'⟩ := h.find_directory found
  have sublist := (List.filter_sublist (p := (· ∉ fs.failing reader a (Path.ofNames root.1)))
    (l := fs.sources (Path.ofNames root.1))).map RawText.text
  rw [atlas_runOver_directory reader found distinct,
    atlas_runOver_directory reader found' (h.sources found ▸ distinct.sublist sublist),
    h.sources found, ← fs.news_filter]
  congr 1
  apply List.filterMap_congr
  intro path mem
  obtain ⟨mem, stays⟩ := List.mem_filter.mp mem
  obtain ⟨place, content, rfl, there⟩ := exists_find_of_mem_sources found mem
  have there' := h.find_file_iff.mpr ⟨there, of_decide_eq_true stays⟩
  rw [news?, news?, readable?, readable?, read_of_find there, read_of_find there']

end Without

end FileSystem

/-- What an atlas still knows of a file when other files were taken in. -/
structure Atlas.Keeps (reader : FileReader) (files : List FileVersion) (key : String)
    (a a' : Atlas) : Prop where
  elsewhere : ∀ f ∈ files, f.key ≠ key
  digest? : a'.digest? key = a.digest? key
  types (name : String) (e : TypeEntry) : e.path = key →
    (a'.types.find? name = some e ↔ a.types.find? name = some e ∧
      ∀ f ∈ files, (reader.findings f).types.contains name = false)
  modules (name : String) (e : ModuleEntry) : e.path = key →
    (a'.modules.find? name = some e ↔ a.modules.find? name = some e ∧
      ∀ f ∈ files, (reader.findings f).modules.contains name = false)
  functions (name : String) (e : Excerpt) : e.path = key →
    (a'.functions.find? name = some e ↔ a.functions.find? name = some e ∧
      ∀ f ∈ files, (reader.findings f).functions.contains name = false)
  /-- A table that is not replaced stays unless it belongs to a file when that is taken in. -/
  tables (name : String) (table : MethodTable) :
    (∀ f ∈ files, (reader.findings f).tables.contains name = false) →
    (a'.tables.find? name = some table ↔ a.tables.find? name = some table ∧
      ∀ before f after, files = before ++ f :: after →
        (a.takeAll reader before).tableBelongsTo f.key table = false)

private theorem Atlas.keeps_takeAll {reader : FileReader} {files : List FileVersion} {key : String}
    (a : Atlas) (distinct : (files.map (·.key)).Nodup) (elsewhere : ∀ f ∈ files, f.key ≠ key) :
    Keeps reader files key a (a.takeAll reader files) := by
  have notMem : key ∉ files.map (·.key) := by
    rw [List.mem_map]
    rintro ⟨f, mem, same⟩
    exact elsewhere f mem same
  refine ⟨elsewhere, ?_, ?_, ?_, ?_, ?_⟩
  · have nothing : files.find? (·.key == key) = none := by
      rw [List.find?_eq_none]
      exact fun f mem same ↦ elsewhere f mem (eq_of_beq same)
    rw [digest?_takeAll distinct, nothing]
    rfl
  · rintro name e rfl
    exact Part.types.find?_takeAll_eq_some_iff distinct notMem
  · rintro name e rfl
    exact Part.modules.find?_takeAll_eq_some_iff distinct notMem
  · rintro name e rfl
    exact Part.functions.find?_takeAll_eq_some_iff distinct notMem
  · exact fun name table absent ↦ find?_tables_takeAll_eq_some_iff absent

/-- Indexing a directory counts the sources that fail, keeps what is known of them but for what
other sources replace or drop, and makes the same of the index as if they were not there. -/
theorem indexPath_failing {reader : FileReader} {index path root : RawText} {w w' : World}
    {a : Atlas} {report : Report} (canonical : w.files.canonicalPath path = .ok root)
    (directory : w.files.isDirectory root = true)
    (distinct : ((w.files.sources root).map RawText.text).Nodup)
    (stored : w.files.storedAtlas index = .ok a)
    (ran : (indexPath reader index path).runOn w = (.ok report, w')) :
    (report.scanned = report.indexed + report.unchanged + report.failed ∧
      report.scanned = (w.files.sources root).length ∧
      report.failed = (w.files.failing reader a root).length) ∧
    ∃ a', w'.files.storedAtlas index = .ok a' ∧
      (∀ file ∈ w.files.failing reader a root,
        a.Keeps reader (w.files.news reader a (w.files.sources root)) file.text a') ∧
      (∃ fs, w.files.Without (w.files.failing reader a root) fs ∧
        ((∀ file ∈ w.files.failing reader a root, w.files.canonicalPath index ≠ .ok file) →
          fs.storedAtlas index = .ok a)) ∧
      ∀ v : World, w.files.Without (w.files.failing reader a root) v.files →
        v.files.storedAtlas index = .ok a →
        ∃ report' v', (indexPath reader index path).runOn v = (.ok report', v') ∧
          v'.files.storedAtlas index = .ok a' := by
  obtain ⟨place, es, rfl, led, leads⟩ :=
    FileSystem.exists_find_of_canonicalPath canonical directory
  obtain ⟨reported, held⟩ := storedAtlas_of_indexPath canonical stored ran
  obtain ⟨root', a'', prepared, indexPlace, -, -, saves, -, -⟩ := exists_of_indexPath ran
  refine ⟨?_, _, held, ?_, ?_, ?_⟩
  · rw [reported]
    exact FileSystem.report_runOver_directory directory distinct reader a
  · intro file mem
    rw [FileSystem.atlas_runOver_directory reader leads distinct]
    refine a.keeps_takeAll (w.files.nodup_news reader a distinct) fun f new same ↦ ?_
    obtain ⟨listed, fails⟩ := List.mem_filter.mp mem
    obtain ⟨there, offers, -⟩ := FileSystem.mem_news_iff.mp new
    obtain rfl : f.path = file := List.inj_on_of_nodup_map distinct there listed same
    exact (FileSystem.fails_iff.mp fails).2 ⟨f.bytes, offers⟩
  · have there : ∀ file ∈ w.files.failing reader a (Path.ofNames place.1),
        ∃ other content, file = Path.ofNames other.1 ∧
          w.files.find file = .ok (other, .file content) := fun file mem ↦
      FileSystem.exists_find_of_mem_sources leads (List.mem_filter.mp mem).1
    obtain ⟨fs, gone⟩ :=
      FileSystem.exists_without ((FileSystem.nodup_sources leads).filter _) there
    exact ⟨fs, gone, fun stays ↦ (gone.storedAtlas stays).trans stored⟩
  · intro v gone stored'
    obtain ⟨es', led'⟩ := gone.find_directory led
    have canonical' : v.files.canonicalPath path = .ok (Path.ofNames place.1) :=
      FileSystem.canonicalPath_eq_ok_iff.mpr ⟨place, _, led', rfl⟩
    obtain ⟨prepared', saves'⟩ := gone.saves saves
    obtain ⟨events, ran'⟩ := indexPath_of_saves reader canonical' stored' saves'
    refine ⟨_, _, ran', ?_⟩
    rw [(storedAtlas_of_indexPath canonical' stored' ran').2, gone.atlas_runOver leads distinct]

/-! A source of which two functions and a table are known cannot be read any more. Another one is
new, and defines one of these functions. It drops a table that lists what it defined before. -/

namespace Spared

open Sample

/-- The atlas before. -/
def known : Atlas where
  tables := .ofList [("T", .ofList [("h", "h")]), ("U", .ofList [("g", "g")])]
  functions := .ofList [("f", ⟨"int f() \x7b\x7d", "/a.c"⟩), ("g", ⟨"int g() \x7b\x7d", "/b.c"⟩),
    ("h", ⟨"int h() \x7b\x7d", "/a.c"⟩)]
  digests := .ofList [("/a.c", "earlier")]

/-- The source that is new. -/
def source : FileVersion := ⟨"/b.c", "int f() \x7b\x7d\n".toUTF8⟩

/-- The reader that can read it, and nothing else. -/
def reader : FileReader := fun f ↦
  if f.path = "/a.c" then .error (.tooManyFaults 1 0)
  else Sample.reader [(source, [function "f" 0])] f

/-- The sources, and the index file. -/
def files : FileSystem :=
  withIndex ((FileSystem.empty.putFile firstPlace "int h() \x7b\n".toUTF8).putFile secondPlace
    source.bytes) known.write.toUTF8

private theorem upToDate_known : known.upToDate files "/a.c" = false := by
  refine Atlas.upToDate_eq_false rfl fun same ↦ ?_
  have earlier : "earlier" = Sha256.hex _ := Option.some.inj same
  have length := Sha256.length_hex "int h() \x7b\n".toUTF8
  rw [← earlier] at length
  exact absurd length (by decide)

private theorem not_offers_known : ¬ ∃ bytes, files.Offers reader ⟨"/a.c", bytes⟩ := by
  rintro ⟨bytes, there, c, readable⟩
  cases readable

private theorem runOver_of_not_offers {reader : FileReader} {fs : FileSystem} {a : Atlas}
    {first second : RawText} (visited : fs.visited "/" = [first, second])
    (new : a.upToDate fs first = false) (no : ¬ ∃ bytes, fs.Offers reader ⟨first, bytes⟩) :
    ∃ reason, fs.runOver reader "/" a = Run.addFile reader fs
      ⟨a, { root := "/", scanned := 1, failed := 1 }, [reason]⟩ second := by
  obtain ⟨reason, failed⟩ :=
    Run.addFile_of_not_offers (r := ⟨a, { root := RawText.text "/" }, []⟩) new no
  refine ⟨reason, ?_⟩
  rw [FileSystem.runOver, visited, List.foldl_cons, List.foldl_cons, List.foldl_nil, failed]
  rfl

private theorem report_known : (files.runOver reader "/" known).report =
    { root := "/", scanned := 2, indexed := 1, failed := 1 } := by
  have visited : files.visited "/" = [↑"/a.c", ↑"/b.c"] := rfl
  have there : files.read "/b.c" = .ok source.bytes := rfl
  obtain ⟨reason, failed⟩ := runOver_of_not_offers visited upToDate_known not_offers_known
  rw [failed, Run.addFile_of_readable rfl there rfl]

private theorem failing_known : files.failing reader known "/" = [↑"/a.c"] := by
  have sources : files.sources "/" = [↑"/a.c", ↑"/b.c"] := rfl
  have fails : files.fails reader known "/a.c" = true :=
    FileSystem.fails_iff.mpr ⟨upToDate_known, not_offers_known⟩
  have offered : ¬ files.fails reader known "/b.c" = true := Bool.false_ne_true
  rw [FileSystem.failing, sources, List.filter_cons_of_pos fails, List.filter_cons_of_neg offered,
    List.filter_nil]

/-- What is known of the source that fails is kept, but for what the other one replaces, and the run
stores the same without it. -/
theorem indexPath_failing_files : ∃ w' a' v v' report',
    (indexPath reader "/i.json" "/").runOn ⟨files, []⟩ =
      (.ok { root := "/", scanned := 2, indexed := 1, failed := 1 }, w') ∧
    w'.files.storedAtlas "/i.json" = .ok a' ∧ a'.digest? "/a.c" = some "earlier" ∧
    a'.functions.find? "f" ≠ some ⟨"int f() \x7b\x7d", "/a.c"⟩ ∧
    a'.functions.find? "h" = some ⟨"int h() \x7b\x7d", "/a.c"⟩ ∧
    a'.tables.find? "T" = some (.ofList [("h", "h")]) ∧
    a'.tables.find? "U" ≠ some (.ofList [("g", "g")]) ∧
    files.Without [↑"/a.c"] v.files ∧
    (indexPath reader "/i.json" "/").runOn v = (.ok report', v') ∧
    v'.files.storedAtlas "/i.json" = .ok a' := by
  have canonical : files.canonicalPath "/" = .ok "/" := rfl
  have distinct : ((files.sources "/").map RawText.text).Nodup := by decide +kernel
  have found : files.find "/i.json" = .ok (indexPlace, .file known.write.toUTF8) := rfl
  have stored : files.storedAtlas "/i.json" = .ok known := by
    rw [FileSystem.storedAtlas, if_pos (FileSystem.isFile_iff.mpr ⟨_, _, found⟩),
      FileSystem.readAtlas_of_find found]
  have located : files.locate "/i.json" true = .ok indexPlace := rfl
  have saves : files.Saves "/i.json" files indexPlace :=
    .of_locate located (by decide) (.inr ⟨_, rfl⟩)
  obtain ⟨events, ran⟩ := indexPath_of_saves (w := ⟨files, []⟩) reader canonical stored saves
  rw [report_known] at ran
  obtain ⟨-, a', held, keeps, ⟨fs, gone, same⟩, again⟩ :=
    indexPath_failing (w := ⟨files, []⟩) canonical rfl distinct stored ran
  have news : files.news reader known (files.sources "/") = [source] := rfl
  rw [failing_known] at keeps gone same again
  rw [news] at keeps
  have apart : files.canonicalPath "/i.json" ≠ .ok "/a.c" := by
    have index : files.canonicalPath "/i.json" = .ok "/i.json" := rfl
    rw [index]
    decide
  obtain ⟨report', v', ran', held'⟩ := again ⟨fs, []⟩ gone (same (by simpa using apart))
  have kept : known.Keeps reader [source] "/a.c" a' :=
    RawText.text_ofText "/a.c" ▸ keeps "/a.c" List.mem_cons_self
  have absent (name : String) :
      ∀ f ∈ [source], (reader.findings f).tables.contains name = false := by
    intro f mem
    rw [List.mem_singleton.mp mem]
    have noTables : (reader.findings source).tables = .empty := rfl
    rw [noTables]
    rfl
  refine ⟨_, a', ⟨fs, []⟩, v', report', ran, held, kept.digest?, ?_, ?_, ?_, ?_, gone, ran', held'⟩
  · rw [Ne, kept.functions "f" _ rfl]
    decide +kernel
  · rw [kept.functions "h" _ rfl]
    decide +kernel
  · refine (kept.tables "T" _ (absent "T")).mpr ⟨rfl, ?_⟩
    rintro (_ | ⟨_, before⟩) f after split
    · cases split
      rfl
    · simp at split
  · intro stays
    have foreign := ((kept.tables "U" _ (absent "U")).mp stays).2 [] source [] rfl
    exact absurd foreign (by decide +kernel)

/-- Two sources that have one key. -/
def merged : FileSystem := aliases "int h() \x7b\n" "int f() \x7b\x7d\n"

/-- The reader that can read the second one. -/
def mergedReader : FileReader := fun f ↦
  if f.bytes = "int h() \x7b\n".toUTF8 then .error (.tooManyFaults 1 0) else reader f

/-- Where the source that fails has the key of the other one, there is a digest under that key
afterwards. -/
theorem indexPath_failing_merged : ∃ w' a',
    (indexPath mergedReader "/i.json" "/").runOn ⟨merged, []⟩ =
      (.ok { root := "/", scanned := 2, indexed := 1, failed := 1 }, w') ∧
    merged.failing mergedReader .empty "/" = [Path.ofNames firstAlias.1] ∧
    Atlas.empty.digest? (Path.ofNames firstAlias.1).text = none ∧
    w'.files.storedAtlas "/i.json" = .ok a' ∧
    a'.digest? (Path.ofNames firstAlias.1).text =
      some (Sha256.hex "int f() \x7b\x7d\n".toUTF8) := by
  have canonical : merged.canonicalPath "/" = .ok "/" := rfl
  have stored : merged.storedAtlas "/i.json" = .ok .empty := rfl
  have saves : merged.Saves "/i.json" merged indexPlace := saves_aliases _ _
  obtain ⟨events, ran⟩ := indexPath_of_saves (w := ⟨merged, []⟩) mergedReader canonical stored saves
  have held := (storedAtlas_of_indexPath canonical stored ran).2
  have no : ¬ ∃ bytes, merged.Offers mergedReader ⟨Path.ofNames firstAlias.1, bytes⟩ := by
    rintro ⟨bytes, there, c, readable⟩
    obtain rfl : "int h() \x7b\n".toUTF8 = bytes := Except.ok.inj there
    cases readable
  have visited : merged.visited "/" = [Path.ofNames firstAlias.1, Path.ofNames secondAlias.1] := rfl
  obtain ⟨reason, failed⟩ := runOver_of_not_offers (a := .empty) visited rfl no
  have there : merged.read (Path.ofNames secondAlias.1) = .ok "int f() \x7b\x7d\n".toUTF8 := rfl
  rw [failed, Run.addFile_of_readable rfl there rfl] at ran held
  refine ⟨_, _, ran, rfl, rfl, held, ?_⟩
  rw [Atlas.digest?_replaceFile, text_firstAlias, text_secondAlias, if_pos rfl]

end Spared

end BuiltinAtlas
