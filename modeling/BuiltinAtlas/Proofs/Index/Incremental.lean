import BuiltinAtlas.Proofs.Index.History
import BuiltinAtlas.Proofs.Index.Tidy
import BuiltinAtlas.Proofs.Index.Visited

/-!
# Indexing again is indexing anew

When a directory has been indexed again and again, in parts and as a whole, the index holds what
indexing the directory without an index gives (`Chronicle.storedAtlas_eq_fresh`), provided that
different files never contributed the same name at a time, that tables list functions of their own
files, and that digests do not collide. After a last run over the directory without failures, the
last versions in the log are read like those that indexing anew leaves there, also where several
files have one key, and a log without conflicts has no more to it. Files that are no C sources must
not be indexed, which would only be done on their own.
-/

namespace BuiltinAtlas

open Log

namespace FileSystem

/-- All files that were indexed are still there, and not behind links. -/
def Keeps (fs : FileSystem) (log : Log) : Prop :=
  ∀ f ∈ log, fs.isFile f.path = true ∧ fs.canonicalPath f.path = .ok f.path

/-- Content that was indexed has another digest than what is now in a file under its key if it is
another. -/
def Distinguishes (fs : FileSystem) (paths : List RawText) (log : Log) : Prop :=
  ∀ f ∈ log, ∀ path ∈ paths, path.text = f.key → ∀ bytes, fs.read path = .ok bytes →
    Sha256.hex f.bytes = Sha256.hex bytes → f.bytes = bytes

end FileSystem

section

variable {reader : FileReader} {fs : FileSystem} {log other earlier : Log} {path : RawText}
  {paths part : List RawText} {bytes : ByteArray}

private theorem FileSystem.Distinguishes.mono (h : fs.Distinguishes paths log)
    (fewer : part ⊆ paths) (before : earlier <:+ log) : fs.Distinguishes part earlier :=
  fun f old path mem ↦ h f (before.subset old) path (fewer mem)

private theorem FileSystem.UpToDate.exists_source (h : fs.UpToDate log path) (mem : path ∈ paths)
    (distinct : fs.Distinguishes paths log) : ∃ f bytes, latest? log path.text = some f ∧
      fs.read path = .ok bytes ∧ f.source = .atPath path bytes := by
  obtain ⟨f, bytes, last, there, equal⟩ := h
  have here := key_of_latest? last
  obtain rfl := distinct f (current_of_latest? last).mem path mem here.symm bytes there equal
  exact ⟨f, f.bytes, last, there, FileVersion.source_eq_iff (g := ⟨path, f.bytes⟩) |>.mpr
    ⟨here, rfl⟩⟩

/-- A file that is up to date can be read, unless digests collide. -/
theorem FileSystem.UpToDate.offers (h : fs.UpToDate log path)
    (readable : ∀ f ∈ log, ∃ c, reader f.source = .ok c) (mem : path ∈ paths)
    (distinct : fs.Distinguishes paths log) : ∃ bytes, fs.Offers reader ⟨path, bytes⟩ := by
  obtain ⟨f, bytes, last, there, same⟩ := h.exists_source mem distinct
  obtain ⟨c, read⟩ := readable f (current_of_latest? last).mem
  rw [same] at read
  exact ⟨bytes, there, c, read⟩

private theorem Log.source_latest?_visit (offers : fs.Offers reader ⟨path, bytes⟩)
    (mem : path ∈ paths) (distinct : fs.Distinguishes paths (visit reader fs log path)) :
    ∃ f, latest? (visit reader fs log path) path.text = some f ∧
      f.source = .atPath path bytes := by
  obtain ⟨f, bytes', last, there, same⟩ := (upToDate_visit log offers).exists_source mem distinct
  cases there.symm.trans offers.1
  exact ⟨f, last, same⟩

private theorem Log.exists_mem_foldl_visit (mem : path ∈ paths)
    (offers : fs.Offers reader ⟨path, bytes⟩)
    (distinct : fs.Distinguishes paths (paths.foldl (visit reader fs) log)) :
    ∃ f ∈ paths.foldl (visit reader fs) log, f.source = .atPath path bytes := by
  obtain ⟨before, after, split⟩ := List.append_of_mem mem
  rw [split, List.foldl_append, List.foldl_cons, ← split] at distinct
  rw [split, List.foldl_append, List.foldl_cons]
  have rest := suffix_foldl_visit reader fs
    (visit reader fs (before.foldl (visit reader fs) log) path) after
  obtain ⟨f, last, same⟩ :=
    source_latest?_visit offers mem (distinct.mono (List.Subset.refl _) rest)
  exact ⟨f, rest.subset (current_of_latest? last).mem, same⟩

/-- The last versions under the keys of visited files are read alike, whatever the log was, and so
are those that were read alike before. -/
private theorem Log.source_latest?_foldl_visit
    (offered : ∀ path ∈ paths, ∃ bytes, fs.Offers reader ⟨path, bytes⟩)
    (distinct : fs.Distinguishes paths (paths.foldl (visit reader fs) log))
    (distinct' : fs.Distinguishes paths (paths.foldl (visit reader fs) other)) {key : String}
    (h : key ∈ paths.map RawText.text ∨
      (latest? log key).map FileVersion.source = (latest? other key).map FileVersion.source) :
    (latest? (paths.foldl (visit reader fs) log) key).map FileVersion.source =
      (latest? (paths.foldl (visit reader fs) other) key).map FileVersion.source := by
  induction paths generalizing log other with
  | nil => exact h.resolve_left List.not_mem_nil
  | cons path paths ih =>
    have fewer : paths ⊆ path :: paths := List.subset_cons_self path paths
    refine ih (fun p mem ↦ offered p (fewer mem)) (distinct.mono fewer List.suffix_rfl)
      (distinct'.mono fewer List.suffix_rfl) ?_
    by_cases here : key = path.text
    · right
      obtain ⟨bytes, offers⟩ := offered path List.mem_cons_self
      obtain ⟨f, last, same⟩ := source_latest?_visit offers List.mem_cons_self
        (distinct.mono (List.Subset.refl _) (suffix_foldl_visit reader fs _ paths))
      obtain ⟨g, last', same'⟩ := source_latest?_visit offers List.mem_cons_self
        (distinct'.mono (List.Subset.refl _) (suffix_foldl_visit reader fs _ paths))
      rw [here, last, last', Option.map_some, Option.map_some, same, same']
    · rw [latest?_visit_of_ne here, latest?_visit_of_ne here]
      refine h.imp_left fun mem ↦ ?_
      exact (List.mem_cons.mp mem).resolve_left here

/-- What a run makes of no log does not collide either. -/
private theorem Log.distinguishes_fresh
    (distinct : fs.Distinguishes paths (paths.foldl (visit reader fs) log)) :
    fs.Distinguishes paths (paths.foldl (visit reader fs) []) := by
  intro f mem path listed here bytes there equal
  obtain ⟨visited, offers⟩ := (mem_foldl_visit mem).resolve_left List.not_mem_nil
  obtain ⟨g, mem', same⟩ := exists_mem_foldl_visit visited offers distinct
  obtain ⟨key, content⟩ := FileVersion.source_eq_iff.mp (same : g.source = f.source)
  rw [← content] at equal ⊢
  exact distinct g mem' path listed (here.trans key.symm) bytes there equal

private theorem Log.alike_fresh
    (offered : ∀ path ∈ paths, ∃ bytes, fs.Offers reader ⟨path, bytes⟩)
    (distinct : fs.Distinguishes paths (paths.foldl (visit reader fs) log))
    (all : ∀ f ∈ log, f.path ∈ paths) :
    Alike (paths.foldl (visit reader fs) log) (paths.foldl (visit reader fs) []) := by
  intro key
  apply source_latest?_foldl_visit offered distinct (distinguishes_fresh distinct)
  by_cases visited : key ∈ paths.map RawText.text
  · exact .inl visited
  · right
    have none : latest? log key = none := by
      rw [latest?, List.find?_eq_none]
      rintro f mem here
      exact visited (List.mem_map.mpr ⟨f.path, all f mem, eq_of_beq here⟩)
    rw [none]
    rfl

private theorem Log.tidy_fresh
    (offered : ∀ path ∈ paths, ∃ bytes, fs.Offers reader ⟨path, bytes⟩)
    (distinct : fs.Distinguishes paths (paths.foldl (visit reader fs) log))
    (tidy : Tidy reader (paths.foldl (visit reader fs) log)) :
    Tidy reader (paths.foldl (visit reader fs) []) := by
  constructor
  · intro earlier before f g hf hg hne
    rcases exists_prefix_of_suffix_foldl_visit before with nothing | ⟨first, ⟨rest, rfl⟩, rfl⟩
    · rw [List.suffix_nil.mp nothing] at hf
      cases hf
    -- At that time the other log had versions under these keys that are read alike.
    rw [List.foldl_append] at distinct tidy
    have begun := suffix_foldl_visit reader fs (first.foldl (visit reader fs) log) rest
    have fewer : first ⊆ first ++ rest := List.subset_append_left first rest
    have offered' : ∀ path ∈ first, ∃ bytes, fs.Offers reader ⟨path, bytes⟩ :=
      fun path mem ↦ offered path (fewer mem)
    have distinct' := distinct.mono fewer begun
    have alike {x : FileVersion} (hx : Current (first.foldl (visit reader fs) []) x) :
        ∃ y, Current (first.foldl (visit reader fs) log) y ∧ y.source = x.source := by
      obtain ⟨visited, -⟩ := (mem_foldl_visit hx.mem).resolve_left List.not_mem_nil
      have same := source_latest?_foldl_visit offered' distinct' (distinguishes_fresh distinct')
        (.inl (List.mem_map_of_mem visited))
      have last : latest? (first.foldl (visit reader fs) []) x.path.text = some x := hx
      rw [last, Option.map_some] at same
      obtain ⟨y, last', equal⟩ := Option.map_eq_some_iff.mp same
      exact ⟨y, current_of_latest? last', equal⟩
    obtain ⟨f', hf', samef⟩ := alike hf
    obtain ⟨g', hg', sameg⟩ := alike hg
    rw [← FileReader.findings_congr samef, ← FileReader.findings_congr sameg]
    refine tidy.apart _ begun f' g' hf' hg' ?_
    rw [(FileVersion.source_eq_iff.mp samef).1, (FileVersion.source_eq_iff.mp sameg).1]
    exact hne
  · intro f mem
    obtain ⟨visited, offers⟩ := (mem_foldl_visit mem).resolve_left List.not_mem_nil
    obtain ⟨g, mem', same⟩ := exists_mem_foldl_visit visited offers distinct
    rw [← FileReader.findings_congr (same : g.source = f.source)]
    exact tidy.closed g mem'

private theorem FileSystem.failed_runOver {root : RawText}
    (offered : ∀ path ∈ fs.visited root, ∃ bytes, fs.Offers reader ⟨path, bytes⟩) :
    (fs.runOver reader root (.ofLog reader log)).report.failed = 0 :=
  Run.failed_foldl_addFile offered

private theorem FileSystem.runOver_eq {fs' : FileSystem} {root : RawText} {a : Atlas}
    (visited : fs'.visited root = fs.visited root)
    (read : ∀ path ∈ fs.visited root, fs'.read path = fs.read path) :
    fs'.runOver reader root a = fs.runOver reader root a := by
  rw [runOver, runOver, visited]
  apply List.foldl_ext
  intro r path mem
  rw [Run.addFile, Run.addFile, read path mem]

end

namespace Chronicle

variable {reader : FileReader} {index : RawText} {w w' : World} {log : Log} {root : ValidPlace}

private theorem sourceBelow (h : Chronicle reader index (FileSystem.Within root) w log)
    {f : FileVersion} (mem : f ∈ log) : FileSystem.SourceBelow root f.path := by
  induction h with
  | start => cases mem
  | edit _ _ ih => exact ih mem
  | run _ _ within _ ih =>
    rcases mem_foldl_visit mem with old | ⟨visited, -⟩
    · exact ih old
    · exact FileSystem.sourceBelow_of_mem_visited within visited
  | fail _ _ ih => exact ih mem

private theorem mem_visited (h : Chronicle reader index (FileSystem.Within root) w log)
    (directory : w.files.isDirectory (Path.ofNames root.1) = true) (stay : w.files.Keeps log)
    {f : FileVersion} (mem : f ∈ log) : f.path ∈ w.files.visited (Path.ofNames root.1) := by
  obtain ⟨there, canonical⟩ := stay f mem
  exact FileSystem.mem_visited_of_sourceBelow directory (h.sourceBelow mem) there canonical

private theorem offered_visited (h : Chronicle reader index (FileSystem.Within root) w log)
    (fine : (w.files.runOver reader (Path.ofNames root.1) (.ofLog reader log)).report.failed = 0)
    (distinct : w.files.Distinguishes (w.files.visited (Path.ofNames root.1))
      (w.files.logAfter reader (Path.ofNames root.1) log)) :
    ∀ path ∈ w.files.visited (Path.ofNames root.1),
      ∃ bytes, w.files.Offers reader ⟨path, bytes⟩ := by
  have readable : ∀ f ∈ w.files.logAfter reader (Path.ofNames root.1) log,
      ∃ c, reader f.source = .ok c := by
    intro f mem
    rcases mem_foldl_visit mem with old | ⟨-, -, readable⟩
    · exact h.exists_reader_eq_ok old
    · exact readable
  intro path mem
  rcases Run.upToDate_or_offers rfl fine path mem with ⟨earlier, before, upToDate⟩ | offered
  · exact upToDate.offers (fun f old ↦ readable f (before.subset old)) mem
      (distinct.mono (List.Subset.refl _) before)
  · exact offered

/-- After a directory was indexed in parts and as a whole, and as a whole at last, the index holds
what indexing it without an index gives, in this world and in any other with the same sources. -/
theorem storedAtlas_eq_fresh {path : RawText} {report : Report}
    (h : Chronicle reader index (FileSystem.Within root) w log)
    (canonical : w.files.canonicalPath path = .ok (Path.ofNames root.1))
    (directory : w.files.isDirectory (Path.ofNames root.1) = true)
    (ran : (indexPath reader index path).runOn w = (.ok report, w'))
    (fine : report.failed = 0)
    (stay : w.files.Keeps log)
    (tidy : Tidy reader (w.files.logAfter reader (Path.ofNames root.1) log))
    (distinct : w.files.Distinguishes (w.files.visited (Path.ofNames root.1))
      (w.files.logAfter reader (Path.ofNames root.1) log)) :
    w'.files.storedAtlas index =
        .ok (w.files.runOver reader (Path.ofNames root.1) .empty).atlas ∧
      ∀ (v v' : World) (other path' : RawText) (report' : Report),
        v.files.isFile other = false →
        v.files.canonicalPath path' = .ok (Path.ofNames root.1) →
        v.files.visited (Path.ofNames root.1) = w.files.visited (Path.ofNames root.1) →
        (∀ file ∈ w.files.visited (Path.ofNames root.1),
          v.files.read file = w.files.read file) →
        (indexPath reader other path').runOn v = (.ok report', v') →
        v'.files.storedAtlas other = w'.files.storedAtlas index := by
  have held := (storedAtlas_of_indexPath canonical h.storedAtlas ran).2
  have fresh : w'.files.storedAtlas index =
      .ok (w.files.runOver reader (Path.ofNames root.1) .empty).atlas := by
    rw [(storedAtlas_of_indexPath canonical h.storedAtlas ran).1] at fine
    have offered := h.offered_visited fine distinct
    have alike : Alike (w.files.logAfter reader (Path.ofNames root.1) log)
        (w.files.logAfter reader (Path.ofNames root.1) []) :=
      alike_fresh offered distinct fun f mem ↦ h.mem_visited directory stay mem
    have none := FileSystem.atlas_runOver w.files reader (Path.ofNames root.1) []
    rw [held, FileSystem.atlas_runOver,
      Atlas.ofLog_eq_of_alike alike tidy (tidy_fresh offered distinct tidy)]
    exact congrArg Except.ok none.symm
  refine ⟨fresh, ?_⟩
  intro v v' other path' report' empty canonical' visited read ran'
  have nothing : v.files.storedAtlas other = .ok .empty := by
    rw [FileSystem.storedAtlas, empty]
    rfl
  rw [(storedAtlas_of_indexPath canonical' nothing ran').2, fresh,
    FileSystem.runOver_eq visited read]

end Chronicle

/-! A directory has one C source at first, which is indexed on its own; then a second one is added,
and the directory is indexed. -/

namespace Growth

open Sample (firstPlace secondPlace indexPlace withIndex)

/-- The directory. -/
def root : ValidPlace := ⟨[], by decide⟩

/-- The C source that is there at first. -/
def first : FileVersion := ⟨"/a.c", "int f() \x7b\x7d\n".toUTF8⟩

/-- The C source that is added. -/
def second : FileVersion :=
  ⟨"/b.c", "int g() \x7b\x7d\nPyMethodDef T[] = \x7b\x7b\"g\", g, 0, 0\x7d\x7d;\n".toUTF8⟩

/-- A header, which is no C source. -/
def header : FileVersion := ⟨"/x.h", "int h() \x7b\x7d\n".toUTF8⟩

/-- What the three texts are read as. -/
def reader : FileReader := Sample.reader [
  (first, [Sample.function "f" 0]),
  (second, [Sample.function "g" 0, Sample.table]),
  (header, [Sample.function "h" 0])]

/-- The first source. -/
def before : FileSystem :=
  FileSystem.empty.putFile firstPlace first.bytes

/-- Both sources. -/
def after : FileSystem :=
  before.putFile secondPlace second.bytes

/-- The index file is stored beside the sources, whatever they are. -/
theorem storedAtlas_withIndex (content : ByteArray) :
    (withIndex after content).storedAtlas "/i.json" =
      (withIndex before content).storedAtlas "/i.json" := by
  have found : (withIndex after content).find "/i.json" = .ok (indexPlace, .file content) := rfl
  have found' : (withIndex before content).find "/i.json" = .ok (indexPlace, .file content) := rfl
  exact FileSystem.storedAtlas_of_find_eq found found'

private theorem within_first (fs : FileSystem) : FileSystem.Within root fs "/a.c" :=
  ⟨⟨["a.c"], by decide⟩, rfl, .inr rfl⟩

/-- The first source can be indexed on its own, and the second one be added then. -/
theorem exists_chronicle : ∃ content,
    Chronicle reader "/i.json" (FileSystem.Within root) ⟨withIndex after content, []⟩ [first] := by
  have start : Chronicle reader "/i.json" (FileSystem.Within root) ⟨before, []⟩ [] := .start rfl
  have canonical : before.canonicalPath "/a.c" = .ok "/a.c" := rfl
  have located : before.locate "/i.json" true = .ok indexPlace := rfl
  obtain ⟨content, w, -, held, once⟩ :=
    start.exists_run canonical (within_first before) located (by decide) (.inl rfl)
  refine ⟨content, once.edit ?_⟩
  rw [held]
  exact storedAtlas_withIndex content

private theorem visited_after (content : ByteArray) :
    after.visited "/" = [first.path, second.path] ∧
      (withIndex after content).visited "/" = [first.path, second.path] :=
  ⟨rfl, rfl⟩

private theorem read_after (content : ByteArray) : ∀ f ∈ [first, second],
    after.read f.path = .ok f.bytes ∧ (withIndex after content).read f.path = .ok f.bytes := by
  intro f mem
  simp only [List.mem_cons, List.not_mem_nil, or_false] at mem
  rcases mem with rfl | rfl
  · exact ⟨rfl, rfl⟩
  · exact ⟨rfl, rfl⟩

private theorem eq_of_key_eq : ∀ f ∈ [first, second], ∀ g ∈ [first, second], f.key = g.key →
    f = g := by
  have different : first.key ≠ second.key := by decide +kernel
  simp [different, different.symm]

private theorem exists_of_mem_visited {content : ByteArray} {path : RawText}
    (mem : path ∈ (withIndex after content).visited "/") :
    ∃ f ∈ [first, second], f.path = path := by
  rw [(visited_after content).2] at mem
  exact List.mem_map.mp mem

/-- Indexing the directory finds the first source unchanged, and the second one new. -/
theorem logAfter_withIndex (content : ByteArray) :
    (withIndex after content).logAfter reader "/" [first] = [second, first] := by
  have same : (withIndex after content).UpToDate [first] first.path :=
    ⟨first, first.bytes, rfl, rfl, rfl⟩
  have new : (withIndex after content).Offers reader second := ⟨rfl, _, rfl⟩
  rw [FileSystem.logAfter, (visited_after content).2, List.foldl_cons, List.foldl_cons,
    List.foldl_nil, visit_of_upToDate same, visit_of_offers new]
  intro g last
  cases last

private theorem conditions (content : ByteArray) :
    ((withIndex after content).runOver reader "/" (.ofLog reader [first])).report.failed = 0 ∧
      (withIndex after content).Keeps [first] ∧
      Tidy reader ((withIndex after content).logAfter reader "/" [first]) ∧
      (withIndex after content).Distinguishes ((withIndex after content).visited "/")
        ((withIndex after content).logAfter reader "/" [first]) := by
  refine ⟨?_, ?_, ?_, ?_⟩
  · apply FileSystem.failed_runOver
    intro path mem
    obtain ⟨f, hf, rfl⟩ := exists_of_mem_visited mem
    exact ⟨f.bytes, (read_after content f hf).2, _, rfl⟩
  · intro f mem
    cases List.mem_singleton.mp mem
    exact ⟨rfl, rfl⟩
  · rw [logAfter_withIndex]
    apply Tidy.of_forall_apart
    · decide +kernel
    · decide +kernel
  · rw [logAfter_withIndex]
    intro f mem path listed here bytes there _
    obtain ⟨g, mem', rfl⟩ := exists_of_mem_visited listed
    obtain rfl := eq_of_key_eq f (List.mem_reverse.mp mem) g mem' here.symm
    exact Except.ok.inj ((read_after content f mem').2.symm.trans there)

/-- What the index holds after both runs is what indexing the directory without an index gives. -/
theorem storedAtlas_eq : ∃ w w' report,
    Chronicle reader "/i.json" (FileSystem.Within root) w [first] ∧
    w.files.canonicalPath "/" = .ok (Path.ofNames root.1) ∧
    w.files.isDirectory (Path.ofNames root.1) = true ∧
    (indexPath reader "/i.json" "/").runOn w = (.ok report, w') ∧ report.failed = 0 ∧
    w.files.Keeps [first] ∧
    Tidy reader (w.files.logAfter reader (Path.ofNames root.1) [first]) ∧
    w.files.Distinguishes (w.files.visited (Path.ofNames root.1))
      (w.files.logAfter reader (Path.ofNames root.1) [first]) ∧
    w'.files.storedAtlas "/i.json" =
      .ok (w.files.runOver reader (Path.ofNames root.1) .empty).atlas ∧
    ∃ v v' report', v.files.isFile "/i.json" = false ∧
      (indexPath reader "/i.json" "/").runOn v = (.ok report', v') ∧
      v'.files.storedAtlas "/i.json" = w'.files.storedAtlas "/i.json" := by
  obtain ⟨content, once⟩ := exists_chronicle
  obtain ⟨fine, keeps, tidy, distinguishes⟩ := conditions content
  have canonical : (withIndex after content).canonicalPath "/" = .ok "/" := rfl
  have located : (withIndex after content).locate "/i.json" true = .ok indexPlace := rfl
  have inside : FileSystem.Within root (withIndex after content) "/" :=
    ⟨⟨[], by simp⟩, rfl, .inl rfl⟩
  obtain ⟨_, w', ran, -, -⟩ :=
    once.exists_run canonical inside located (by decide) (.inr ⟨_, rfl⟩)
  obtain ⟨fresh, anew⟩ :=
    once.storedAtlas_eq_fresh canonical rfl ran fine keeps tidy distinguishes
  -- the directory is indexed without an index
  have start : Chronicle reader "/i.json" (fun _ _ ↦ True) ⟨after, []⟩ [] := .start rfl
  have canonical' : after.canonicalPath "/" = .ok "/" := rfl
  have located' : after.locate "/i.json" true = .ok indexPlace := rfl
  obtain ⟨_, v', ran', -, -⟩ :=
    start.exists_run canonical' trivial located' (by decide) (.inl rfl)
  have visited : after.visited "/" = (withIndex after content).visited "/" :=
    (visited_after content).1.trans (visited_after content).2.symm
  have read : ∀ file ∈ (withIndex after content).visited "/",
      after.read file = (withIndex after content).read file := by
    intro file mem
    obtain ⟨f, hf, rfl⟩ := exists_of_mem_visited mem
    obtain ⟨without, beside⟩ := read_after content f hf
    exact without.trans beside.symm
  have same := anew ⟨after, []⟩ v' "/i.json" "/" _ rfl canonical' visited read ran'
  exact ⟨_, w', _, once, canonical, rfl, ran, fine, keeps, tidy, distinguishes, fresh, _, v', _,
    rfl, ran', same⟩

/-- The first source and the header. -/
def beside : FileSystem :=
  before.put ⟨["x.h"], by decide⟩ (.file header.bytes) (FileSystem.wellFormed_file _)

/-- What is at or below the directory, whatever it is. -/
def Inside (_ : FileSystem) (path : RawText) : Prop :=
  ∃ below : ValidPlace, path = Path.ofNames (root.1 ++ below.1)

private theorem exists_chronicle_header : ∃ w content, w.files = withIndex beside content ∧
    Chronicle reader "/i.json" Inside w [header] := by
  have start : Chronicle reader "/i.json" Inside ⟨beside, []⟩ [] := .start rfl
  have canonical : beside.canonicalPath "/x.h" = .ok "/x.h" := rfl
  have located : beside.locate "/i.json" true = .ok indexPlace := rfl
  have inside : Inside beside "/x.h" := ⟨⟨["x.h"], by decide⟩, rfl⟩
  obtain ⟨content, w, -, held, once⟩ :=
    start.exists_run canonical inside located (by decide) (.inl rfl)
  exact ⟨w, content, held, once⟩

private theorem logAfter_beside (content : ByteArray) :
    (withIndex beside content).logAfter reader "/" [header] = [first, header] ∧
      beside.logAfter reader "/" [] = [first] := by
  have visited : (withIndex beside content).visited "/" = [first.path] := rfl
  have visited' : beside.visited "/" = [first.path] := rfl
  have offers : (withIndex beside content).Offers reader first := ⟨rfl, _, rfl⟩
  have offers' : beside.Offers reader first := ⟨rfl, _, rfl⟩
  constructor
  · rw [FileSystem.logAfter, visited, List.foldl_cons, List.foldl_nil, visit_of_offers offers]
    intro g last
    cases last
  · rw [FileSystem.logAfter, visited', List.foldl_cons, List.foldl_nil, visit_of_offers offers']
    intro g last
    cases last

private theorem conditions_header (content : ByteArray) :
    ((withIndex beside content).runOver reader "/" (.ofLog reader [header])).report.failed = 0 ∧
      (withIndex beside content).Keeps [header] ∧
      Tidy reader ((withIndex beside content).logAfter reader "/" [header]) ∧
      (withIndex beside content).Distinguishes ((withIndex beside content).visited "/")
        ((withIndex beside content).logAfter reader "/" [header]) := by
  refine ⟨?_, ?_, ?_, ?_⟩
  · apply FileSystem.failed_runOver
    intro path mem
    have visited : (withIndex beside content).visited "/" = [first.path] := rfl
    rw [visited] at mem
    cases List.mem_singleton.mp mem
    exact ⟨first.bytes, rfl, _, rfl⟩
  · intro f mem
    cases List.mem_singleton.mp mem
    exact ⟨rfl, rfl⟩
  · rw [(logAfter_beside content).1]
    apply Tidy.of_forall_apart
    · decide +kernel
    · decide +kernel
  · rw [(logAfter_beside content).1]
    have visited : (withIndex beside content).visited "/" = [first.path] := rfl
    have there : (withIndex beside content).read first.path = .ok first.bytes := rfl
    have different : first.key ≠ header.key := by decide +kernel
    rw [visited]
    intro f mem path listed here bytes there' _
    cases List.mem_singleton.mp listed
    cases there.symm.trans there'
    simp only [List.mem_cons, List.not_mem_nil, or_false] at mem
    rcases mem with rfl | rfl
    · rfl
    · exact absurd here different

/-- A header that was indexed on its own stays in the index, but indexing the directory without an
index does not find it. -/
theorem header_stays : ∃ w w' report v v' report' a a',
    Chronicle reader "/i.json" Inside w [header] ∧
    w.files.canonicalPath "/" = .ok (Path.ofNames root.1) ∧
    w.files.isDirectory (Path.ofNames root.1) = true ∧
    (indexPath reader "/i.json" "/").runOn w = (.ok report, w') ∧ report.failed = 0 ∧
    w.files.Keeps [header] ∧
    Tidy reader (w.files.logAfter reader (Path.ofNames root.1) [header]) ∧
    w.files.Distinguishes (w.files.visited (Path.ofNames root.1))
      (w.files.logAfter reader (Path.ofNames root.1) [header]) ∧
    v.files = beside ∧ (∃ content, w.files = withIndex beside content) ∧
    (indexPath reader "/i.json" "/").runOn v = (.ok report', v') ∧
    w'.files.storedAtlas "/i.json" = .ok a ∧ v'.files.storedAtlas "/i.json" = .ok a' ∧
    a.functions.contains "h" = true ∧ a'.functions.contains "h" = false := by
  obtain ⟨⟨fs, events⟩, content, held, once⟩ := exists_chronicle_header
  obtain rfl : fs = withIndex beside content := held
  obtain ⟨fine, keeps, tidy, distinguishes⟩ := conditions_header content
  have inside (fs : FileSystem) : Inside fs "/" := ⟨root, rfl⟩
  have canonical : (withIndex beside content).canonicalPath "/" = .ok "/" := rfl
  have located : (withIndex beside content).locate "/i.json" true = .ok indexPlace := rfl
  obtain ⟨_, w', ran, -, twice⟩ :=
    once.exists_run canonical (inside _) located (by decide) (.inr ⟨_, rfl⟩)
  -- the directory is indexed without an index
  have start : Chronicle reader "/i.json" Inside ⟨beside, []⟩ [] := .start rfl
  have canonical' : beside.canonicalPath "/" = .ok "/" := rfl
  have located' : beside.locate "/i.json" true = .ok indexPlace := rfl
  obtain ⟨_, v', ran', -, anew⟩ :=
    start.exists_run canonical' (inside _) located' (by decide) (.inl rfl)
  have both := twice.storedAtlas
  have one := anew.storedAtlas
  rw [(logAfter_beside content).1] at both
  rw [(logAfter_beside content).2] at one
  refine ⟨_, w', _, ⟨beside, []⟩, v', _, _, _, once, canonical, rfl, ran, fine, keeps, tidy,
    distinguishes, rfl, ⟨content, rfl⟩, ran', both, one, ?_, ?_⟩
  · rfl
  · rfl

end Growth

end BuiltinAtlas
