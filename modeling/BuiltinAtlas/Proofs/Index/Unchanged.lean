import BuiltinAtlas.Proofs.Index.History

/-!
# What is known of unchanged files

A file whose recorded digest is that of its content is left out by indexing runs, so that the index
should know what is found in it. It does, with exceptions that are found here. A name of a type,
module or function is known unless a file that was indexed later has taken the name over and has
been replaced since (`Chronicle.contains_iff_not_overtaken`). A table is known unless it belonged,
by the functions that were known, to a file that was indexed later
(`Chronicle.contains_tables_iff_not_dropped`).
-/

namespace BuiltinAtlas

open Log

namespace Part

variable {β : Type} (part : Part β) {reader : FileReader} {log : Log} {name : String}
  {f : FileVersion}

/-- The last version that has an entry of a name is no longer the last one under its key. -/
def Overtaken (reader : FileReader) (log : Log) (name : String) : Prop :=
  ∃ f, log.find? (part.definedIn reader name) = some f ∧ ¬ Current log f

private theorem contains_ofLog_iff_not_overtaken (mem : f ∈ log)
    (defined : part.definedIn reader name f = true) :
    (part.entries (Atlas.ofLog reader log).toFindings).contains name = true ↔
      ¬ part.Overtaken reader log name := by
  rw [part.contains_ofLog_iff]
  constructor
  · rintro ⟨g, last, current⟩ ⟨h, last', gone⟩
    cases last.symm.trans last'
    exact gone current
  · intro kept
    have some : (log.find? (part.definedIn reader name)).isSome = true :=
      List.find?_isSome.mpr ⟨f, mem, defined⟩
    obtain ⟨g, last⟩ := Option.isSome_iff_exists.mp some
    refine ⟨g, last, Classical.byContradiction fun gone ↦ ?_⟩
    exact kept ⟨g, last, gone⟩

end Part

namespace Atlas

variable {reader : FileReader} {log : Log} {name : String} {f : FileVersion}

/-- A table was there when a version of a file was indexed that does not have it, it belonged to
that file, and no later version has it. -/
def TableDropped (reader : FileReader) (log : Log) (name : String) : Prop :=
  ∃ later f earlier table, log = later ++ f :: earlier ∧
    (ofLog reader earlier).tables.find? name = some table ∧
    (ofLog reader earlier).tableBelongsTo f.key table = true ∧
    ∀ g ∈ later ++ [f], (reader.findings g).tables.contains name = false

private theorem not_tableDropped_of_contains
    (h : (reader.findings f).tables.contains name = true) :
    ¬ TableDropped reader (f :: log) name := by
  rintro ⟨later, g, earlier, table, split, -, -, absent⟩
  have mem : f ∈ later ++ [g] := by
    cases later with
    | nil =>
      cases split
      exact List.mem_singleton_self f
    | cons _ _ =>
      cases split
      exact List.mem_cons_self
  rw [absent f mem] at h
  cases h

private theorem tableDropped_cons_iff (h : (reader.findings f).tables.contains name = false) :
    TableDropped reader (f :: log) name ↔ TableDropped reader log name ∨
      ∃ table, (ofLog reader log).tables.find? name = some table ∧
        (ofLog reader log).tableBelongsTo f.key table = true := by
  constructor
  · rintro ⟨later, g, earlier, table, split, there, belongs, absent⟩
    cases later with
    | nil =>
      cases split
      exact .inr ⟨table, there, belongs⟩
    | cons _ later =>
      cases split
      exact .inl ⟨later, g, earlier, table, rfl, there, belongs, fun g hg ↦
        absent g (List.mem_cons_of_mem _ hg)⟩
  · rintro (⟨later, g, earlier, table, rfl, there, belongs, absent⟩ | ⟨table, there, belongs⟩)
    · refine ⟨f :: later, g, earlier, table, rfl, there, belongs, ?_⟩
      intro g hg
      rcases List.mem_cons.mp hg with rfl | hg
      · exact h
      · exact absent g hg
    · refine ⟨[], f, log, table, rfl, there, belongs, ?_⟩
      intro g hg
      cases List.mem_singleton.mp hg
      exact h

private theorem contains_tables_ofLog_iff (mem : f ∈ log)
    (defined : (reader.findings f).tables.contains name = true) :
    (ofLog reader log).tables.contains name = true ↔ ¬ TableDropped reader log name := by
  induction log with
  | nil => cases mem
  | cons g log ih =>
    by_cases here : (reader.findings g).tables.contains name = true
    · obtain ⟨table, fresh⟩ := Option.isSome_iff_exists.mp here
      refine iff_of_true ?_ (not_tableDropped_of_contains here)
      rw [Dictionary.contains, find?_tables_ofLog_cons, fresh]
      rfl
    · rw [Bool.not_eq_true] at here
      have fresh : (reader.findings g).tables.find? name = none := by
        simpa [Dictionary.contains] using here
      have earlier : f ∈ log := by
        refine (List.mem_cons.mp mem).resolve_left ?_
        rintro rfl
        rw [here] at defined
        cases defined
      rw [tableDropped_cons_iff here, not_or, ← ih earlier, Dictionary.contains,
        Dictionary.contains, find?_tables_ofLog_cons, fresh, Option.none_or]
      cases (ofLog reader log).tables.find? name with
      | none => simp
      | some table => simp

end Atlas

namespace Chronicle

variable {reader : FileReader} {index : RawText} {may : FileSystem → RawText → Prop} {w : World}
  {log : Log} {a : Atlas} {path : RawText} {bytes : ByteArray}

private theorem exists_of_digest? (h : Chronicle reader index may w log)
    (stored : w.files.storedAtlas index = .ok a)
    (unchanged : a.digest? path.text = some (Sha256.hex bytes))
    (distinct : ∀ f ∈ log, f.key = path.text → Sha256.hex f.bytes = Sha256.hex bytes →
      f.bytes = bytes) :
    a = .ofLog reader log ∧ ∃ f ∈ log, reader.findings f = reader.findings ⟨path, bytes⟩ := by
  cases h.storedAtlas.symm.trans stored
  refine ⟨rfl, ?_⟩
  rw [Atlas.digest?_ofLog, Option.map_eq_some_iff] at unchanged
  obtain ⟨f, last, same⟩ := unchanged
  have here := key_of_latest? last
  have mem := (current_of_latest? last).mem
  refine ⟨f, mem, FileReader.findings_congr ?_⟩
  exact FileVersion.source_eq_iff.mpr ⟨here, distinct f mem here same⟩

/-- The names that are found in an unchanged file are known, except those that are overtaken. -/
theorem contains_iff_not_overtaken (h : Chronicle reader index may w log)
    (stored : w.files.storedAtlas index = .ok a)
    (unchanged : a.digest? path.text = some (Sha256.hex bytes))
    (distinct : ∀ f ∈ log, f.key = path.text → Sha256.hex f.bytes = Sha256.hex bytes →
      f.bytes = bytes) (name : String) :
    ((reader.findings ⟨path, bytes⟩).functions.contains name = true →
      (a.functions.contains name = true ↔ ¬ Part.functions.Overtaken reader log name)) ∧
    ((reader.findings ⟨path, bytes⟩).types.contains name = true →
      (a.types.contains name = true ↔ ¬ Part.types.Overtaken reader log name)) ∧
    ((reader.findings ⟨path, bytes⟩).modules.contains name = true →
      (a.modules.contains name = true ↔ ¬ Part.modules.Overtaken reader log name)) := by
  obtain ⟨rfl, f, mem, same⟩ := h.exists_of_digest? stored unchanged distinct
  rw [← same]
  refine ⟨?_, ?_, ?_⟩
  · exact Part.functions.contains_ofLog_iff_not_overtaken mem
  · exact Part.types.contains_ofLog_iff_not_overtaken mem
  · exact Part.modules.contains_ofLog_iff_not_overtaken mem

end Chronicle

/-! Two files define a function `f`, and a table in the first one lists a function of the second
one. Both are indexed; then the second one loses its `f`, and is indexed again. -/

namespace Takeover

open Sample (firstPlace secondPlace indexPlace withIndex)

/-- The first file, which stays as it is. -/
def first : FileVersion :=
  ⟨"/a.c", "int f() \x7b\x7d\nPyMethodDef T[] = \x7b\x7b\"g\", g, 0, 0\x7d\x7d;\n".toUTF8⟩

/-- The second file. -/
def second : FileVersion := ⟨"/b.c", "int f() \x7b\x7d\nint g() \x7b\x7d\n".toUTF8⟩

/-- The second file without its first function. -/
def later : FileVersion := ⟨"/b.c", "int g() \x7b\x7d\n".toUTF8⟩

/-- What the three texts are read as. -/
def reader : FileReader := Sample.reader [
  (first, [Sample.function "f" 0, Sample.table]),
  (second, [Sample.function "f" 0, Sample.function "g" 11]),
  (later, [Sample.function "g" 0])]

/-- The first file and some content of the second one. -/
def files (f : FileVersion) : FileSystem :=
  (FileSystem.empty.putFile firstPlace first.bytes).putFile secondPlace f.bytes

/-- The index file is stored beside the sources, whatever they are. -/
theorem storedAtlas_withIndex (f g : FileVersion) (content : ByteArray) :
    (withIndex (files f) content).storedAtlas "/i.json" =
      (withIndex (files g) content).storedAtlas "/i.json" := by
  have found (h : FileVersion) :
      (withIndex (files h) content).find "/i.json" = .ok (indexPlace, .file content) := rfl
  exact FileSystem.storedAtlas_of_find_eq (found f) (found g)

/-- Indexing again finds the first file unchanged, and the second one changed. -/
theorem logAfter_withIndex (content : ByteArray) :
    (withIndex (files later) content).logAfter reader "/" [second, first] =
      [later, second, first] := by
  have visited : (withIndex (files later) content).visited "/" = [↑"/a.c", later.path] := rfl
  have same : (withIndex (files later) content).UpToDate [second, first] "/a.c" :=
    ⟨first, first.bytes, rfl, rfl, rfl⟩
  have changed : (withIndex (files later) content).Offers reader later := ⟨rfl, _, rfl⟩
  rw [FileSystem.logAfter, visited, List.foldl_cons, List.foldl_cons, List.foldl_nil,
    visit_of_upToDate same, visit_of_offers changed]
  intro g last
  obtain rfl : second = g := Option.some.inj last
  exact Sample.hex_ne

/-- All of that can happen. -/
theorem exists_chronicle : ∃ w,
    Chronicle reader "/i.json" (fun _ _ ↦ True) w [later, second, first] ∧
      w.files.read first.path = .ok first.bytes := by
  have start : Chronicle reader "/i.json" (fun _ _ ↦ True) ⟨files second, []⟩ [] := .start rfl
  have atFirst : (files second).canonicalPath "/" = .ok "/" := rfl
  have nothing : (files second).locate "/i.json" true = .ok indexPlace := rfl
  obtain ⟨content, w₁, -, held, once⟩ :=
    start.exists_run atFirst trivial nothing (by decide) (.inl rfl)
  have edited : Chronicle reader "/i.json" (fun _ _ ↦ True)
      ⟨withIndex (files later) content, []⟩ [second, first] := by
    apply once.edit
    rw [held]
    exact storedAtlas_withIndex later second content
  have canonical : (withIndex (files later) content).canonicalPath "/" = .ok "/" := rfl
  have located : (withIndex (files later) content).locate "/i.json" true = .ok indexPlace := rfl
  obtain ⟨content', w₂, -, held', twice⟩ :=
    edited.exists_run canonical trivial located (by decide) (.inr ⟨_, rfl⟩)
  rw [logAfter_withIndex] at twice
  refine ⟨w₂, twice, ?_⟩
  rw [held']
  rfl

private theorem digest?_first : (Atlas.ofLog reader [later, second, first]).digest? first.key =
    some (Sha256.hex first.bytes) := by
  rw [Atlas.digest?_ofLog]
  rfl

private theorem bytes_eq_first : ∀ f ∈ [later, second, first], f.key = first.key →
    Sha256.hex f.bytes = Sha256.hex first.bytes → f.bytes = first.bytes := by
  intro f mem here _
  simp only [List.mem_cons, List.not_mem_nil, or_false] at mem
  rcases mem with rfl | rfl | rfl
  · exact absurd here (by decide)
  · exact absurd here (by decide)
  · rfl

/-- The function of the first file is known if it is not overtaken. -/
theorem contains_f_iff : ∃ w,
    Chronicle reader "/i.json" (fun _ _ ↦ True) w [later, second, first] ∧
    w.files.storedAtlas "/i.json" = .ok (.ofLog reader [later, second, first]) ∧
    (Atlas.ofLog reader [later, second, first]).digest? first.key = some (Sha256.hex first.bytes) ∧
    (∀ f ∈ [later, second, first], f.key = first.key →
      Sha256.hex f.bytes = Sha256.hex first.bytes → f.bytes = first.bytes) ∧
    (reader.findings first).functions.contains "f" = true ∧
    ((Atlas.ofLog reader [later, second, first]).functions.contains "f" = true ↔
      ¬ Part.functions.Overtaken reader [later, second, first] "f") := by
  obtain ⟨w, h, -⟩ := exists_chronicle
  have found : (reader.findings first).functions.contains "f" = true := rfl
  have known := h.contains_iff_not_overtaken h.storedAtlas digest?_first bytes_eq_first "f"
  exact ⟨w, h, h.storedAtlas, digest?_first, bytes_eq_first, found, known.1 found⟩

/-- The function of the first file is not known, although that file is unchanged. -/
theorem not_contains_f : ∃ w a,
    Chronicle reader "/i.json" (fun _ _ ↦ True) w [later, second, first] ∧
    w.files.storedAtlas "/i.json" = .ok a ∧ w.files.read first.path = .ok first.bytes ∧
    a.digest? first.key = some (Sha256.hex first.bytes) ∧
    (reader.findings first).functions.contains "f" = true ∧
    a.functions.contains "f" = false := by
  obtain ⟨w, h, there⟩ := exists_chronicle
  refine ⟨w, _, h, h.storedAtlas, there, digest?_first, ?_, ?_⟩
  · rfl
  · rfl

end Takeover

namespace Chronicle

variable {reader : FileReader} {index : RawText} {may : FileSystem → RawText → Prop} {w : World}
  {log : Log} {a : Atlas} {path : RawText} {bytes : ByteArray}

/-- The tables that are found in an unchanged file are known, except those that were dropped
since. -/
theorem contains_tables_iff_not_dropped (h : Chronicle reader index may w log)
    (stored : w.files.storedAtlas index = .ok a)
    (unchanged : a.digest? path.text = some (Sha256.hex bytes))
    (distinct : ∀ f ∈ log, f.key = path.text → Sha256.hex f.bytes = Sha256.hex bytes →
      f.bytes = bytes) {name : String}
    (found : (reader.findings ⟨path, bytes⟩).tables.contains name = true) :
    a.tables.contains name = true ↔ ¬ Atlas.TableDropped reader log name := by
  obtain ⟨rfl, f, mem, same⟩ := h.exists_of_digest? stored unchanged distinct
  rw [← same] at found
  exact Atlas.contains_tables_ofLog_iff mem found

end Chronicle

namespace Takeover

/-- The table of the first file is known if it was not dropped. -/
theorem contains_T_iff : ∃ w,
    Chronicle reader "/i.json" (fun _ _ ↦ True) w [later, second, first] ∧
    w.files.storedAtlas "/i.json" = .ok (.ofLog reader [later, second, first]) ∧
    (Atlas.ofLog reader [later, second, first]).digest? first.key = some (Sha256.hex first.bytes) ∧
    (∀ f ∈ [later, second, first], f.key = first.key →
      Sha256.hex f.bytes = Sha256.hex first.bytes → f.bytes = first.bytes) ∧
    (reader.findings first).tables.contains "T" = true ∧
    ((Atlas.ofLog reader [later, second, first]).tables.contains "T" = true ↔
      ¬ Atlas.TableDropped reader [later, second, first] "T") := by
  obtain ⟨w, h, -⟩ := exists_chronicle
  have found : (reader.findings first).tables.contains "T" = true := rfl
  have known := h.contains_tables_iff_not_dropped h.storedAtlas digest?_first bytes_eq_first found
  exact ⟨w, h, h.storedAtlas, digest?_first, bytes_eq_first, found, known⟩

/-- The table of the first file is not known, although that file is unchanged: all that it lists is
defined in the second file, which was indexed again. -/
theorem not_contains_T : ∃ w a,
    Chronicle reader "/i.json" (fun _ _ ↦ True) w [later, second, first] ∧
    w.files.storedAtlas "/i.json" = .ok a ∧ w.files.read first.path = .ok first.bytes ∧
    a.digest? first.key = some (Sha256.hex first.bytes) ∧
    (reader.findings first).tables.contains "T" = true ∧
    a.tables.contains "T" = false := by
  obtain ⟨w, h, there⟩ := exists_chronicle
  refine ⟨w, _, h, h.storedAtlas, there, digest?_first, ?_, ?_⟩
  · rfl
  · rfl

end Takeover

end BuiltinAtlas
