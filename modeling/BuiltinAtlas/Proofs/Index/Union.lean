import BuiltinAtlas.Proofs.Index.Intake
import BuiltinAtlas.Proofs.Index.Unchanged
import BuiltinAtlas.Proofs.Index.Visited

/-!
# What a first run builds

Indexing a directory without an index builds the union of what the sources in it contribute that can
be read (`isUnion_of_indexPath`), if they have different keys: of several sources that contribute a
name the last one decides, and nothing else is added or dropped. In particular no table is dropped,
for no function is recorded under a key before the file with that key is taken in.
-/

namespace BuiltinAtlas

/-- An atlas is the union of what some files contribute, where the last file with a name decides. -/
structure Atlas.IsUnion (reader : FileReader) (files : List FileVersion) (a : Atlas) : Prop where
  types (name : String) : a.types.find? name =
    files.reverse.findSome? fun f ↦ (reader.findings f).types.find? name
  modules (name : String) : a.modules.find? name =
    files.reverse.findSome? fun f ↦ (reader.findings f).modules.find? name
  tables (name : String) : a.tables.find? name =
    files.reverse.findSome? fun f ↦ (reader.findings f).tables.find? name
  functions (name : String) : a.functions.find? name =
    files.reverse.findSome? fun f ↦ (reader.findings f).functions.find? name
  digest? (key digest : String) : a.digest? key = some digest ↔
    ∃ f ∈ files, f.key = key ∧ Sha256.hex f.bytes = digest

section

variable {reader : FileReader} {files : List FileVersion}

private theorem Part.find?_takeAll_empty {β : Type} (part : Part β)
    (distinct : (files.map (·.key)).Nodup) (name : String) :
    (part.entries (Atlas.empty.takeAll reader files).toFindings).find? name =
      files.reverse.findSome? fun f ↦ (part.entries (reader.findings f)).find? name := by
  have nothing : part.entries Atlas.empty.toFindings = .empty := part.empty
  rw [part.find?_takeAll distinct, nothing, Dictionary.find?_empty, Option.filter_none,
    Option.or_none]

private theorem Atlas.isUnion_takeAll_empty (distinct : (files.map (·.key)).Nodup) :
    (Atlas.empty.takeAll reader files).IsUnion reader files where
  types := Part.types.find?_takeAll_empty distinct
  modules := Part.modules.find?_takeAll_empty distinct
  tables name := by
    have foreign : ∀ f ∈ files, ∀ table, Atlas.empty.tableBelongsTo f.key table = false := by
      intro f _ table
      obtain ⟨entries, sorted⟩ := table
      cases entries <;> rfl
    have nothing : Atlas.empty.tables.find? name = none := rfl
    rw [find?_tables_takeAll distinct foreign, nothing, Option.or_none]
  functions := Part.functions.find?_takeAll_empty distinct
  digest? key digest := by
    have nothing : Atlas.empty.digest? key = none := rfl
    rw [digest?_takeAll distinct, nothing, Option.or_none, Option.map_eq_some_iff]
    simp only [find?_key_eq_some_iff distinct, and_assoc]

end

/-- Indexing a directory without an index builds the union of what the sources there contribute that
can be read, and only fails if the index cannot be saved. -/
theorem isUnion_of_indexPath {reader : FileReader} {index path root : RawText} {w w' : World}
    {result : Except Failure Report} (none : w.files.isFile index = false)
    (canonical : w.files.canonicalPath path = .ok root)
    (directory : w.files.isDirectory root = true)
    (distinct : ((w.files.sources root).map RawText.text).Nodup)
    (ran : (indexPath reader index path).runOn w = (result, w')) :
    ∃ a : Atlas, a.IsUnion reader ((w.files.sources root).filterMap (w.files.readable? reader)) ∧
      (∀ report, result = .ok report → w'.files.storedAtlas index = .ok a) ∧
      ∀ f, result = .error f → ∀ content, w.files.save index content = (.error f, w'.files) := by
  have stored : w.files.storedAtlas index = .ok .empty := by
    rw [FileSystem.storedAtlas, none]
    rfl
  obtain ⟨start, es, rfl, -, leads⟩ := FileSystem.exists_find_of_canonicalPath canonical directory
  have atlas := FileSystem.atlas_runOver_directory reader leads distinct .empty
  have distinct := w.files.nodup_news reader .empty distinct
  rw [FileSystem.news_empty] at atlas distinct
  refine ⟨_, Atlas.isUnion_takeAll_empty distinct, ?_, ?_⟩
  · rintro report rfl
    rw [(storedAtlas_of_indexPath canonical stored ran).2, atlas]
  · rintro f rfl
    exact save_of_indexPath_error canonical stored ran

/-! Three sources are indexed: the first two define a function `f`, a table in the first one lists a
function of the second one, and the third one cannot be read. -/

namespace Shared

open Sample (firstAlias secondAlias aliases saves_aliases runOver_aliases indexPlace)
open Takeover (first second)

/-- The sources. -/
def files : FileSystem :=
  (Takeover.files second).putFile ⟨["c.c"], by decide⟩ "int \x7d\n".toUTF8

/-- The reader that can read the first two. -/
def reader : FileReader := fun f ↦
  if f.path = "/c.c" then .error (.tooManyFaults 1 0) else Takeover.reader f

private theorem readable_files :
    (files.sources "/").filterMap (files.readable? reader) = [first, second] := rfl

/-- The second source decides what `f` is, the table of the first one is kept although what it lists
is in the second one, and there is no digest of the third one. -/
theorem isUnion_of_indexPath_files : ∃ w' a,
    (indexPath reader "/i.json" "/").runOn ⟨files, []⟩ =
      (.ok { root := "/", scanned := 3, indexed := 2, failed := 1 }, w') ∧
    w'.files.storedAtlas "/i.json" = .ok a ∧
    a.functions.find? "f" = some ⟨"int f() \x7b\x7d", "/b.c"⟩ ∧
    a.tables.find? "T" = some (.ofList [("g", "g")]) ∧ a.digest? "/c.c" = none := by
  have canonical : files.canonicalPath "/" = .ok "/" := rfl
  have stored : files.storedAtlas "/i.json" = .ok .empty := rfl
  have located : files.locate "/i.json" true = .ok indexPlace := rfl
  have saves : files.Saves "/i.json" files indexPlace := .of_locate located (by decide) (.inl rfl)
  have report : (files.runOver reader "/" .empty).report =
      { root := "/", scanned := 3, indexed := 2, failed := 1 } := rfl
  obtain ⟨events, ran⟩ := indexPath_of_saves (w := ⟨files, []⟩) reader canonical stored saves
  rw [report] at ran
  obtain ⟨a, union, built, -⟩ :=
    isUnion_of_indexPath (w := ⟨files, []⟩) rfl canonical rfl (by decide +kernel) ran
  rw [readable_files] at union
  refine ⟨_, a, ran, built _ rfl, ?_, ?_, ?_⟩
  · rw [union.functions]
    rfl
  · rw [union.tables]
    rfl
  · apply Option.eq_none_iff_forall_ne_some.mpr
    intro digest recorded
    obtain ⟨f, mem, here, -⟩ := (union.digest? "/c.c" digest).mp recorded
    rcases List.mem_cons.mp mem with rfl | mem
    · exact absurd here (by decide)
    · cases List.mem_singleton.mp mem
      exact absurd here (by decide)

/-- Two sources that have one key. -/
def merged : FileSystem := aliases "int f() \x7b\x7d\nint g() \x7b\x7d\n" "int g() \x7b\x7d\n"

/-- What is there under that key. -/
def versions : List FileVersion := [
  ⟨Path.ofNames firstAlias.1, "int f() \x7b\x7d\nint g() \x7b\x7d\n".toUTF8⟩,
  ⟨Path.ofNames secondAlias.1, "int g() \x7b\x7d\n".toUTF8⟩]

/-- The reader that can read both. -/
def mergedReader : FileReader := Sample.reader (versions.zip [
  [Sample.function "f" 0, Sample.function "g" 11], [Sample.function "g" 0]])

/-- Where two sources have one key, the second one drops what the first one contributed, so that the
index is not the union. -/
theorem not_isUnion_merged : ∃ w' a,
    (indexPath mergedReader "/i.json" "/").runOn ⟨merged, []⟩ =
      (.ok { root := "/", scanned := 2, indexed := 2 }, w') ∧
    (merged.sources "/").filterMap (merged.readable? mergedReader) = versions ∧
    w'.files.storedAtlas "/i.json" = .ok a ∧ ¬ a.IsUnion mergedReader versions := by
  have canonical : merged.canonicalPath "/" = .ok "/" := rfl
  have stored : merged.storedAtlas "/i.json" = .ok .empty := rfl
  have saves : merged.Saves "/i.json" merged indexPlace := saves_aliases _ _
  obtain ⟨events, ran⟩ := indexPath_of_saves (w := ⟨merged, []⟩) mergedReader canonical stored saves
  have held := (storedAtlas_of_indexPath canonical stored ran).2
  have new : Atlas.empty.digest? "/x\uFFFD.c" ≠
    some (Sha256.hex "int f() \x7b\x7d\nint g() \x7b\x7d\n".toUTF8) := nofun
  rw [runOver_aliases merged rfl rfl rfl rfl rfl Sample.hex_ne new] at ran held
  refine ⟨_, _, ran, rfl, held, fun union ↦ ?_⟩
  have known := union.functions "f"
  revert known
  decide +kernel

end Shared

end BuiltinAtlas
