import BuiltinAtlas.Proofs.Index.Failing
import BuiltinAtlas.Proofs.Syntax.Node

/-!
# The limit of faults

The limit of faults decides whether a file is read, and nothing else (`limitedReader_limits`): a
file fails if its tree has more faults than the limit, and else is read in the same way under all
limits. In two runs from one index over one directory the same files are left out as up to date, a
file that fails under the higher limit fails under the lower one, and a file that is indexed under
both contributes the same. For what becomes of a file in a run (`Run.outcome`) depends on the
digest under its key and on whether it can be read, and files with other keys that came before leave
both alone. Files with one key need not (`Strictness.merged`).
-/

namespace BuiltinAtlas

private theorem judge_error_iff {limit : Nat} {path : String} {source : ByteArray}
    {tree : Option Syntax.Node} : (∃ e, judge limit path source tree = .error e) ↔
      ∀ root, tree = some root → limit < root.preorder.countP Syntax.Node.isFault := by
  cases tree with
  | none => simp [judge]
  | some root =>
    rw [judge, root.faults_eq]
    split
    · next beyond => simp [beyond]
    · next within => simp [within]

variable {parse? : ByteArray → Option Syntax.Node}

private theorem limitedReader_error_iff {limit : Nat} {f : SourceFile} :
    (∃ e, limitedReader parse? limit f = .error e) ↔
      ∀ root, parse? (Source.expandHeadMacros f.bytes) = some root →
        limit < root.preorder.countP Syntax.Node.isFault := by
  simp only [limitedReader]
  exact judge_error_iff

private theorem judge_of_le {limit limit' : Nat} (le : limit ≤ limit') {path : String}
    {source : ByteArray} {tree : Option Syntax.Node} {c : Construct}
    (h : judge limit path source tree = .ok c) :
    judge limit' path source tree = .ok c := by
  cases tree with
  | none => cases h
  | some root =>
    rw [judge] at h ⊢
    split at h
    · cases h
    · next within =>
      rw [if_neg fun beyond ↦ within (Nat.lt_of_le_of_lt le beyond)]
      exact h

private theorem limitedReader_within_of_le {limit limit' : Nat} (le : limit ≤ limit') :
    (limitedReader parse? limit).Within (limitedReader parse? limit') :=
  fun _ _ h ↦ judge_of_le le h

namespace Run

/-- What becomes of the file at a path when a run takes it into account. -/
def outcome (reader : FileReader) (fs : FileSystem) (r : Run) (path : RawText) : FileOutcome :=
  match fs.read path with
  | .error e => .failed (Failure.files path e).message
  | .ok bytes => r.atlas.takeIn reader (.atPath path bytes)

variable {reader : FileReader} {fs : FileSystem} {r r' : Run} {path : RawText}
  {paths : List RawText} {a : Atlas}

private theorem addFile_eq_outcome (reader : FileReader) (fs : FileSystem) (r : Run)
    (path : RawText) :
    r.addFile reader fs path =
      match r.outcome reader fs path with
      | .unchanged => { r with report := { r.report with
          scanned := r.report.scanned + 1
          unchanged := r.report.unchanged + 1 } }
      | .indexed atlas => { r with
          atlas := atlas
          report := { r.report with
            scanned := r.report.scanned + 1
            indexed := r.report.indexed + 1 } }
      | .failed reason => { r with
          report := { r.report with
            scanned := r.report.scanned + 1
            failed := r.report.failed + 1 }
          skipped := reason :: r.skipped } := rfl

private theorem outcome_eq_unchanged_iff :
    r.outcome reader fs path = .unchanged ↔ r.atlas.upToDate fs path = true := by
  rw [outcome, Atlas.upToDate]
  cases fs.read path with
  | error e => simp
  | ok bytes =>
    simp only [Atlas.takeIn, decide_eq_true_eq]
    by_cases same : r.atlas.digest? path.text = some (Sha256.hex bytes)
    · simp [SourceFile.atPath, same]
    · cases reader (.atPath path bytes) <;> simp [SourceFile.atPath, same]

private theorem exists_outcome_eq_failed_iff :
    (∃ reason, r.outcome reader fs path = .failed reason) ↔
      fs.fails reader r.atlas path = true := by
  rw [FileSystem.fails, Bool.and_eq_true, Bool.not_eq_true', Atlas.upToDate,
    FileSystem.readable?, outcome]
  cases fs.read path with
  | error e => simp
  | ok bytes =>
    simp only [Atlas.takeIn]
    by_cases same : r.atlas.digest? path.text = some (Sha256.hex bytes)
    · simp [SourceFile.atPath, same]
    · cases reader (.atPath path bytes) <;> simp [SourceFile.atPath, same]

private theorem exists_of_outcome_eq_indexed (h : r.outcome reader fs path = .indexed a) :
    ∃ bytes c, fs.read path = .ok bytes ∧ reader (.atPath path bytes) = .ok c ∧
      a = r.atlas.replaceFile path.text (c.survey (.atPath path bytes)) (Sha256.hex bytes) := by
  rw [outcome] at h
  split at h
  · cases h
  · next bytes there =>
    simp only [Atlas.takeIn] at h
    split at h
    · cases h
    · split at h
      · cases h
      · next c readable =>
        cases h
        exact ⟨bytes, c, there, readable, rfl⟩

private theorem unchanged_addFile (reader : FileReader) (fs : FileSystem) (r : Run)
    (path : RawText) :
    (r.addFile reader fs path).report.unchanged =
      r.report.unchanged + if r.atlas.upToDate fs path then 1 else 0 := by
  rw [addFile_eq_outcome]
  by_cases known : r.atlas.upToDate fs path = true
  · rw [outcome_eq_unchanged_iff.mpr known, if_pos known]
  · rw [if_neg known, Nat.add_zero]
    cases result : r.outcome reader fs path with
    | unchanged => exact absurd (outcome_eq_unchanged_iff.mp result) known
    | indexed a => rfl
    | failed reason => rfl

private theorem failed_addFile (reader : FileReader) (fs : FileSystem) (r : Run) (path : RawText) :
    (r.addFile reader fs path).report.failed =
      r.report.failed + if fs.fails reader r.atlas path then 1 else 0 := by
  rw [addFile_eq_outcome]
  by_cases fails : fs.fails reader r.atlas path = true
  · obtain ⟨reason, failed⟩ := exists_outcome_eq_failed_iff.mpr fails
    rw [failed, if_pos fails]
  · rw [if_neg fails, Nat.add_zero]
    cases result : r.outcome reader fs path with
    | unchanged => rfl
    | indexed a => rfl
    | failed reason => exact absurd (exists_outcome_eq_failed_iff.mp ⟨reason, result⟩) fails

/-- Of two runs the second one has left out the same files, and has failed on no more. They agree on
the digests of the files to come. -/
structure Abreast (r r' : Run) (paths : List RawText) : Prop where
  digest? : ∀ path ∈ paths, r'.atlas.digest? path.text = r.atlas.digest? path.text
  unchanged : r'.report.unchanged = r.report.unchanged
  failed : r'.report.failed ≤ r.report.failed

/-- What becomes of a file in two runs: if it fails in the second one it fails in the first one, it
is left out in both or in none, and if it is indexed in both, it is read in the same way and
contributes the same findings and the same digest. -/
structure Agree (reader reader' : FileReader) (fs : FileSystem) (r r' : Run)
    (path : RawText) : Prop where
  failed : (∃ reason, r'.outcome reader' fs path = .failed reason) →
    ∃ reason, r.outcome reader fs path = .failed reason
  unchanged : r'.outcome reader' fs path = .unchanged ↔ r.outcome reader fs path = .unchanged
  indexed (a a' : Atlas) : r.outcome reader fs path = .indexed a →
    r'.outcome reader' fs path = .indexed a' →
    ∃ bytes c, fs.read path = .ok bytes ∧
      reader (.atPath path bytes) = .ok c ∧ reader' (.atPath path bytes) = .ok c ∧
      a = r.atlas.replaceFile path.text (c.survey (.atPath path bytes)) (Sha256.hex bytes) ∧
      a' = r'.atlas.replaceFile path.text (c.survey (.atPath path bytes)) (Sha256.hex bytes)

variable {reader' : FileReader}

/-- Whether a file is up to date is the same in both runs. -/
theorem Abreast.upToDate (h : Abreast r r' paths) (mem : path ∈ paths) (fs : FileSystem) :
    r'.atlas.upToDate fs path = r.atlas.upToDate fs path := by
  rw [Atlas.upToDate, Atlas.upToDate, h.digest? path mem]

/-- If the second run has a reader that reads more, what fails in it fails in the first one. -/
theorem Abreast.fails (h : Abreast r r' paths) (within : reader.Within reader')
    (mem : path ∈ paths) (fails : fs.fails reader' r'.atlas path = true) :
    fs.fails reader r.atlas path = true := by
  rw [FileSystem.fails_iff, h.upToDate mem] at fails
  rw [FileSystem.fails_iff]
  refine ⟨fails.1, ?_⟩
  rintro ⟨bytes, there, c, readable⟩
  exact fails.2 ⟨bytes, there, c, within _ c readable⟩

/-- Runs that are abreast agree on the files to come, if the second one has a reader that reads
more. -/
theorem Abreast.agree (h : Abreast r r' paths) (within : reader.Within reader')
    (mem : path ∈ paths) : Agree reader reader' fs r r' path where
  failed failed :=
    exists_outcome_eq_failed_iff.mpr (h.fails within mem (exists_outcome_eq_failed_iff.mp failed))
  unchanged := by rw [outcome_eq_unchanged_iff, outcome_eq_unchanged_iff, h.upToDate mem]
  indexed a a' indexed indexed' := by
    obtain ⟨bytes, c, there, readable, rfl⟩ := exists_of_outcome_eq_indexed indexed
    obtain ⟨bytes', c', there', readable', rfl⟩ := exists_of_outcome_eq_indexed indexed'
    cases there.symm.trans there'
    cases (within _ c readable).symm.trans readable'
    exact ⟨bytes, c, there, readable, readable', rfl, rfl⟩

/-- Runs stay abreast when both take a file into account whose key does not come again. -/
theorem Abreast.addFile (h : Abreast r r' (path :: paths)) (within : reader.Within reader')
    (fs : FileSystem) (once : path.text ∉ paths.map RawText.text) :
    Abreast (r.addFile reader fs path) (r'.addFile reader' fs path) paths where
  digest? other mem := by
    have elsewhere : other.text ≠ path.text := fun same ↦
      once (same ▸ List.mem_map_of_mem mem)
    rw [digest?_addFile_of_ne elsewhere, digest?_addFile_of_ne elsewhere,
      h.digest? other (List.mem_cons_of_mem _ mem)]
  unchanged := by
    rw [unchanged_addFile, unchanged_addFile, h.unchanged, h.upToDate List.mem_cons_self]
  failed := by
    rw [failed_addFile, failed_addFile]
    apply Nat.add_le_add h.failed
    by_cases fails : fs.fails reader' r'.atlas path = true
    · rw [if_pos fails, if_pos (h.fails within List.mem_cons_self fails)]
    · rw [if_neg fails]
      exact Nat.zero_le _

private theorem Abreast.foldl_addFile {rest : List RawText} (h : Abreast r r' (paths ++ rest))
    (within : reader.Within reader') (fs : FileSystem)
    (distinct : ((paths ++ rest).map RawText.text).Nodup) :
    Abreast (paths.foldl (Run.addFile reader fs) r) (paths.foldl (Run.addFile reader' fs) r')
      rest := by
  induction paths generalizing r r' with
  | nil => exact h
  | cons path paths ih =>
    obtain ⟨once, distinct⟩ := List.nodup_cons.mp distinct
    exact ih (h.addFile within fs once) distinct

end Run

namespace FileSystem

/-- An indexing run, up to some of the files that are visited below its root. -/
def runThrough (fs : FileSystem) (reader : FileReader) (root : RawText) (a : Atlas)
    (files : List RawText) : Run :=
  files.foldl (Run.addFile reader fs) ⟨a, { root := root.text }, []⟩

private theorem abreast_runThrough {fs : FileSystem} {reader reader' : FileReader} {root : RawText}
    {a : Atlas} {before after : List RawText} (within : reader.Within reader')
    (distinct : ((fs.visited root).map RawText.text).Nodup)
    (split : fs.visited root = before ++ after) :
    Run.Abreast (fs.runThrough reader root a before) (fs.runThrough reader' root a before)
      after := by
  have start : Run.Abreast ⟨a, { root := root.text }, []⟩ ⟨a, { root := root.text }, []⟩
      (before ++ after) :=
    ⟨fun _ _ ↦ rfl, rfl, Nat.le_refl _⟩
  exact start.foldl_addFile within fs (split ▸ distinct)

end FileSystem

/-- Whatever the parser is, a file fails if its tree has more faults than the limit, or if it has
none, and is read in the same way under all limits that let it pass. So of two runs over one root
from one atlas, where files have different keys and the second run has a limit that is not lower,
the second one leaves out the same files, fails on no other files, and takes the same from each file
that both index. -/
theorem limitedReader_limits (parse? : ByteArray → Option Syntax.Node) :
    (∀ limit f, (∃ e, limitedReader parse? limit f = .error e) ↔
      ∀ root, parse? (Source.expandHeadMacros f.bytes) = some root →
        limit < root.preorder.countP Syntax.Node.isFault) ∧
    (∀ limit limit' f c c', limitedReader parse? limit f = .ok c →
      limitedReader parse? limit' f = .ok c' → c = c') ∧
    ∀ (fs : FileSystem) (root : RawText) (a : Atlas) (limit limit' : Nat), limit ≤ limit' →
      ((fs.visited root).map RawText.text).Nodup →
      (∀ before file after, fs.visited root = before ++ file :: after →
        Run.Agree (limitedReader parse? limit) (limitedReader parse? limit') fs
          (fs.runThrough (limitedReader parse? limit) root a before)
          (fs.runThrough (limitedReader parse? limit') root a before) file) ∧
      Run.Abreast (fs.runOver (limitedReader parse? limit) root a)
        (fs.runOver (limitedReader parse? limit') root a) [] := by
  refine ⟨fun _ _ ↦ limitedReader_error_iff, fun limit limit' f c c' read read' ↦ ?_,
    fun fs root a limit limit' le distinct ↦ ⟨fun before file after split ↦ ?_, ?_⟩⟩
  · rcases Nat.le_total limit limit' with le | le
    · exact Except.ok.inj ((limitedReader_within_of_le le f c read).symm.trans read')
    · exact Except.ok.inj (read.symm.trans (limitedReader_within_of_le le f c' read'))
  · exact (FileSystem.abreast_runThrough (limitedReader_within_of_le le) distinct split).agree
      (limitedReader_within_of_le le) List.mem_cons_self
  · exact FileSystem.abreast_runThrough (limitedReader_within_of_le le) distinct
      (List.append_nil _).symm

/-! Of two sources the first one is up to date, and the second one has a brace too many. -/

namespace Strictness

open Sample

/-- The first source. -/
def first : FileVersion := ⟨"/a.c", "int f() \x7b\x7d\n".toUTF8⟩

/-- The sources. -/
def files : FileSystem :=
  (FileSystem.empty.putFile firstPlace first.bytes).putFile secondPlace
    "int g() \x7b\x7d \x7d\n".toUTF8

/-- The atlas before. -/
def known : Atlas where
  functions := .ofList [("f", ⟨"int f() \x7b\x7d", "/a.c"⟩)]
  digests := .ofList [(first.key, Sha256.hex first.bytes)]

/-- The first source is left out under both limits, and if the second one fails with one fault
allowed, it fails with none. -/
theorem limitedReader_limits_files :
    (files.runThrough (tolerantReader 1) "/" known []).outcome (tolerantReader 1) files first.path =
        .unchanged ∧
      Run.Agree (tolerantReader 0) (tolerantReader 1) files
        (files.runThrough (tolerantReader 0) "/" known [first.path])
        (files.runThrough (tolerantReader 1) "/" known [first.path]) "/b.c" := by
  have visited : files.visited "/" = [first.path, ↑"/b.c"] := rfl
  have distinct : ((files.visited "/").map RawText.text).Nodup := by decide +kernel
  obtain ⟨-, -, runs⟩ := limitedReader_limits Syntax.parse?
  obtain ⟨agree, -⟩ := runs files "/" known 0 1 (Nat.zero_le 1) distinct
  have upToDate : known.upToDate files first.path = true :=
    Atlas.upToDate_iff.mpr ⟨first.bytes, rfl, rfl⟩
  have leftOut : (files.runThrough (tolerantReader 0) "/" known []).outcome (tolerantReader 0) files
      first.path = .unchanged := Run.outcome_eq_unchanged_iff.mpr upToDate
  exact ⟨(agree [] first.path [↑"/b.c"] visited).unchanged.mpr leftOut,
    agree [first.path] "/b.c" [] visited⟩

/-- Two sources that have one key and the same content, which is a brace too many. -/
def merged : FileSystem := aliases "\x7d\n" "\x7d\n"

/-- What the C grammar makes of it. -/
def treeOf? (text : ByteArray) : Option Syntax.Node :=
  if text = "\x7d\n".toUTF8 then
    some (.mk .other true false 0 2 [(none, .mk .error true false 0 1 [
      (none, .mk .other false false 0 1 [])])])
  else none

/-- Where two sources have one key and the same content, both fail under the first limit, but under
the second one the first source is indexed and the second one is left out. -/
theorem limitedReader_limits_merged :
    (merged.runOver (limitedReader treeOf? 0) "/" .empty).report =
        { root := "/", scanned := 2, failed := 2 } ∧
      (merged.runOver (limitedReader treeOf? 1) "/" .empty).report =
        { root := "/", scanned := 2, indexed := 1, unchanged := 1 } := by
  constructor
  · rfl
  · have visited : merged.visited "/" = [Path.ofNames firstAlias.1, Path.ofNames secondAlias.1] :=
      rfl
    have there : merged.read (Path.ofNames firstAlias.1) = .ok "\x7d\n".toUTF8 := rfl
    have there' : merged.read (Path.ofNames secondAlias.1) = .ok "\x7d\n".toUTF8 := rfl
    rw [FileSystem.runOver, visited, List.foldl_cons, List.foldl_cons, List.foldl_nil,
      Run.addFile_of_readable rfl there rfl, Run.addFile_of_upToDate]
    · rfl
    · refine Atlas.upToDate_iff.mpr ⟨_, there', ?_⟩
      rw [Atlas.digest?_replaceFile, text_firstAlias, text_secondAlias, if_pos rfl]

end Strictness

end BuiltinAtlas
