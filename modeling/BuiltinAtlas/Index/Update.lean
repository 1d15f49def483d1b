import BuiltinAtlas.Construct.Reader
import BuiltinAtlas.Digest.Sha256
import BuiltinAtlas.Files.Scan
import BuiltinAtlas.Index.Store
import BuiltinAtlas.Survey.Findings

/-!
# Indexing

`indexPath` takes the C sources below a path into an index. A file whose digest is the recorded one
is left out; a file that cannot be read keeps what it contributed before, and the run goes on.
-/

namespace BuiltinAtlas

/-- What became of a file. -/
inductive FileOutcome where
  | unchanged
  /-- The file was indexed, and this is the new atlas. -/
  | indexed (atlas : Atlas)
  | failed (reason : String)

/-- Take a file into an atlas. -/
def Atlas.takeIn (reader : FileReader) (a : Atlas) (f : SourceFile) : FileOutcome :=
  let digest := Sha256.hex f.bytes
  if a.digest? f.path = some digest then .unchanged
  else match reader f with
    | .error e => .failed (e.message f.path)
    | .ok c => .indexed (a.replaceFile f.path (c.survey f) digest)

/-- The state of an indexing run. -/
structure Run where
  atlas : Atlas
  report : Report
  /-- The files that failed, the last one first. -/
  skipped : List String := []

/-- Take the file at a path into account. -/
def Run.addFile (reader : FileReader) (fs : FileSystem) (r : Run) (path : RawText) : Run :=
  let outcome : FileOutcome := match fs.read path with
    | .error e => .failed (Failure.files path e).message
    | .ok bytes => r.atlas.takeIn reader (.atPath path bytes)
  let report := { r.report with scanned := r.report.scanned + 1 }
  match outcome with
  | .unchanged => { r with report := { report with unchanged := report.unchanged + 1 } }
  | .indexed atlas =>
    { r with atlas := atlas, report := { report with indexed := report.indexed + 1 } }
  | .failed reason =>
    { r with
      report := { report with failed := report.failed + 1 }
      skipped := reason :: r.skipped }

/-- The files that an indexing run visits: the C sources of a directory, or a file itself. -/
def FileSystem.visited (fs : FileSystem) (root : RawText) : List RawText :=
  if fs.isDirectory root then fs.sources root else [root]

/-- Take all files below a path into the index at `index`. -/
def indexPath (reader : FileReader) (index path : RawText) : Job Report := do
  let fs ← Job.files
  if !fs.pathExists path then Job.fail (.pathNotFound path)
  let root ← Job.ofExcept (fs.canonicalPath path) (.files path)
  let atlas ← loadAtlas index
  let run := (fs.visited root).foldl (Run.addFile reader fs) ⟨atlas, { root := root.text }, []⟩
  run.skipped.reverse.forM fun reason ↦ Job.note (.skipped reason)
  saveAtlas index run.atlas
  Job.note (.updated run.report)
  return run.report

/-- Take several paths into an index, one after the other, until one fails. -/
def indexPaths (reader : FileReader) (index : RawText) (paths : List RawText) : Job (List Report) :=
  paths.mapM (indexPath reader index)

open BuiltinAtlas.Json

/-- The written form of a report. -/
def Report.document (r : Report) : Document :=
  .object [
    ("root", .text r.root),
    ("scanned_files", .number r.scanned),
    ("indexed_files", .number r.indexed),
    ("unchanged_files", .number r.unchanged),
    ("failed_files", .number r.failed)]

end BuiltinAtlas
