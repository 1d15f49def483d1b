import BuiltinAtlas.Atlas.Format
import BuiltinAtlas.Job.Basic

/-!
# The index file

An atlas is kept in an index file. `loadAtlas` takes a missing file for an empty atlas,
`loadExistingAtlas` does not. `saveAtlas` writes the whole file anew.
-/

namespace BuiltinAtlas

/-- Read an index file. -/
def FileSystem.readAtlas (fs : FileSystem) (path : RawText) : Except Failure Atlas :=
  match fs.readText path with
  | .error e => .error (.files path e)
  | .ok s =>
    match Atlas.read s with
    | .error f => .error (.malformedIndex path f)
    | .ok a => .ok a

/-- Read an index file. If there is none, the atlas is empty. -/
def loadAtlas (path : RawText) : Job Atlas := do
  let fs ← Job.files
  if fs.isFile path then Job.ofExcept (fs.readAtlas path) id else return .empty

/-- Read an index file, which must exist. -/
def loadExistingAtlas (path : RawText) : Job Atlas := do
  let fs ← Job.files
  if fs.isFile path then Job.ofExcept (fs.readAtlas path) id else Job.fail (.indexNotFound path)

/-- Write an index file, and create the directory around it. -/
def saveAtlas (path : RawText) (a : Atlas) : Job Unit := do
  match Path.parent? path with
  | none => pure ()
  | some around =>
    if !around.isEmpty then Job.createDirectoryAll around (.files around)
  Job.change (·.write path a.write.toUTF8) (.files path)

end BuiltinAtlas
