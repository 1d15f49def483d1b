import BuiltinAtlas.Command.Run
import BuiltinAtlas.Files.Change

/-!
# The command line

The files that a command may look at are read, the command runs on them, and what it has changed is
written. Questions are put one by one: the command runs anew with each answer.
-/

namespace BuiltinAtlas.Command

/-- Read the files at names below a directory into a file system, with everything in them if they
are directories and `deep` is set. -/
partial def loadNames (deep : Bool) (fs : FileSystem) (around : RawText) :
    List RawText → IO FileSystem
  | [] => do
    if !deep then return fs
    let entries ← (do (← IO.FS.realPath around.text).readDir) <|> pure #[]
    entries.foldlM (fun fs e ↦ loadNames deep fs around [e.fileName]) fs
  | name :: rest => do
    if name = "." then return ← loadNames deep fs around rest
    if name = ".." then return ← loadNames deep fs ((Path.parent? around).getD "/") rest
    let path := Path.append around name
    let entry : IO.FS.DirEntry := ⟨around.text, name.text⟩
    match ← entry.path.symlinkMetadata.toBaseIO with
    | .error _ => return fs
    | .ok data => match data.type with
      | .dir => loadNames deep (fs.createDirectory path |>.toOption.getD fs) path rest
      | .file =>
        let content ← IO.FS.readBinFile path.text
        return (fs.write path content).toOption.getD fs
      | .symlink =>
        let target := (← IO.FS.realPath path.text).toString
        match fs.createLink path target with
        | .ok fs => loadNames deep fs "/" (Path.names target ++ rest)
        | .error _ => return fs
      | .other => return fs

/-- Read the files at a path. -/
def loadPath (deep : Bool) (here : String) (fs : FileSystem) (path : String) : IO FileSystem :=
  loadNames deep fs "/" (Path.names (Path.append here path))

/-- Read a line, with its line break. -/
partial def readLine (input : IO.FS.Stream) (line : ByteArray) : IO ByteArray := do
  let bytes ← input.read 1
  if bytes.isEmpty then return line
  let line := line ++ bytes
  if bytes[0]? = some 10 then return line else readLine input line

/-- Read all lines. -/
partial def readLines (input : IO.FS.Stream) (lines : ByteArray) : IO ByteArray := do
  let line ← readLine input .empty
  if line.isEmpty then return lines else readLines input (lines ++ line)

/-- Run the program, and put the questions that have not been put yet. -/
partial def converse (arguments : List String) (fs : FileSystem) (s : Surroundings) (put : Nat) :
    IO (Outcome × FileSystem) := do
  let (outcome, after) := runProgram arguments s fs
  match outcome.questions[put]? with
  | none => return (outcome, after)
  | some path =>
    IO.eprint s!"{path.text} exists. Overwrite? [y/N] "
    let line ← readLine (← IO.getStdin) .empty
    converse arguments fs { s with input := s.input ++ line } (put + 1)

/-- The environment variables that matter. -/
def readEnvironment : IO Environment := do
  let names := ["HOME", "CINSPECT_INDEX", "RUST_LOG", "TMPDIR"]
  let values ← names.mapM fun name ↦ return (name, ← IO.getEnv name)
  return .ofList (values.filterMap fun (name, value) ↦ value.map (name, ·))

/-- Read the files that a command may look at. -/
def loadFiles (i : Invocation) (env : Environment) : IO FileSystem := do
  let here := (← IO.currentDir).toString
  let fs ← [here, env.temporary].foldlM (loadPath false here) .empty
  let fs ← (i.paths env).foldlM (loadPath true here) fs
  match fs.locate here true with
  | .ok place => return { fs with workingDirectory := place }
  | .error _ => return fs

/-- Carry a change out. -/
def Change.perform : Change → IO Unit
  | .createDirectory path => IO.FS.createDirAll path.text
  | .writeFile path content => IO.FS.writeBinFile path.text content

/-- Run a command on the files that there are. -/
def Invocation.perform (i : Invocation) (arguments : List String) : IO UInt32 := do
  let environment ← readEnvironment
  let fs ← loadFiles i environment
  let input ← if i.readsInput then readLines (← IO.getStdin) .empty else pure .empty
  let label := toString (← IO.rand 0 999999)
  let s : Surroundings := ⟨environment, input, some fetchFile, label⟩
  if let .download url _ := i.command then
    let archive := archiveIn s.scratch
    IO.eprintln s!"[cinspect] downloading {url} to {archive.text}"
  let (outcome, after) ← converse arguments fs s 0
  (fs.changesTo after).forM Change.perform
  outcome.log.forM fun e ↦ IO.eprintln s!"{e.level.name} {e.text}"
  IO.print outcome.output
  if let some f := outcome.failure then IO.eprintln s!"Error: {f.message}"
  return outcome.code.toUInt32

end BuiltinAtlas.Command

open BuiltinAtlas.Command

/-- The program. -/
def main (arguments : List String) : IO UInt32 := do
  let arguments := "cinspect" :: arguments
  match parseArguments (withSourceCommand arguments) with
  | .ok i => i.perform arguments
  | .error refusal =>
    IO.eprintln "usage: cinspect [--index FILE] COMMAND"
    return refusal.code.toUInt32
