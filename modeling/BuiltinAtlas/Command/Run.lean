import BuiltinAtlas.Command.Answers
import BuiltinAtlas.Command.Shorthand
import BuiltinAtlas.Command.Verbosity
import BuiltinAtlas.Index.Query
import BuiltinAtlas.Index.Update

/-!
# Running a command

`runProgram` is the program: from its arguments, its surroundings and the files it makes its output
and the files as they are then. It prints nothing before it has succeeded.
-/

namespace BuiltinAtlas

/-! What runs the program gives paths as texts, and is shown them as texts. -/

instance : Coe RawText String := ⟨RawText.text⟩

instance : Coe (List String) (List RawText) := ⟨List.map RawText.ofText⟩

instance : Coe (List RawText) (List String) := ⟨List.map RawText.text⟩

namespace Command

open BuiltinAtlas.Json

/-- What surrounds the program when it runs. -/
structure Surroundings where
  environment : Environment
  input : ByteArray
  /-- How archives can be fetched, if at all. -/
  fetcher : Option Fetcher
  /-- Part of the name of the temporary directory, which no other program uses. -/
  label : String

/-- What came of a run. -/
structure Outcome where
  code : Nat
  output : String := ""
  failure : Option Failure := none
  /-- What happened, in order. -/
  events : List Event := []
  log : List LogEntry := []

/-- The files about which it was asked whether they may be replaced. -/
def Outcome.questions (o : Outcome) : List RawText :=
  o.events.filterMap fun | .asked path => some path | _ => none

/-- A text, which ends with a line break unless it is empty. -/
def asLines (s : String) : String :=
  if s.isEmpty || s.toList.getLast? == some '\n' then s else s ++ "\n"

/-- A path on a line of its own, or nothing for the empty path. -/
def pathLine (path : String) : String := if path.isEmpty then "" else path ++ "\n"

/-- The text of a snapshot, which is in a file, or the input if the path is a dash. -/
def snapshotText (input : ByteArray) (path : String) : Job String := do
  if Path.trim path = "-" then
    match String.fromUTF8? input with
    | some s => return s
    | none => Job.fail .unreadableInput
  else Job.ofExcept ((← Job.files).readText path) fun _ ↦ .unreadableSnapshot path

/-- Read a snapshot. -/
def readSnapshot (input : ByteArray) (path : String) : Job Snapshot := do
  Job.ofExcept (Snapshot.read (← snapshotText input path)) .malformedSnapshot

/-- The directory in which an archive is kept while it is unpacked. -/
def Surroundings.scratch (s : Surroundings) : RawText :=
  Path.append s.environment.temporary ("cinspect-download-" ++ s.label : String)

/-- Do what a command says, with the index at a path. Returns what is printed. -/
def perform (s : Surroundings) (index : RawText) : Request → Job String
  | .index paths maxErrors _ => do
    let reports ← indexPaths (tolerantReader maxErrors) index (paths.map .ofText)
    return (Document.array (reports.map (·.document))).pretty ++ "\n"
  | .source symbol => return asLines (← sourceOf index symbol)
  | .file symbol => return pathLine (← fileOf index symbol)
  | .inspect path onlyFile => do
    let snapshot ← readSnapshot s.input path
    if onlyFile then return pathLine (← fileOfObject index snapshot)
    else return asLines (← sourceOfObject index snapshot)
  | .stats => return ((← loadExistingAtlas index).statistics index.text).document.pretty ++ "\n"
  | .download url yes => do
    match s.environment.downloads? with
    | none => Job.fail .noHome
    | some target =>
      let consent : Consent := if yes then .always else .asking (answersIn s.input)
      let written ← downloadIndexes s.fetcher s.scratch url target consent
      return String.join (written.map fun path ↦ pathLine path.text)

/-- Whether a command is verbose. -/
def Request.isVerbose : Request → Bool
  | .index _ _ verbose => verbose
  | .source _ | .file _ | .inspect .. | .stats | .download .. => false

/-- Run a command. -/
def Invocation.run (i : Invocation) (s : Surroundings) (fs : FileSystem) : Outcome × FileSystem :=
  let job : Job String := match s.environment.index? i.index with
    | none => Job.fail .noHome
    | some index => perform s index i.command
  let (result, world) := job.runOn { files := fs }
  let verbose := i.command.isVerbose
  let log := (world.events.filterMap (logged? verbose)).filter
    (·.passes (.ofEnvironment s.environment verbose))
  match result with
  | .ok output => ({ code := 0, output := output, events := world.events, log := log }, world.files)
  | .error f => ({ code := 1, failure := some f, events := world.events, log := log }, world.files)

/-- The paths of the files that a command may look at, apart from those around them. -/
def Invocation.paths (i : Invocation) (env : Environment) : List String :=
  (env.index? i.index).toList ++ match i.command with
  | .index paths _ _ => paths
  | .inspect path _ => [path]
  | .download url _ => String.ofList (url.toList.drop 7) :: env.downloads?.toList
  | .source _ | .file _ | .stats => []

/-- Whether a command has a use for the whole input. -/
def Invocation.readsInput (i : Invocation) : Bool :=
  match i.command with
  | .inspect path _ => Path.trim path = "-"
  | _ => false

/-- The program. Its arguments begin with its own name; a mere symbol is short for a command. -/
def runProgram (arguments : List String) (s : Surroundings) (fs : FileSystem) :
    Outcome × FileSystem :=
  match parseArguments (withSourceCommand arguments) with
  | .error refusal => ({ code := refusal.code }, fs)
  | .ok i => i.run s fs

end Command

end BuiltinAtlas
