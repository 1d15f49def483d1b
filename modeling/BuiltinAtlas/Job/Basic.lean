import BuiltinAtlas.Job.Failure

/-!
# Jobs

A `Job` works on a `World`: the files, and the events that are worth a report, in the order in which
they happen. When a job fails, what it has done so far stays done.
-/

namespace BuiltinAtlas

/-- What an indexing run did. -/
structure Report where
  root : String
  scanned : Nat := 0
  indexed : Nat := 0
  unchanged : Nat := 0
  failed : Nat := 0
  deriving DecidableEq

/-- Something worth a report. -/
inductive Event where
  /-- A file could not be indexed. -/
  | skipped (reason : String)
  /-- An index was saved. -/
  | updated (report : Report)
  /-- It was asked whether a file may be replaced. -/
  | asked (path : RawText)
  /-- A file was not replaced. -/
  | kept (path : RawText)
  | installed (path : RawText)
  deriving DecidableEq

/-- What jobs work on. -/
structure World where
  files : FileSystem
  events : List Event := []

/-- Work that may fail. -/
abbrev Job (α : Type) := ExceptT Failure (StateM World) α

namespace Job

/-- Do the work. -/
def runOn {α : Type} (t : Job α) (w : World) : Except Failure α × World := (t.run).run w

/-- The files. -/
def files : Job FileSystem := return (← get).files

/-- Report an event. -/
def note (e : Event) : Job Unit := modify fun w ↦ { w with events := w.events ++ [e] }

/-- Fail for a reason. -/
def fail {α : Type} (f : Failure) : Job α := throw f

/-- A result, or the failure that its error means. -/
def ofExcept {α ε : Type} (r : Except ε α) (failure : ε → Failure) : Job α :=
  match r with
  | .ok a => return a
  | .error e => fail (failure e)

/-- Change the files, if that succeeds. -/
def change (operation : FileSystem → Except FileError FileSystem) (failure : FileError → Failure) :
    Job Unit := do
  let fs ← ofExcept (operation (← files)) failure
  modify fun w ↦ { w with files := fs }

/-- Create a directory and those around it that are missing. -/
def createDirectoryAll (path : RawText) (failure : FileError → Failure) : Job Unit := do
  let (result, fs) := (← files).createDirectoryAll path
  modify fun w ↦ { w with files := fs }
  ofExcept result failure

end Job

end BuiltinAtlas
