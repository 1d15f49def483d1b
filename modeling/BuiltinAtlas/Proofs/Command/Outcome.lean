import BuiltinAtlas.Command.Run

/-!
# The outcome of a command

A command is some work, of which `Outcome.ofResult` makes the outcome of the run. The command itself
counts for nothing else but whether it is verbose.
-/

namespace BuiltinAtlas.Command

/-- The work of a command, for which the path of the index has to be known. -/
def Invocation.job (i : Invocation) (s : Surroundings) : Job String :=
  match s.environment.index? i.index with
  | none => Job.fail .noHome
  | some index => Command.perform s index i.command

/-- The outcome of a run, and the files after it, if some work had a result and left a world. -/
def Outcome.ofResult (env : Environment) (verbose : Bool) (ran : Except Failure String × World) :
    Outcome × FileSystem :=
  let log := (ran.2.events.filterMap (logged? verbose)).filter
    (·.passes (.ofEnvironment env verbose))
  match ran.1 with
  | .ok output => ({ code := 0, output := output, events := ran.2.events, log := log }, ran.2.files)
  | .error f => ({ code := 1, failure := some f, events := ran.2.events, log := log }, ran.2.files)

variable {env : Environment} {verbose : Bool} {ran : Except Failure String × World}

/-- The files after a run are those of the world that the work leaves. -/
theorem Outcome.files_ofResult : (ofResult env verbose ran).2 = ran.2.files := by
  rcases ran with ⟨_ | _, world⟩ <;> rfl

/-- The outcome of work is no usage error. -/
theorem Outcome.code_ofResult_ne_two : (ofResult env verbose ran).1.code ≠ 2 := by
  rcases ran with ⟨_ | _, world⟩ <;> simp [ofResult]

/-- A run makes the outcome of the work. -/
theorem Invocation.run_eq (i : Invocation) (s : Surroundings) (fs : FileSystem) :
    i.run s fs =
      Outcome.ofResult s.environment i.command.isVerbose ((i.job s).runOn { files := fs }) :=
  rfl

end BuiltinAtlas.Command
