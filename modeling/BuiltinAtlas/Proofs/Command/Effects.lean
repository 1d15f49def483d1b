import BuiltinAtlas.Proofs.Command.Outcome
import BuiltinAtlas.Proofs.Index.Footprint
import BuiltinAtlas.Proofs.Index.Query
import BuiltinAtlas.Proofs.Job.Quiet

/-!
# What the program does to the files

Only indexing and downloading change files. Asking for something leaves all of them as they are,
and so do arguments that make no sense; indexing touches the index file and directories around it.
-/

namespace BuiltinAtlas

open Job (Quiet)

variable {index : String}

private theorem quiet_excerptOf (index : String) (symbol : Symbol) :
    Quiet (excerptOf index symbol) :=
  fun w ↦ by rw [excerptOf_runOn]

private theorem quiet_symbolOf (s : Snapshot) : Quiet (symbolOf s) := .ofExcept _ _

private theorem quiet_loadExistingAtlas (index : String) : Quiet (loadExistingAtlas index) :=
  fun w ↦ by rw [loadExistingAtlas_runOn]

namespace Command

/-- Whether a command only asks for something. -/
def Request.isQuestion : Request → Bool
  | .source _ | .file _ | .inspect .. | .stats => true
  | .index .. | .download .. => false

variable {s : Surroundings}

private theorem quiet_readSnapshot (input : ByteArray) (path : String) :
    Quiet (readSnapshot input path) := by
  have text : Quiet (snapshotText input path) := by
    rw [snapshotText]
    split
    · split
      · exact .pure _
      · exact .fail _
    · exact Quiet.files.bind fun fs ↦ .ofExcept _ _
  exact text.bind fun t ↦ .ofExcept _ _

private theorem Request.quiet_perform (s : Surroundings) (index : String) {request : Request}
    (question : request.isQuestion = true) : Quiet (perform s index request) := by
  cases request with
  | index => cases question
  | download => cases question
  | source symbol => exact ((quiet_excerptOf index symbol).map (·.source)).map asLines
  | file symbol => exact ((quiet_excerptOf index symbol).map (·.path)).map pathLine
  | inspect path onlyFile =>
    refine (quiet_readSnapshot s.input path).bind fun snapshot ↦ ?_
    have excerpt (part : Excerpt → String) :
        Quiet (do return part (← excerptOf index (← symbolOf snapshot)) : Job String) :=
      (quiet_symbolOf snapshot).bind fun symbol ↦ (quiet_excerptOf index symbol).map part
    split
    · exact (excerpt (·.path)).map pathLine
    · exact (excerpt (·.source)).map asLines
  | stats => exact (quiet_loadExistingAtlas index).map _

private theorem Invocation.quiet_job {i : Invocation} (s : Surroundings)
    (question : i.command.isQuestion = true) : Quiet (i.job s) := by
  rw [Invocation.job]
  split
  · exact .fail _
  · exact Request.quiet_perform s _ question

private theorem touches_perform_index (s : Surroundings) (index : String) (paths : List String)
    (maxErrors : Nat) (verbose : Bool) (w : World) :
    w.files.TouchesIndex index
      ((perform s index (.index paths maxErrors verbose)).runOn w).2.files := by
  have touched := touches_indexPaths (tolerantReader maxErrors) index (paths.map .ofText) w
  rw [perform, Job.runOn_bind]
  split
  · next reports =>
    rw [reports] at touched
    exact touched
  · next failed =>
    rw [failed] at touched
    exact touched

/-- Only commands that index or download change files: refused arguments and questions leave them as
they are. Indexing touches nothing but the index file and missing directories around it. -/
theorem touches_runProgram (arguments : List String) (s : Surroundings) (fs : FileSystem) :
    ((runProgram arguments s fs).1.code = 2 → (runProgram arguments s fs).2 = fs) ∧
      (∀ refusal, parseArguments (withSourceCommand arguments) = .error refusal →
        (runProgram arguments s fs).2 = fs) ∧
      ∀ i, parseArguments (withSourceCommand arguments) = .ok i →
        (i.command.isQuestion = true → (runProgram arguments s fs).2 = fs) ∧
          ∀ paths maxErrors verbose, i.command = .index paths maxErrors verbose →
            s.environment.index? i.index = none ∧ (runProgram arguments s fs).1.code = 1 ∧
                (runProgram arguments s fs).2 = fs ∨
              ∃ index, s.environment.index? i.index = some index ∧
                fs.TouchesIndex index (runProgram arguments s fs).2 := by
  rw [runProgram]
  cases parseArguments (withSourceCommand arguments) with
  | error refusal => exact ⟨fun _ ↦ rfl, fun _ _ ↦ rfl, fun _ no ↦ (by cases no)⟩
  | ok i =>
    simp only [i.run_eq]
    refine ⟨fun code ↦ absurd code Outcome.code_ofResult_ne_two, fun _ no ↦ (by cases no), ?_⟩
    intro j same
    cases same
    refine ⟨fun question ↦ ?_, fun paths maxErrors verbose indexes ↦ ?_⟩
    · rw [Outcome.files_ofResult, Invocation.quiet_job s question]
    · rw [Invocation.job]
      cases s.environment.index? i.index with
      | none => exact .inl ⟨rfl, rfl, rfl⟩
      | some index =>
        rw [Outcome.files_ofResult, indexes]
        exact .inr ⟨index, rfl,
          touches_perform_index s index paths maxErrors verbose { files := fs }⟩

/-! A directory without C sources is indexed, and a mere symbol is asked for. -/

namespace Emptied

/-- Nothing is known of the surroundings. -/
def surroundings : Surroundings := ⟨.empty, .empty, none, "0"⟩

/-- Arguments with a directory to index. -/
def indexing : List String := ["cinspect", "index", "--index", "/around/index.json", "/"]

/-- Arguments with a mere symbol. -/
def asking : List String := ["cinspect", "--index", "/around/index.json", "abs"]

/-- Indexing succeeds, which touches the index file and the directory around it; asking for a symbol
after that changes nothing, and neither does a usage error. -/
theorem touches_runProgram_indexing :
    (runProgram indexing surroundings .empty).1.code = 0 ∧
    FileSystem.empty.TouchesIndex "/around/index.json"
      (runProgram indexing surroundings .empty).2 ∧
    (let fs := (runProgram indexing surroundings .empty).2
     (runProgram asking surroundings fs).1.code = 0 ∧
       (runProgram asking surroundings fs).2 = fs ∧
       (runProgram ["cinspect", "stats", "abs"] surroundings fs).2 = fs) := by
  have succeeded : (runProgram indexing surroundings .empty).1.code = 0 := rfl
  have asked : parseArguments (withSourceCommand asking) =
      .ok ⟨some "/around/index.json", .source (.function "abs" none)⟩ := rfl
  refine ⟨succeeded, ?_, by decide +kernel, ?_, ?_⟩
  · have touched := (touches_runProgram indexing surroundings .empty).2.2
      ⟨some "/around/index.json", .index ["/"] 0 false⟩ rfl
    obtain ⟨unknown, -, -⟩ | ⟨index, known, touches⟩ := touched.2 ["/"] 0 false rfl
    · cases unknown
    · cases known
      exact touches
  · exact ((touches_runProgram asking surroundings _).2.2 _ asked).1 rfl
  · exact (touches_runProgram _ surroundings _).1 rfl

end Emptied

end Command

end BuiltinAtlas
