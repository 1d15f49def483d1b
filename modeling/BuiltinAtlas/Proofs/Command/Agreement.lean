import BuiltinAtlas.Proofs.Command.Line
import BuiltinAtlas.Proofs.Command.Outcome
import BuiltinAtlas.Proofs.Index.Query
import BuiltinAtlas.Proofs.Symbol.Written

/-!
# Symbols and objects are answered alike

Asking for a symbol of some kind has the outcome of asking for the object of that kind
(`runProgram_lookup_eq_inspect`), although the object may be taken for another symbol: a built-in
without a module is a method. What the index has for the two symbols is the same.
-/

namespace BuiltinAtlas.Command

open BuiltinAtlas.Json

/-- The object of a kind with a name, in a module and of a type if those are given. A method has no
module. -/
def snapshotOfKind (name : String) (kind : SymbolKind) (moduleName typeName : Option String) :
    Snapshot :=
  match kind with
  | .type => { name := some name, moduleName := moduleName, isType := true }
  | .module => { name := some name, isModule := true }
  | .function => { name := some name, moduleName := moduleName, isBuiltin := true }
  | .method => { name := some name, isBuiltin := true, receiver := typeName.map .object }
  | .descriptor => { name := some name, isDescriptor := true, owner := typeName }

private theorem answerObject_snapshotOfKind (fs : FileSystem) (index name : String)
    {kind : SymbolKind} {moduleName : Option String} (typeName : Option String)
    (unbound : kind = .method → moduleName = none) :
    fs.answerObject index (snapshotOfKind name kind moduleName typeName) =
      fs.answer index (symbolOfKind name kind moduleName typeName) := by
  cases kind with
  | type => rfl
  | module => rfl
  | function => cases moduleName <;> rfl
  | method =>
    rw [unbound rfl]
    rfl
  | descriptor => rfl

/-- What is printed of an excerpt: its source, or the path of its file. -/
def shown (onlyFile : Bool) (e : Excerpt) : String :=
  if onlyFile then pathLine e.path else asLines e.source

private theorem perform_lookupRequest (s : Surroundings) (index : String) (onlyFile : Bool)
    (symbol : Symbol) (w : World) :
    (perform s index (lookupRequest onlyFile symbol)).runOn w =
      ((w.files.answer index symbol).map (shown onlyFile), w) := by
  cases onlyFile with
  | false =>
    simp only [lookupRequest, Bool.false_eq_true, if_false, perform, sourceOf, Job.runOn_bind,
      excerptOf_runOn]
    cases w.files.answer index symbol <;> rfl
  | true =>
    simp only [lookupRequest, if_true, perform, fileOf, Job.runOn_bind, excerptOf_runOn]
    cases w.files.answer index symbol <;> rfl

private theorem perform_inspect (s : Surroundings) (index : String) (onlyFile : Bool)
    {text : String} {snapshot : Snapshot} (input : s.input = text.toUTF8)
    (read : Snapshot.read text = .ok snapshot) (w : World) :
    (perform s index (.inspect "-" onlyFile)).runOn w =
      ((w.files.answerObject index snapshot).map (shown onlyFile), w) := by
  have decoded : String.fromUTF8? s.input = some text := by rw [input, fromUTF8?_toUTF8]
  have dash : Path.trim "-" = "-" := rfl
  have loaded : (readSnapshot s.input "-").runOn w = (.ok snapshot, w) := by
    rw [readSnapshot, snapshotText, if_pos dash, decoded, Job.runOn_bind, Job.runOn_pure]
    simp only [Job.runOn_ofExcept, read]
    rfl
  have source : (sourceOfObject index snapshot).runOn w = (_, w) :=
    answerObject_runOn index snapshot w (·.source)
  have file : (fileOfObject index snapshot).runOn w = (_, w) :=
    answerObject_runOn index snapshot w (·.path)
  rw [perform, Job.runOn_bind, loaded]
  cases onlyFile with
  | false =>
    simp only [Bool.false_eq_true, if_false, Job.runOn_bind, source]
    cases w.files.answerObject index snapshot <;> rfl
  | true =>
    simp only [if_true, Job.runOn_bind, file]
    cases w.files.answerObject index snapshot <;> rfl

/-- Asking for a symbol of a kind has the outcome of asking for the object of that kind, however
either is asked for and whatever the index is. Both can be asked for, whatever the names are. -/
theorem runProgram_lookup_eq_inspect (name : String) {kind : SymbolKind}
    {moduleName : Option String} (typeName : Option String)
    (unbound : kind = .method → moduleName = none) (onlyFile : Bool) (index : Option String) :
    (∀ (asking inspecting : List String) (s s' : Surroundings) (text : String) (fs : FileSystem),
      parseArguments (withSourceCommand asking) =
        .ok ⟨index, lookupRequest onlyFile (symbolOfKind name kind moduleName typeName)⟩ →
      parseArguments (withSourceCommand inspecting) = .ok ⟨index, .inspect "-" onlyFile⟩ →
      s'.environment = s.environment → s'.input = text.toUTF8 →
      (snapshotOfKind name kind moduleName typeName).WrittenForm text.toList →
      runProgram asking s fs = runProgram inspecting s' fs) ∧
    (∀ program, (∀ i, index = some i → i ≠ "") →
      parseArguments (withSourceCommand
          (lookupLine program onlyFile index name kind moduleName typeName)) =
        .ok ⟨index, lookupRequest onlyFile (symbolOfKind name kind moduleName typeName)⟩ ∧
      parseArguments (withSourceCommand (inspectLine program onlyFile index)) =
        .ok ⟨index, .inspect "-" onlyFile⟩) ∧
    ∃ text : String, (snapshotOfKind name kind moduleName typeName).WrittenForm text.toList := by
  refine ⟨fun asking inspecting s s' text fs asked inspected environment input written ↦ ?_,
    fun program nonempty ↦
      ⟨parseArguments_lookupLine program onlyFile nonempty name kind moduleName typeName,
        parseArguments_inspectLine program onlyFile nonempty⟩,
    Snapshot.exists_writtenForm _⟩
  have quiet : (lookupRequest onlyFile (symbolOfKind name kind moduleName typeName)).isVerbose =
      (Request.inspect "-" onlyFile).isVerbose := by
    cases onlyFile <;> rfl
  rw [runProgram, asked, runProgram, inspected]
  simp only [Invocation.run_eq, Invocation.job, environment, quiet]
  cases s.environment.index? index with
  | none => rfl
  | some i =>
    simp only [perform_lookupRequest,
      perform_inspect s' i onlyFile input (Snapshot.read_of_writtenForm written),
      answerObject_snapshotOfKind fs i name typeName unbound]

/-! A function without a module, and the built-in object with its name. -/

namespace Twofold

open Sample (withIndex)

/-- An atlas with a function that a table lists. -/
def atlas : Atlas where
  tables := .ofList [("Methods", .ofList [("abs", "builtin_abs")])]
  functions := .ofList [("builtin_abs", ⟨"int builtin_abs();", "abs.c"⟩)]

/-- A file system with the atlas. -/
def files : FileSystem := withIndex .empty atlas.write.toUTF8

/-- The parts of the text of the object. -/
def members : List (String × List Char) := [("builtin", "true".toList), ("name", quote "abs")]

/-- The text of the object. -/
def text : String := .ofList (inBraces [] [' '] members)

/-- What is around the program, with some input. -/
def surroundings (input : String) : Surroundings := ⟨.empty, input.toUTF8, none, "0"⟩

/-- The text is written for the object. -/
theorem writtenForm_text : (snapshotOfKind "abs" .function none none).WrittenForm text.toList := by
  have blank : Blank [' '] := by decide
  refine ⟨[], _, [], blank_nil, ⟨members, objectForm_inBraces blank_nil blank members, ?_, ?_⟩,
    blank_nil, by simp [text]⟩
  · simp [members, Snapshot.components, snapshotOfKind, textForm_quote, OptionForm, BoolForm]
  · simp [members, Snapshot.components, snapshotOfKind]

private theorem answer_abs : files.answer "/i.json" (.function "abs" none) =
    .ok ⟨"int builtin_abs();", "abs.c"⟩ := by
  have there : files.isFile "/i.json" = true := rfl
  have stored : files.readAtlas "/i.json" = .ok atlas :=
    FileSystem.readAtlas_of_find (show files.find "/i.json" = .ok (Sample.indexPlace, _) from rfl)
  rw [FileSystem.answer, if_pos there, stored]
  · rfl
  · exact fun _ _ no ↦ by cases no

private theorem runProgram_abs :
    runProgram ["cinspect", "--index", "/i.json", "abs"] (surroundings "") files =
      Outcome.ofResult .empty false (.ok "int builtin_abs();\n", { files := files }) := by
  have asked : parseArguments (withSourceCommand ["cinspect", "--index", "/i.json", "abs"]) =
      .ok ⟨some "/i.json", lookupRequest false (.function "abs" none)⟩ := rfl
  have performed :
      (Invocation.job ⟨some "/i.json", lookupRequest false (.function "abs" none)⟩
          (surroundings "")).runOn { files := files } =
        (.ok "int builtin_abs();\n", { files := files }) := by
    have index : (surroundings "").environment.index? (some "/i.json") = some "/i.json" := rfl
    rw [Invocation.job, index, perform_lookupRequest, answer_abs]
    rfl
  rw [runProgram, asked]
  change Invocation.run _ _ _ = _
  rw [Invocation.run_eq, performed]
  rfl

/-- The object is answered like the function, and so it is when only the file is asked for. -/
theorem runProgram_lookup_eq_inspect_abs :
    (SymbolKind.function = .method → (none : Option String) = none) ∧
    (runProgram ["cinspect", "--index", "/i.json", "abs"] (surroundings "") files).1.output =
      "int builtin_abs();\n" ∧
    runProgram ["cinspect", "--index", "/i.json", "abs"] (surroundings "") files =
      runProgram ["cinspect", "inspect", "--index", "/i.json", "-"] (surroundings text) files ∧
    runProgram (lookupLine "cinspect" true (some "/i.json") "abs" .function none none)
        (surroundings "") files =
      runProgram (inspectLine "cinspect" true (some "/i.json")) (surroundings text) files := by
  have unbound : SymbolKind.function = .method → (none : Option String) = none := fun _ ↦ rfl
  refine ⟨unbound, ?_, ?_, ?_⟩
  · rw [runProgram_abs]
    rfl
  · exact (runProgram_lookup_eq_inspect "abs" none unbound false (some "/i.json")).1 _ _ _ _ text _
      rfl rfl rfl rfl writtenForm_text
  · obtain ⟨agree, askable, -⟩ :=
      runProgram_lookup_eq_inspect "abs" none unbound true (some "/i.json")
    obtain ⟨asked, inspected⟩ := askable "cinspect" (by simp)
    exact agree _ _ _ _ text _ asked inspected rfl rfl writtenForm_text

end Twofold

end BuiltinAtlas.Command
