import BuiltinAtlas.Index.Query
import BuiltinAtlas.Proofs.Index.History

/-!
# Asking for objects

Asking for the source of an object and asking for its file come to one result, of which the first
gives the text and the second the path (`exists_answered_runOn`). For an object with its own source
that is the result. What can go wrong with another one goes wrong in this order: it stands for no
symbol, there is no index, or the index cannot be read. What a readable index does not know is no
failure.
-/

namespace BuiltinAtlas

namespace Snapshot

/-- Whether some flag says what kind of object this is. -/
def isFlagged (s : Snapshot) : Bool := s.isBuiltin || s.isDescriptor || s.isModule || s.isType

/-- An object lacks what it takes to stand for a symbol: a name if some flag says what it is, else a
class. -/
def Lacks (s : Snapshot) (label : String) : Prop :=
  s.isFlagged = true ∧ s.name = none ∧ label = "object without a name" ∨
    s.isFlagged = false ∧ s.classInfo = none ∧ label = s.name.getD "<anonymous>"

variable {s : Snapshot}

private theorem exists_classify_of_isFlagged (sourceless : s.source = none)
    (flagged : s.isFlagged = true) :
    ∃ symbol : String → Symbol, s.classify = s.requiredName.map symbol ∧
      ∀ name other native, symbol name ≠ .plain other native := by
  simp only [classify, sourceless]
  simp only [isFlagged, Bool.or_eq_true] at flagged
  split
  · refine ⟨_, rfl, fun name other native ↦ ?_⟩
    split <;> simp
  · split
    · exact ⟨_, rfl, fun _ _ _ ↦ by simp⟩
    · split
      · exact ⟨_, rfl, fun _ _ _ ↦ by simp⟩
      · next builtin descriptor module =>
        rw [if_pos (flagged.resolve_left (by simp [builtin, descriptor, module]))]
        exact ⟨_, rfl, fun _ _ _ ↦ by simp⟩

private theorem classify_of_not_isFlagged (sourceless : s.source = none)
    (unflagged : s.isFlagged = false) :
    s.classify = match s.classInfo with
      | some c => .ok (.type c.name c.moduleName)
      | none => .error ⟨s.name.getD "<anonymous>"⟩ := by
  simp only [isFlagged, Bool.or_eq_false_iff] at unflagged
  cases info : s.classInfo <;> simp [classify, sourceless, unflagged, info]

private theorem classify_eq_error_iff (sourceless : s.source = none) {u : Unsupported} :
    s.classify = .error u ↔ s.Lacks u.label := by
  obtain ⟨label⟩ := u
  cases flagged : s.isFlagged with
  | true =>
    obtain ⟨symbol, same, -⟩ := exists_classify_of_isFlagged sourceless flagged
    rw [same, requiredName, Lacks, flagged]
    cases s.name <;> simp [Except.map, eq_comm]
  | false =>
    rw [classify_of_not_isFlagged sourceless flagged, Lacks, flagged]
    cases s.classInfo <;> simp [eq_comm]

private theorem classify_ne_plain (sourceless : s.source = none) (name : String)
    (native : Excerpt) :
    s.classify ≠ .ok (.plain name native) := by
  intro h
  cases flagged : s.isFlagged with
  | true =>
    obtain ⟨symbol, same, foreign⟩ := exists_classify_of_isFlagged sourceless flagged
    rw [same] at h
    cases required : s.requiredName with
    | error u =>
      rw [required] at h
      cases h
    | ok n =>
      rw [required] at h
      exact foreign n name native (Except.ok.inj h)
  | false =>
    rw [classify_of_not_isFlagged sourceless flagged] at h
    split at h <;> cases h

end Snapshot

namespace FileSystem

/-- What the index has for a symbol. -/
def answer (fs : FileSystem) (index : RawText) : Symbol → Except Failure Excerpt
  | .plain _ native => .ok native
  | symbol =>
    if fs.isFile index then (fs.readAtlas index).map fun a ↦ (a.lookup symbol).getD ⟨"", ""⟩
    else .error (.indexNotFound index)

/-- What the index has for an object. -/
def answerObject (fs : FileSystem) (index : RawText) (s : Snapshot) : Except Failure Excerpt :=
  match s.classify with
  | .ok symbol => fs.answer index symbol
  | .error u => .error (.unsupported u.label)

end FileSystem

variable {w : World} {index : RawText}

/-- An excerpt is looked up. -/
theorem excerptOf_runOn (index : RawText) (symbol : Symbol) (w : World) :
    (excerptOf index symbol).runOn w = (w.files.answer index symbol, w) := by
  have looked (symbol : Symbol) :
      (do return (← lookupSymbol index symbol).getD ⟨"", ""⟩ : Job Excerpt).runOn w =
        (if w.files.isFile index then
            (w.files.readAtlas index).map fun a ↦ (a.lookup symbol).getD ⟨"", ""⟩
          else .error (.indexNotFound index), w) := by
    simp only [lookupSymbol, Job.runOn_bind, loadExistingAtlas_runOn]
    cases w.files.isFile index with
    | false => rfl
    | true => cases w.files.readAtlas index <;> rfl
  cases symbol with
  | plain => rfl
  | function => exact looked _
  | method => exact looked _
  | descriptor => exact looked _
  | module => exact looked _
  | type => exact looked _

/-- A part of the excerpt of an object is looked up. -/
theorem answerObject_runOn (index : RawText) (s : Snapshot) (w : World) (part : Excerpt → String) :
    (do return part (← excerptOf index (← symbolOf s)) : Job String).runOn w =
      ((w.files.answerObject index s).map part, w) := by
  rw [symbolOf, Job.runOn_bind, Job.runOn_ofExcept, FileSystem.answerObject]
  cases s.classify with
  | error u => rfl
  | ok symbol =>
    simp only [Except.mapError, Job.runOn_bind, excerptOf_runOn]
    cases w.files.answer index symbol <;> rfl

/-- A result is what an index gives for an object. -/
structure Snapshot.Answered (s : Snapshot) (index : RawText) (fs : FileSystem)
    (result : Except Failure Excerpt) : Prop where
  /-- An object with its own source is answered with that, whatever the index is. -/
  native (source : String) : s.source = some source → result = .ok ⟨source, s.file.getD ""⟩
  /-- Another object may stand for no symbol, whatever the index is. -/
  unsupported : s.source = none →
    ∀ label, (result = .error (.unsupported label) ↔ s.Lacks label)
  /-- If it stands for a symbol, there may be no index. -/
  absent : s.source = none → (∀ label, ¬ s.Lacks label) →
    (result = .error (.indexNotFound index) ↔ fs.isFile index = false)
  /-- If there is an index, it may have no text, or a malformed one. -/
  unreadable : s.source = none → (∀ label, ¬ s.Lacks label) → fs.isFile index = true →
    ∀ f, (result = .error f ↔
      (∃ e, fs.readText index = .error e ∧ f = .files index e) ∨
        ∃ text fault, fs.readText index = .ok text ∧ Atlas.read text = .error fault ∧
          f = .malformedIndex index fault)
  /-- If it is read, what it does not know has an empty source and path. -/
  known : s.source = none → (∀ label, ¬ s.Lacks label) → fs.isFile index = true →
    ∀ text a, fs.readText index = .ok text → Atlas.read text = .ok a →
      ∃ symbol, s.classify = .ok symbol ∧ result = .ok ((a.lookup symbol).getD ⟨"", ""⟩)

namespace FileSystem

variable {fs : FileSystem} {index : RawText} {s : Snapshot}

private theorem answerObject_of_not_lacks (fs : FileSystem) (index : RawText)
    (sourceless : s.source = none) (complete : ∀ label, ¬ s.Lacks label) :
    ∃ symbol, s.classify = .ok symbol ∧ fs.answerObject index s =
      if fs.isFile index then (fs.readAtlas index).map fun a ↦ (a.lookup symbol).getD ⟨"", ""⟩
      else .error (.indexNotFound index) := by
  cases classified : s.classify with
  | error u => exact absurd ((Snapshot.classify_eq_error_iff sourceless).mp classified) (complete _)
  | ok symbol =>
    refine ⟨symbol, rfl, ?_⟩
    rw [answerObject, classified]
    cases symbol with
    | plain name native =>
      exact absurd classified (Snapshot.classify_ne_plain sourceless name native)
    | function => rfl
    | method => rfl
    | descriptor => rfl
    | module => rfl
    | type => rfl

private theorem answerObject_of_lacks (fs : FileSystem) (index : RawText)
    (sourceless : s.source = none) {label : String} (lacks : s.Lacks label) :
    fs.answerObject index s = .error (.unsupported label) := by
  have unclassified : s.classify = .error ⟨label⟩ :=
    (Snapshot.classify_eq_error_iff sourceless).mpr lacks
  rw [answerObject, unclassified]

private theorem answerObject_eq_error_iff (sourceless : s.source = none)
    (complete : ∀ label, ¬ s.Lacks label) {f : Failure} :
    fs.answerObject index s = .error f ↔
      fs.isFile index = false ∧ f = .indexNotFound index ∨
        fs.isFile index = true ∧ fs.readAtlas index = .error f := by
  obtain ⟨symbol, -, result⟩ := answerObject_of_not_lacks fs index sourceless complete
  rw [result]
  cases fs.isFile index with
  | false => simp [eq_comm]
  | true => cases fs.readAtlas index <;> simp [Except.map]

private theorem answered_answerObject (fs : FileSystem) (index : RawText) (s : Snapshot) :
    s.Answered index fs (fs.answerObject index s) where
  native source own := by simp only [answerObject, Snapshot.classify, own, answer]
  unsupported sourceless label := by
    refine ⟨fun failed ↦ ?_, answerObject_of_lacks fs index sourceless⟩
    by_cases complete : ∀ label, ¬ s.Lacks label
    · rcases (answerObject_eq_error_iff sourceless complete).mp failed with ⟨-, no⟩ | ⟨-, no⟩
      · cases no
      · rcases readAtlas_eq_error_iff.mp no with ⟨e, -, no⟩ | ⟨text, fault, -, -, no⟩ <;> cases no
    · simp only [not_forall, not_not] at complete
      obtain ⟨other, lacks⟩ := complete
      rw [answerObject_of_lacks fs index sourceless lacks] at failed
      cases failed
      exact lacks
  absent sourceless complete := by
    rw [answerObject_eq_error_iff sourceless complete, readAtlas_eq_error_iff]
    simp
  unreadable sourceless complete file f := by
    rw [answerObject_eq_error_iff sourceless complete, readAtlas_eq_error_iff, file]
    simp
  known sourceless complete file text a read parsed := by
    obtain ⟨symbol, classified, result⟩ :=
      answerObject_of_not_lacks fs index sourceless complete
    have loaded : fs.readAtlas index = .ok a := readAtlas_eq_ok_iff.mpr ⟨text, read, parsed⟩
    refine ⟨symbol, classified, ?_⟩
    rw [result, if_pos file, loaded]
    rfl

end FileSystem

/-- Asking for the source of an object and for its file gives two parts of one result. -/
theorem exists_answered_runOn (index : RawText) (s : Snapshot) (w : World) :
    ∃ result, (sourceOfObject index s).runOn w = (result.map (·.source), w) ∧
      (fileOfObject index s).runOn w = (result.map (·.path), w) ∧
      s.Answered index w.files result :=
  ⟨w.files.answerObject index s, answerObject_runOn index s w (·.source),
    answerObject_runOn index s w (·.path), w.files.answered_answerObject index s⟩

/-! A built-in object is asked for where the index file ends too early, and where there is none. -/

namespace Asked

open Sample (withIndex)

/-- A file system with the index file. -/
def files : FileSystem := withIndex .empty "\x7b".toUTF8

/-- The object. -/
def builtin : Snapshot := { name := some "f", isBuiltin := true }

/-- The object stands for a symbol, so that the index is the reason for the failure, unless the name
of the object is not known. -/
theorem exists_answered_runOn_builtin :
    (sourceOfObject "/i.json" builtin).runOn ⟨files, []⟩ =
      (.error (.malformedIndex "/i.json" .ended), ⟨files, []⟩) ∧
    (fileOfObject "/none" builtin).runOn ⟨files, []⟩ =
      (.error (.indexNotFound "/none"), ⟨files, []⟩) ∧
    (fileOfObject "/i.json" { builtin with name := none }).runOn ⟨files, []⟩ =
      (.error (.unsupported "object without a name"), ⟨files, []⟩) := by
  have complete : ∀ label, ¬ builtin.Lacks label := by
    rintro label (⟨-, no, -⟩ | ⟨no, -, -⟩)
    · cases no
    · cases no
  have text : files.readText "/i.json" = .ok "\x7b" := rfl
  have fault : Atlas.read "\x7b" = .error .ended := rfl
  refine ⟨?_, ?_, ?_⟩
  · obtain ⟨result, source, -, answered⟩ := exists_answered_runOn "/i.json" builtin ⟨files, []⟩
    have failed := (answered.unreadable rfl complete rfl _).mpr (.inr ⟨_, _, text, fault, rfl⟩)
    rw [source, failed]
    rfl
  · obtain ⟨result, -, file, answered⟩ := exists_answered_runOn "/none" builtin ⟨files, []⟩
    have failed := (answered.absent rfl complete).mpr rfl
    rw [file, failed]
    rfl
  · obtain ⟨result, -, file, answered⟩ :=
      exists_answered_runOn "/i.json" { builtin with name := none } ⟨files, []⟩
    have failed := (answered.unsupported rfl _).mpr (.inl ⟨rfl, rfl, rfl⟩)
    rw [file, failed]
    rfl

end Asked

end BuiltinAtlas
