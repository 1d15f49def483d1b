import BuiltinAtlas.Proofs.Survey.Origin

/-!
# What of a file counts

A construct adds to the findings what it is, a function, a type, a method table or a registration of
a module, and this does not depend on what was found before (`Findings.addConstruct_eq`). So of
several functions, types or tables with one name the last one in a file counts
(`Construct.functions_survey_iff`, `Construct.types_survey_iff`, `Construct.tables_survey_iff`).
-/

namespace BuiltinAtlas

namespace Dictionary

variable {α β : Type}

/-- Set the value of a key, if there is an entry to set. -/
def put (d : Dictionary α) (entry : Option (String × α)) : Dictionary α :=
  entry.elim d fun e ↦ d.insert e.1 e.2

private theorem foldl_put (give? : β → Option (String × α)) (xs : List β) :
    xs.foldl (fun d x ↦ d.put (give? x)) empty = ofList (xs.filterMap give?) := by
  rw [ofList, List.foldl_filterMap]
  congr 1
  funext d x
  rw [put]
  cases give? x <;> rfl

end Dictionary

namespace Construct

/-- A construct is the definition of a function with a name. -/
def defines (name : String) (d : Construct) : Bool :=
  d.kind = .function ∧ d.spelling = name ∧ name ≠ ""

/-- A construct is a variable of type `PyTypeObject` that defines a type with a name. -/
def declaresType (name : String) (d : Construct) : Bool :=
  d.kind = .variable ∧ d.typeName = some "PyTypeObject" ∧
    (d.parts.head?.bind fun initializer ↦ initializer.field? "tp_name" 3 (·.unquoted?)) = some name

/-- A construct is a variable of some type with an initializer in braces. -/
def Braced (type : String) (d : Construct) : Prop :=
  d.kind = .variable ∧ d.typeName = some type ∧
    d.parts.head?.map (·.kind) = some .initializerList

/-- Whether a construct is such a variable can be decided. -/
instance (type : String) (d : Construct) : Decidable (d.Braced type) :=
  inferInstanceAs (Decidable (_ ∧ _ ∧ _))

/-- The function that a construct defines. -/
def functionOf? (f : SourceFile) (d : Construct) : Option (String × Excerpt) :=
  if d.kind = .function then d.namedFunction? f else none

/-- The type that a construct declares, as a variable of type `PyTypeObject`. -/
def typeOf? (f : SourceFile) (d : Construct) : Option (String × TypeEntry) :=
  if d.kind = .variable ∧ d.typeName = some "PyTypeObject" then d.namedType? f else none

/-- The method table that a construct declares, as a variable of type `PyMethodDef`. -/
def tableOf? (d : Construct) : Option (String × MethodTable) :=
  if d.Braced "PyMethodDef" then d.namedTable? else none

/-- The module that a construct registers: by a call of some `Py_InitModule`, or as a variable of
type `PyModuleDef`. -/
def registration? (f : SourceFile) (d : Construct) : Option (String × ModuleEntry) :=
  if d.kind = .call ∧ "Py_InitModule".toList <+: d.spelling.toList then d.calledModule? f
  else if d.Braced "PyModuleDef" then d.structuredModule? f
  else none

variable {c d : Construct} {f : SourceFile} {name : String}

private theorem landmarkOfVariable?_eq_some_iff {l : Landmark} :
    d.landmarkOfVariable? = some l ↔
      l = .typeObject ∧ d.typeName = some "PyTypeObject" ∧ d.parts ≠ [] ∨
      (l = .methodTable ∧ d.typeName = some "PyMethodDef" ∨
        l = .moduleStructure ∧ d.typeName = some "PyModuleDef") ∧
        d.parts.head?.map (·.kind) = some .initializerList := by
  unfold landmarkOfVariable?
  cases d.parts with
  | nil => simp
  | cons initializer parts =>
    rw [List.head?_cons, Option.bind_some]
    split
    · next type braces => simp [type, braces, eq_comm]
    · next type => simp [type, eq_comm]
    · next type braces => simp [type, braces, eq_comm]
    · next noType noTable noModule =>
      simp only [reduceCtorEq, Option.map_some, Option.some.injEq, false_iff, not_or, not_and]
      refine ⟨fun _ type ↦ (noType type).elim, ?_⟩
      rintro (⟨-, type⟩ | ⟨-, type⟩) braces
      · exact noTable type braces
      · exact noModule type braces

/-- What a construct is the landmark of, by its kind. -/
theorem landmark?_eq_some_iff {l : Landmark} :
    d.landmark? = some l ↔ l = .function ∧ d.kind = .function ∧ d.spelling ≠ "" ∨
      d.kind = .variable ∧ d.landmarkOfVariable? = some l ∨
      l = .moduleCall ∧ d.kind = .call ∧ "Py_InitModule".toList <+: d.spelling.toList := by
  rw [landmark?]
  split
  · next kind => by_cases empty : d.spelling = "" <;> cases l <;> simp [kind, empty]
  · next kind => simp [kind]
  · next kind =>
    rw [← List.isPrefixOf_iff_prefix]
    cases "Py_InitModule".toList.isPrefixOf d.spelling.toList <;> cases l <;> simp [kind]
  · next noFunction noVariable noCall =>
    simp only [reduceCtorEq, false_iff, not_or, not_and]
    exact ⟨fun _ kind ↦ (noFunction kind).elim, fun kind ↦ (noVariable kind).elim,
      fun _ kind ↦ (noCall kind).elim⟩

private theorem functionOf?_eq (f : SourceFile) (d : Construct) :
    d.functionOf? f = if d.landmark? = some .function then d.namedFunction? f else none := by
  have landmark : d.landmark? = some .function ↔ d.kind = .function ∧ d.spelling ≠ "" := by
    simp [landmark?_eq_some_iff, landmarkOfVariable?_eq_some_iff]
  simp only [functionOf?, landmark]
  by_cases empty : d.spelling = "" <;> simp [namedFunction?, empty]

private theorem typeOf?_eq (f : SourceFile) (d : Construct) :
    d.typeOf? f = if d.landmark? = some .typeObject then d.namedType? f else none := by
  have landmark : d.landmark? = some .typeObject ↔
      (d.kind = .variable ∧ d.typeName = some "PyTypeObject") ∧ d.parts ≠ [] := by
    simp [landmark?_eq_some_iff, landmarkOfVariable?_eq_some_iff, and_assoc]
  simp only [typeOf?, landmark]
  cases parts : d.parts <;> simp [namedType?, parts]

private theorem tableOf?_eq (d : Construct) :
    d.tableOf? = if d.landmark? = some .methodTable then d.namedTable? else none := by
  have landmark : d.landmark? = some .methodTable ↔ d.Braced "PyMethodDef" := by
    simp [landmark?_eq_some_iff, landmarkOfVariable?_eq_some_iff, Braced]
  simp only [tableOf?, landmark]

private theorem registration?_eq (f : SourceFile) (d : Construct) :
    d.registration? f = if d.landmark? = some .moduleCall then d.calledModule? f
      else if d.landmark? = some .moduleStructure then d.structuredModule? f else none := by
  have call : d.landmark? = some .moduleCall ↔
      d.kind = .call ∧ "Py_InitModule".toList <+: d.spelling.toList := by
    simp [landmark?_eq_some_iff, landmarkOfVariable?_eq_some_iff]
  have structured : d.landmark? = some .moduleStructure ↔ d.Braced "PyModuleDef" := by
    simp [landmark?_eq_some_iff, landmarkOfVariable?_eq_some_iff, Braced]
  simp only [registration?, call, structured]

end Construct

namespace Findings

/-- Add what a construct defines or registers, if it does. -/
def addConstruct (f : SourceFile) (s : Findings) (d : Construct) : Findings :=
  match d.landmark? with
  | none => s
  | some l => s.addLandmark f (l, d)

/-- A construct adds the function, the type, the table or the registration that it is. -/
theorem addConstruct_eq (f : SourceFile) (s : Findings) (d : Construct) :
    s.addConstruct f d =
      { functions := s.functions.put (d.functionOf? f)
        types := s.types.put (d.typeOf? f)
        tables := s.tables.put d.tableOf?
        modules := ((d.registration? f).elim s fun e ↦ s.addModule e.1 e.2).modules } := by
  rw [d.functionOf?_eq, d.typeOf?_eq, d.tableOf?_eq, d.registration?_eq, addConstruct]
  cases d.landmark? with
  | none => rfl
  | some l =>
    cases l with
    | function => cases h : d.namedFunction? f <;> simp [h, addLandmark, Dictionary.put]
    | methodTable => cases h : d.namedTable? <;> simp [h, addLandmark, Dictionary.put]
    | typeObject => cases h : d.namedType? f <;> simp [h, addLandmark, Dictionary.put]
    | moduleCall =>
      cases h : d.calledModule? f <;> simp [h, addLandmark, Dictionary.put, addModule]
    | moduleStructure =>
      cases h : d.structuredModule? f <;> simp [h, addLandmark, Dictionary.put, addModule]

end Findings

namespace Construct

variable {c d : Construct} {f : SourceFile} {name : String}

/-- A file contributes what its constructs define or register, one after the other. -/
theorem survey_eq_foldl (c : Construct) (f : SourceFile) :
    c.survey f = c.preorder.foldl (Findings.addConstruct f) {} := by
  rw [survey, landmarks, List.foldl_filterMap]
  congr 1
  funext s d
  rw [Findings.addConstruct]
  cases d.landmark? <;> rfl

private theorem survey_eq_ofList {α : Type} (look : Findings → Dictionary α)
    {give : Construct → Option (String × α)} (nothing : look {} = .empty)
    (step : ∀ s d, look (s.addConstruct f d) = (look s).put (give d)) :
    look (c.survey f) = .ofList (c.preorder.filterMap give) := by
  rw [survey_eq_foldl, ← Dictionary.foldl_put, ← nothing]
  exact (List.foldl_hom look fun s d ↦ (step s d).symm).symm

private theorem functions_survey_iff {e : Excerpt} :
    (c.survey f).functions.find? name = some e ↔ LastGives (functionOf? f) c.preorder name e := by
  rw [survey_eq_ofList (·.functions) rfl fun s d ↦ by rw [Findings.addConstruct_eq],
    Dictionary.find?_ofList_filterMap_iff]

/-- Of the types with one name in a file the last one counts. -/
theorem types_survey_iff {e : TypeEntry} :
    (c.survey f).types.find? name = some e ↔ LastGives (typeOf? f) c.preorder name e := by
  rw [survey_eq_ofList (·.types) rfl fun s d ↦ by rw [Findings.addConstruct_eq],
    Dictionary.find?_ofList_filterMap_iff]

private theorem functionOf?_eq_some_iff {e : Excerpt} :
    d.functionOf? f = some (name, e) ↔ d.defines name = true ∧ d.excerpt f = e := by
  simp only [functionOf?, namedFunction?, defines, decide_eq_true_eq, String.isEmpty_iff,
    Option.ite_none_right_eq_some, Option.ite_none_left_eq_some, Option.some.injEq, Prod.mk.injEq]
  constructor
  · rintro ⟨kind, named, rfl, text⟩
    exact ⟨⟨kind, rfl, named⟩, text⟩
  · rintro ⟨⟨kind, rfl, named⟩, text⟩
    exact ⟨kind, named, rfl, text⟩

private theorem declaresType_iff (f : SourceFile) :
    d.declaresType name = true ↔ ∃ e, d.typeOf? f = some (name, e) := by
  simp only [typeOf?, declaresType, decide_eq_true_eq, Option.ite_none_right_eq_some,
    Option.bind_eq_some_iff, namedType?_eq_some_iff]
  constructor
  · rintro ⟨kind, type, initializer, first, named⟩
    exact ⟨_, ⟨kind, type⟩, initializer, first, named, rfl⟩
  · rintro ⟨_, ⟨kind, type⟩, initializer, first, named, -⟩
    exact ⟨kind, type, initializer, first, named⟩

/-- The text of a function is that of the last definition with the name. -/
theorem functions_survey (c : Construct) (f : SourceFile) (name : String) :
    (c.survey f).functions.find? name =
      (c.preorder.filter (defines name)).getLast?.map fun d ↦ d.excerpt f := by
  have gives (d : Construct) : d.defines name = true ↔ ∃ e, d.functionOf? f = some (name, e) := by
    simp [functionOf?_eq_some_iff]
  apply Option.ext
  intro e
  rw [functions_survey_iff, lastGives_iff gives, Option.map_eq_some_iff]
  constructor
  · rintro ⟨d, last, given⟩
    exact ⟨d, last, (functionOf?_eq_some_iff.mp given).2⟩
  · rintro ⟨d, last, text⟩
    have passes := (List.mem_filter.mp (List.mem_of_getLast? last)).2
    exact ⟨d, last, functionOf?_eq_some_iff.mpr ⟨passes, text⟩⟩

/-- The text of a type is that of the last declaration with the name. -/
theorem exists_of_types_survey {e : TypeEntry} (h : (c.survey f).types.find? name = some e) :
    ∃ d, (c.preorder.filter (declaresType name)).getLast? = some d ∧ e.toExcerpt = d.excerpt f := by
  rw [types_survey_iff, lastGives_iff fun _ ↦ declaresType_iff f] at h
  obtain ⟨d, last, given⟩ := h
  rw [typeOf?, Option.ite_none_right_eq_some] at given
  exact ⟨d, last, excerpt_of_namedType? given.2⟩

end Construct

end BuiltinAtlas
