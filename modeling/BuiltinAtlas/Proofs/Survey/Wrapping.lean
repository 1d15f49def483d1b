import BuiltinAtlas.Proofs.Survey.Designation
import BuiltinAtlas.Proofs.Survey.Registration

/-!
# Values in casts and wrappers

Casts, parentheses and `&` around the value of a field, however deep in the initializer, or around
an argument of a call change nothing of what is found (`Construct.survey_of_wraps`). A value is
read in three ways, as a value, by its first spelling, and as a field with or without a designator,
and a tower of casts and wrappers is read like what is in it in all of them
(`Construct.Tower.readAlike`). Hence a construct around it is read as before too
(`Construct.Wraps.readAlike`), and gives the same landmark.
-/

namespace BuiltinAtlas

namespace Construct

/-- A construct is another one in a tower of casts and wrappers that hold nothing else and have no
spelling. -/
inductive Tower (c : Construct) : Construct → Prop
  | refl : Tower c c
  | around {d : Construct} {kind : ConstructKind} {typeName : Option String} {start stop : Nat} :
    kind = .cast ∨ kind = .wrapper → Tower c d → Tower c (.mk kind "" typeName start stop [d])

/-- One part of a construct, at any depth, has been put in a tower. It is no initializer of a
variable and no field with a designator, but may be the value of a field or an argument. -/
inductive Wraps : Construct → Construct → Prop
  | value {kind : ConstructKind} {spelling : String} {typeName : Option String} {start stop : Nat}
    {before after : List Construct} {c d : Construct} :
    kind ≠ .variable → c.kind ≠ .designated → Tower c d →
    Wraps (.mk kind spelling typeName start stop (before ++ c :: after))
      (.mk kind spelling typeName start stop (before ++ d :: after))
  | inside {kind : ConstructKind} {spelling : String} {typeName : Option String} {start stop : Nat}
    {before after : List Construct} {c d : Construct} : Wraps c d →
    Wraps (.mk kind spelling typeName start stop (before ++ c :: after))
      (.mk kind spelling typeName start stop (before ++ d :: after))

/-- Constructs are read alike as a field of an initializer and as an argument. -/
structure ReadAlike (c d : Construct) : Prop where
  value : d.value = c.value
  firstSpelling? : d.firstSpelling? = c.firstSpelling?
  designator? : d.designator? = c.designator?

variable {c c' d d' initializer initializer' : Construct} {before after : List Construct}
  {kind : ConstructKind} {spelling : String} {typeName : Option String} {start stop : Nat}

private theorem Tower.readAlike (h : Tower c d) (value : c.kind ≠ .designated) : ReadAlike c d := by
  have none : c.designator? = none := by rw [designator?, if_neg value]
  induction h with
  | refl => exact ⟨rfl, rfl, rfl⟩
  | around kind _ ih =>
    rcases kind with rfl | rfl
    all_goals exact ⟨ih.value, ih.firstSpelling?, none.symm⟩

/-- Constructs of which one part is read alike are read alike. -/
theorem ReadAlike.inside (h : ReadAlike c d) :
    ReadAlike (.mk kind spelling typeName start stop (before ++ c :: after))
      (.mk kind spelling typeName start stop (before ++ d :: after)) where
  value := by
    refine value_congr ?_ ?_ ?_
    · rfl
    · rfl
    · simp only [parts, List.map_append, List.map_cons, h.value]
  firstSpelling? := by
    cases before with
    | cons _ _ => cases kind <;> rfl
    | nil =>
      cases kind with
      | stringLiteral => rfl
      | _ => exact h.firstSpelling?
  designator? := rfl

private theorem Wraps.readAlike (h : Wraps c c') : ReadAlike c c' := by
  induction h with
  | value _ value tower => exact (tower.readAlike value).inside
  | inside _ ih => exact ih.inside

private theorem Wraps.exists_parts (h : Wraps c c') :
    ∃ before p q after, c.parts = before ++ p :: after ∧
      c' = .mk c.kind c.spelling c.typeName c.start c.stop (before ++ q :: after) ∧
      ReadAlike p q ∧ (c.kind = .variable → Wraps p q) := by
  cases h with
  | @value _ _ _ _ _ before after p q other value tower =>
    exact ⟨before, p, q, after, rfl, rfl, tower.readAlike value, fun same ↦ absurd same other⟩
  | @inside _ _ _ _ _ before after p q inner =>
    exact ⟨before, p, q, after, rfl, rfl, inner.readAlike, fun _ ↦ inner⟩

private theorem Wraps.map_parts {α : Type} {read : Construct → α}
    (same : ∀ p q, ReadAlike p q → read q = read p) (h : Wraps c c') :
    c'.parts.map read = c.parts.map read := by
  obtain ⟨before, p, q, after, parts, rfl, alike, -⟩ := h.exists_parts
  rw [parts]
  simp only [Construct.parts, List.map_append, List.map_cons, same p q alike]

private theorem Wraps.kind_eq (h : Wraps c c') : c'.kind = c.kind := by
  obtain ⟨_, _, _, _, -, rfl, -⟩ := h.exists_parts
  rfl

private theorem Wraps.bind_head? {α : Type} {read : Construct → Option α}
    (same : ∀ p q, Wraps p q → read q = read p) (h : Wraps c c') (kind : c.kind = .variable) :
    c'.parts.head?.bind read = c.parts.head?.bind read := by
  obtain ⟨before, p, q, after, parts, rfl, -, inner⟩ := h.exists_parts
  rw [parts]
  cases before with
  | nil => exact same p q (inner kind)
  | cons first before => rfl

private theorem designator?_ne_none_iff : c.designator? ≠ none ↔ c.kind = .designated := by
  rw [designator?]
  split
  · next designated => simp [designated]
  · next positional => simp [positional]

private theorem designator?_eq_some_iff {name : String} :
    c.designator? = some name ↔ c.kind = .designated ∧ c.spelling = name := by
  rw [designator?]
  split
  · next designated => simp [designated]
  · next positional => simp [positional]

private theorem Wraps.filterMap_parts {α : Type} {read : Construct → Option α}
    (same : ∀ p q, ReadAlike p q → read q = read p) (h : Wraps c c') :
    c'.parts.filterMap read = c.parts.filterMap read := by
  have all (ps : List Construct) : ps.filterMap read = (ps.map read).filterMap id := by
    rw [List.filterMap_map, Function.id_comp]
  rw [all, all, h.map_parts same]

/-- The fields without designators have the same values. -/
theorem Wraps.positionalFields_eq (h : Wraps initializer initializer') :
    initializer'.positionalFields = initializer.positionalFields := by
  by_cases braces : initializer.kind = .initializerList
  · rw [positionalFields_eq_filterMap braces,
      positionalFields_eq_filterMap (h.kind_eq.trans braces)]
    apply h.filterMap_parts
    intro p q alike
    simp only [← designator?_ne_none_iff, alike.designator?, alike.value]
  · rw [positionalFields, positionalFields, if_neg braces, if_neg (h.kind_eq ▸ braces)]

/-- The first field with a designator has the same value. -/
theorem Wraps.designatedField?_eq (h : Wraps initializer initializer') (name : String) :
    initializer'.designatedField? name = initializer.designatedField? name := by
  rw [designatedField?_eq_head?, designatedField?_eq_head?]
  congr 1
  apply h.filterMap_parts
  intro p q alike
  simp only [← designator?_eq_some_iff, alike.designator?, alike.value]

/-- A field has the same value, by designator or position. -/
theorem Wraps.field?_eq {α : Type} (h : Wraps initializer initializer') (designator : String)
    (position : Nat) (read : Value → Option α) :
    initializer'.field? designator position read = initializer.field? designator position read := by
  rw [field?, field?, h.positionalFields_eq, h.designatedField?_eq]

private theorem Wraps.typeReferences_eq (h : Wraps initializer initializer') :
    initializer'.typeReferences = initializer.typeReferences := by
  rw [typeReferences, typeReferences, h.positionalFields_eq, h.designatedField?_eq]

private theorem Wraps.namedFunction?_eq (h : Wraps c c') (f : SourceFile) :
    c'.namedFunction? f = c.namedFunction? f := by
  obtain ⟨_, _, _, _, -, rfl, -⟩ := h.exists_parts
  rfl

/-- A method table lists the same. -/
theorem Wraps.namedTable?_eq (h : Wraps c c') (kind : c.kind = .variable) :
    c'.namedTable? = c.namedTable? := by
  have spelling : c'.spelling = c.spelling := by
    obtain ⟨_, _, _, _, -, rfl, -⟩ := h.exists_parts
    rfl
  rw [namedTable?, namedTable?, Option.map_eq_bind, Option.map_eq_bind, spelling]
  refine h.bind_head? (fun p q inner ↦ ?_) kind
  simp only [Function.comp_apply, inner.readAlike.value]

private theorem Wraps.namedType?_eq (h : Wraps c c') (kind : c.kind = .variable) (f : SourceFile) :
    c'.namedType? f = c.namedType? f := by
  have text : c'.excerpt f = c.excerpt f := by
    obtain ⟨_, _, _, _, -, rfl, -⟩ := h.exists_parts
    rfl
  rw [namedType?, namedType?, text]
  refine h.bind_head? (fun p q inner ↦ ?_) kind
  rw [inner.field?_eq, inner.typeReferences_eq]

private theorem Wraps.structuredModule?_eq (h : Wraps c c') (kind : c.kind = .variable)
    (f : SourceFile) :
    c'.structuredModule? f = c.structuredModule? f := by
  rw [structuredModule?, structuredModule?]
  refine h.bind_head? (fun p q inner ↦ ?_) kind
  rw [inner.field?_eq, inner.field?_eq]

private theorem Wraps.calledModule?_eq (h : Wraps c c') (f : SourceFile) :
    c'.calledModule? f = c.calledModule? f := by
  have argument {α : Type} (read : Construct → Option α)
      (same : ∀ p q, ReadAlike p q → read q = read p) (i : Nat) :
      c'.parts[i]?.bind read = c.parts[i]?.bind read := by
    have all (ps : List Construct) : ps[i]?.bind read = ((ps.map read)[i]?).bind id := by
      rw [List.getElem?_map, Option.bind_map, Function.id_comp]
    rw [all, all, h.map_parts same]
  have table := argument (·.value.name?) (fun p q alike ↦ by rw [alike.value]) 2
  rw [calledModule?, calledModule?, table]
  exact argument _ (fun p q alike ↦ by rw [alike.firstSpelling?]) 1

private theorem Wraps.landmark?_eq (h : Wraps c c') : c'.landmark? = c.landmark? := by
  have declared (kind : c.kind = .variable) :
      c'.landmarkOfVariable? = c.landmarkOfVariable? := by
    have typeName : c'.typeName = c.typeName := by
      obtain ⟨_, _, _, _, -, rfl, -⟩ := h.exists_parts
      rfl
    rw [landmarkOfVariable?, landmarkOfVariable?, typeName]
    exact h.bind_head? (fun p q inner ↦ by rw [inner.kind_eq]) kind
  have spelling : c'.spelling = c.spelling := by
    obtain ⟨_, _, _, _, -, rfl, -⟩ := h.exists_parts
    rfl
  rw [landmark?, landmark?, h.kind_eq, spelling]
  cases kind : c.kind with
  | «variable» => exact declared kind
  | _ => rfl

private theorem kind_of_landmark? {l : Landmark} (h : c.landmark? = some l)
    (noFunction : l ≠ .function) (noCall : l ≠ .moduleCall) : c.kind = .variable := by
  rcases landmark?_eq_some_iff.mp h with ⟨function, -⟩ | ⟨kind, -⟩ | ⟨call, -⟩
  · exact absurd function noFunction
  · exact kind
  · exact absurd call noCall

/-- A construct adds the same to the findings. -/
theorem Wraps.addConstruct_eq (h : Wraps c c') (f : SourceFile) (s : Findings) :
    s.addConstruct f c' = s.addConstruct f c := by
  rw [Findings.addConstruct, Findings.addConstruct, h.landmark?_eq]
  cases landmark : c.landmark? with
  | none => rfl
  | some l =>
    cases l with
    | function => simp only [Findings.addLandmark, h.namedFunction?_eq]
    | methodTable =>
      have kind := kind_of_landmark? landmark (by decide) (by decide)
      simp only [Findings.addLandmark, h.namedTable?_eq kind]
    | typeObject =>
      have kind := kind_of_landmark? landmark (by decide) (by decide)
      simp only [Findings.addLandmark, h.namedType?_eq kind]
    | moduleCall => simp only [Findings.addLandmark, h.calledModule?_eq]
    | moduleStructure =>
      have kind := kind_of_landmark? landmark (by decide) (by decide)
      simp only [Findings.addLandmark, h.structuredModule?_eq kind]

private theorem Tower.foldl_preorder (h : Tower c d) (f : SourceFile) (s : Findings) :
    d.preorder.foldl (Findings.addConstruct f) s =
      c.preorder.foldl (Findings.addConstruct f) s := by
  induction h with
  | refl => rfl
  | @around d kind typeName start stop same _ ih =>
    have nothing : s.addConstruct f (.mk kind "" typeName start stop [d]) = s := by
      rcases same with rfl | rfl <;> rfl
    rw [preorder_eq, List.foldl_cons, nothing, parts, List.flatMap_singleton, ih]

private theorem Wraps.foldl_preorder (h : Wraps c c') (f : SourceFile) (s : Findings) :
    c'.preorder.foldl (Findings.addConstruct f) s =
      c.preorder.foldl (Findings.addConstruct f) s := by
  induction h generalizing s with
  | value other value tower =>
    rw [preorder_eq, preorder_eq, List.foldl_cons, List.foldl_cons,
      (Wraps.value other value tower).addConstruct_eq]
    simp only [parts, List.flatMap_append, List.flatMap_cons, List.foldl_append,
      tower.foldl_preorder]
  | inside inner ih =>
    rw [preorder_eq, preorder_eq, List.foldl_cons, List.foldl_cons,
      inner.inside.addConstruct_eq]
    simp only [parts, List.flatMap_append, List.flatMap_cons, List.foldl_append, ih]

/-- Whatever values of fields and arguments are put in towers, at any depth and one after the other,
a construct is the landmark of the same and gives the same table, type or module, and all constructs
in it contribute the same. -/
theorem survey_of_wraps (h : Relation.ReflTransGen Wraps c c') (f : SourceFile) :
    c'.landmark? = c.landmark? ∧
      (c.landmark? = some .methodTable → c'.namedTable? = c.namedTable?) ∧
      (c.landmark? = some .typeObject → c'.namedType? f = c.namedType? f) ∧
      (c.landmark? = some .moduleCall → c'.calledModule? f = c.calledModule? f) ∧
      (c.landmark? = some .moduleStructure → c'.structuredModule? f = c.structuredModule? f) ∧
      c'.survey f = c.survey f := by
  induction h with
  | refl => exact ⟨rfl, fun _ ↦ rfl, fun _ ↦ rfl, fun _ ↦ rfl, fun _ ↦ rfl, rfl⟩
  | @tail d c' _ last ih =>
    obtain ⟨landmark, table, type, call, structured, survey⟩ := ih
    refine ⟨last.landmark?_eq.trans landmark, fun is ↦ ?_, fun is ↦ ?_, fun is ↦ ?_,
      fun is ↦ ?_, ?_⟩
    · rw [last.namedTable?_eq (kind_of_landmark? (landmark.trans is) nofun nofun), table is]
    · rw [last.namedType?_eq (kind_of_landmark? (landmark.trans is) nofun nofun), type is]
    · rw [last.calledModule?_eq, call is]
    · rw [last.structuredModule?_eq (kind_of_landmark? (landmark.trans is) nofun nofun),
        structured is]
    · rw [← survey, survey_eq_foldl, survey_eq_foldl, last.foldl_preorder]

end Construct

/-! A method table with one entry, and a call that registers a module with it. The function of the
entry and the name of the module are put in casts and parentheses. -/

namespace Enclosed

open Reordered (leaf)
open Construct.Wraps (inside value)

/-- A construct in parentheses behind a cast. -/
def enclosed (c : Construct) : Construct :=
  .mk .cast "" none c.start c.stop [.mk .wrapper "" none c.start c.stop [c]]

/-- The function of the entry. -/
def function : Construct := leaf .reference "m_f" 25

/-- The name of the module. -/
def name : Construct := leaf .stringLiteral "\"m\"" 67

/-- The file. -/
def file : SourceFile :=
  ⟨"/m.c", ("PyMethodDef M[] = \x7b\x7b\"f\", m_f, 0, 0\x7d\x7d;\n" ++
    "void initm() \x7b Py_InitModule(\"m\", M); \x7d\n").toUTF8⟩

/-- What is in it, with a function for the entry and a name for the module. -/
def unit (function name : Construct) : Construct :=
  .mk .wholeFile "/m.c" none 0 78
    [.mk .variable "M" (some "PyMethodDef") 0 37 [.mk .initializerList "" none 18 36
      [.mk .initializerList "" none 19 35 [leaf .stringLiteral "\"f\"" 20, function,
        leaf .literal "0" 30, leaf .literal "0" 33]]],
      .mk .function "initm" none 38 77 [.mk .other "" none 51 77
        [.mk .call "Py_InitModule" none 53 74 [leaf .reference "Py_InitModule" 53, name,
          leaf .reference "M" 72]]]]

private theorem wraps_unit : Relation.ReflTransGen Construct.Wraps (unit function name)
    (unit (enclosed function) (enclosed name)) := by
  have tower (c : Construct) : Construct.Tower c (enclosed c) :=
    .around (.inl rfl) (.around (.inr rfl) .refl)
  have entry : (unit function name).Wraps (unit (enclosed function) name) := by
    refine @inside _ _ _ _ _ [] _ _ _ (@inside _ _ _ _ _ [] _ _ _
      (@inside _ _ _ _ _ [] _ _ _ (@value _ _ _ _ _ [_] _ _ _ ?_ ?_ (tower function))))
    · decide
    · decide
  have call : (unit (enclosed function) name).Wraps (unit (enclosed function) (enclosed name)) := by
    refine @inside _ _ _ _ _ [_] _ _ _ (@inside _ _ _ _ _ [] _ _ _
      (@inside _ _ _ _ _ [] _ _ _ (@value _ _ _ _ _ [_] _ _ _ ?_ ?_ (tower name))))
    · decide
    · decide
  exact (Relation.ReflTransGen.single entry).tail call

/-- The entry still lists the function, and the module is still registered under its name. -/
theorem survey_of_wraps_unit :
    Relation.ReflTransGen Construct.Wraps (unit function name)
        (unit (enclosed function) (enclosed name)) ∧
      ((unit (enclosed function) (enclosed name)).survey file).tables =
        .ofList [("M", .ofList [("f", "m_f")])] ∧
      ((unit (enclosed function) (enclosed name)).survey file).modules =
        .ofList [("m", ⟨⟨file.text, "/m.c"⟩, ["M"]⟩)] := by
  obtain ⟨-, -, -, -, -, survey⟩ := Construct.survey_of_wraps wraps_unit file
  rw [survey]
  exact ⟨wraps_unit, rfl, rfl⟩

end Enclosed

end BuiltinAtlas
