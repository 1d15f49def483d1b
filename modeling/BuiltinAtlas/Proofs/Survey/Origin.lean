import BuiltinAtlas.Proofs.Dictionary.Lookup
import BuiltinAtlas.Survey.Findings

/-!
# Where findings are from

Every type, module and function that is found in a file records the path of that file. By induction
on the landmarks: each of them keeps `Findings.AllFrom`.
-/

namespace BuiltinAtlas

namespace Construct

private theorem path_of_namedFunction? {c : Construct} {f : SourceFile} {name : String}
    {e : Excerpt} (h : c.namedFunction? f = some (name, e)) : e.path = f.path := by
  rw [namedFunction?] at h
  split at h
  · cases h
  · cases h
    rfl

/-- The name and the references of a type are in its initializer. -/
theorem namedType?_eq_some_iff {c : Construct} {f : SourceFile} {name : String} {e : TypeEntry} :
    c.namedType? f = some (name, e) ↔ ∃ initializer, c.parts.head? = some initializer ∧
      initializer.field? "tp_name" 3 (·.unquoted?) = some name ∧
      e = { c.excerpt f with references := initializer.typeReferences } := by
  simp only [namedType?, Option.bind_eq_bind, Option.bind_eq_some_iff, Option.pure_def,
    Option.some.injEq, Prod.mk.injEq]
  constructor
  · rintro ⟨initializer, first, _, named, rfl, rfl⟩
    exact ⟨initializer, first, named, rfl⟩
  · rintro ⟨initializer, first, named, rfl⟩
    exact ⟨initializer, first, name, named, rfl, rfl⟩

/-- A named type has the text of the construct that declares it. -/
theorem excerpt_of_namedType? {c : Construct} {f : SourceFile} {name : String} {e : TypeEntry}
    (h : c.namedType? f = some (name, e)) : e.toExcerpt = c.excerpt f := by
  obtain ⟨_, -, -, rfl⟩ := namedType?_eq_some_iff.mp h
  rfl

/-- A module that a call registers has the entry of the file. -/
theorem exists_of_calledModule? {c : Construct} {f : SourceFile} {name : String} {e : ModuleEntry}
    (h : c.calledModule? f = some (name, e)) : ∃ tables, e = moduleEntry f tables := by
  simp only [calledModule?, Option.bind_eq_bind, Option.bind_eq_some_iff] at h
  obtain ⟨_, -, _, -, _, -, h⟩ := h
  cases h
  exact ⟨_, rfl⟩

/-- A module that a structure registers has the entry of the file. -/
theorem exists_of_structuredModule? {c : Construct} {f : SourceFile} {name : String}
    {e : ModuleEntry} (h : c.structuredModule? f = some (name, e)) :
    ∃ tables, e = moduleEntry f tables := by
  simp only [structuredModule?, Option.bind_eq_bind, Option.bind_eq_some_iff] at h
  obtain ⟨_, -, _, -, h⟩ := h
  cases h
  exact ⟨_, rfl⟩

end Construct

namespace Findings

/-- All entries that record a path record a given one. -/
structure AllFrom (s : Findings) (path : String) : Prop where
  types : ∀ name e, s.types.find? name = some e → e.path = path
  modules : ∀ name e, s.modules.find? name = some e → e.path = path
  functions : ∀ name e, s.functions.find? name = some e → e.path = path

namespace AllFrom

variable {s : Findings} {path : String}

private theorem of_find?_insert {β : Type} {P : β → Prop} {d : Dictionary β} {name : String}
    {new : β} (hold : ∀ other e, d.find? other = some e → P e) (hnew : P new) (other : String)
    (e : β) (h : (d.insert name new).find? other = some e) : P e := by
  rw [Dictionary.find?_insert] at h
  split at h
  · cases h
    exact hnew
  · exact hold other e h

private theorem insertType (h : s.AllFrom path) {name : String} {e : TypeEntry}
    (he : e.path = path) :
    AllFrom { s with types := s.types.insert name e } path :=
  ⟨of_find?_insert h.types he, h.modules, h.functions⟩

private theorem insertFunction (h : s.AllFrom path) {name : String} {e : Excerpt}
    (he : e.path = path) :
    AllFrom { s with functions := s.functions.insert name e } path :=
  ⟨h.types, h.modules, of_find?_insert h.functions he⟩

/-- A registration of a module is added. -/
theorem addModule (h : s.AllFrom path) {name : String} {e : ModuleEntry} (he : e.path = path) :
    (s.addModule name e).AllFrom path := by
  refine ⟨h.types, of_find?_insert h.modules ?_, h.functions⟩
  split
  · exact he
  · next known hknown => exact h.modules name known hknown

/-- A landmark is added. -/
theorem addLandmark {f : SourceFile} (h : s.AllFrom f.path) (landmark : Landmark × Construct) :
    (s.addLandmark f landmark).AllFrom f.path := by
  obtain ⟨kind, c⟩ := landmark
  cases kind with
  | function =>
    rw [Findings.addLandmark]
    cases hc : c.namedFunction? f with
    | none => exact h
    | some named => exact h.insertFunction (Construct.path_of_namedFunction? hc)
  | methodTable =>
    rw [Findings.addLandmark]
    cases c.namedTable? with
    | none => exact h
    | some named => exact ⟨h.types, h.modules, h.functions⟩
  | typeObject =>
    rw [Findings.addLandmark]
    cases hc : c.namedType? f with
    | none => exact h
    | some named => exact h.insertType (congrArg (·.path) (Construct.excerpt_of_namedType? hc))
  | moduleCall =>
    rw [Findings.addLandmark]
    cases hc : c.calledModule? f with
    | none => exact h
    | some named =>
      obtain ⟨tables, same⟩ := Construct.exists_of_calledModule? hc
      exact h.addModule (congrArg (·.path) same)
  | moduleStructure =>
    rw [Findings.addLandmark]
    cases hc : c.structuredModule? f with
    | none => exact h
    | some named =>
      obtain ⟨tables, same⟩ := Construct.exists_of_structuredModule? hc
      exact h.addModule (congrArg (·.path) same)

private theorem foldl_addLandmark {f : SourceFile} (h : s.AllFrom f.path)
    (landmarks : List (Landmark × Construct)) :
    (landmarks.foldl (Findings.addLandmark f) s).AllFrom f.path := by
  induction landmarks generalizing s with
  | nil => exact h
  | cons landmark landmarks ih => exact ih (h.addLandmark landmark)

end AllFrom

private theorem allFrom_empty (path : String) : AllFrom {} path := ⟨nofun, nofun, nofun⟩

end Findings

/-- All that is found in a file is from there. -/
theorem Construct.allFrom_survey (c : Construct) (f : SourceFile) : (c.survey f).AllFrom f.path :=
  (Findings.allFrom_empty f.path).foldl_addLandmark c.landmarks

end BuiltinAtlas
