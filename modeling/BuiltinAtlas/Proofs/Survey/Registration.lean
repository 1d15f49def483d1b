import BuiltinAtlas.Proofs.Survey.Latest
import BuiltinAtlas.Proofs.Survey.Value

/-!
# All that a file contributes

The registrations of a module in a file are combined: there is one entry, which has all tables, each
once, in the order in which they occur first. By induction on the constructs: each of them keeps
`Findings.Registered`. Together with what counts of functions, types and method tables this says all
that a file contributes (`Construct.surveyed_survey`).
-/

namespace BuiltinAtlas

private theorem foldl_append_eq_eraseDups (xs ys : List String) :
    ys.foldl (fun ts t ↦ if t ∈ ts then ts else ts ++ [t]) xs.eraseDups = (xs ++ ys).eraseDups := by
  induction ys generalizing xs with
  | nil => rw [List.foldl_nil, List.append_nil]
  | cons y ys ih =>
    have step : (if y ∈ xs.eraseDups then xs.eraseDups else xs.eraseDups ++ [y]) =
        (xs ++ [y]).eraseDups := by
      rw [List.eraseDups_append]
      by_cases known : y ∈ xs <;> simp [known, List.removeAll, List.eraseDups_cons]
    rw [List.foldl_cons, step, ih, List.append_assoc, List.singleton_append]

namespace Construct

variable {c d : Construct} {f : SourceFile} {name : String}

/-- The registrations of a module by some constructs. -/
def registrations (f : SourceFile) (name : String) (ds : List Construct) : List ModuleEntry :=
  ds.filterMap fun d ↦ (d.registration? f).bind fun (other, e) ↦
    if other = name then some e else none

private theorem registrations_of_none (none : d.registration? f = .none) :
    registrations f name [d] = [] := by
  simp [registrations, none]

private theorem registrations_of_some {other : String} {e : ModuleEntry}
    (given : d.registration? f = some (other, e)) :
    registrations f name [d] = if name = other then [e] else [] := by
  by_cases same : name = other
  · simp [registrations, given, same]
  · simp [registrations, given, same, Ne.symm same]

private theorem exists_of_registration? {e : ModuleEntry} (h : d.registration? f = some (name, e)) :
    ∃ tables, e = moduleEntry f tables := by
  rw [registration?] at h
  split at h
  · exact exists_of_calledModule? h
  · exact exists_of_structuredModule? (Option.ite_none_right_eq_some.mp h).2

end Construct

open Construct (functionOf? typeOf? tableOf? registrations registrations_of_none
  registrations_of_some exists_of_registration?)

/-- The entry of a module with some registrations in a file, if there are any: it has the text of
the file, and all tables, each once, in the order in which they occur first. -/
def combined? (f : SourceFile) (es : List ModuleEntry) : Option ModuleEntry :=
  if es = [] then none else some ⟨⟨f.text, f.path⟩, (es.flatMap (·.tables)).eraseDups⟩

namespace Findings

variable {f : SourceFile} {s : Findings} {done : List Construct}

/-- The modules are those that some constructs of a file register. -/
def Registered (f : SourceFile) (done : List Construct) (s : Findings) : Prop :=
  ∀ name, s.modules.find? name = combined? f (registrations f name done)

private theorem find?_addModule {es : List ModuleEntry} {name : String} {e : ModuleEntry}
    (known : s.modules.find? name = combined? f es)
    (entry : ∃ tables, e = Construct.moduleEntry f tables) :
    (s.addModule name e).modules.find? name = combined? f (es ++ [e]) := by
  obtain ⟨tables, rfl⟩ := entry
  rw [addModule, Dictionary.find?_insert, if_pos rfl, known]
  -- The first registration is taken over as it is, which is right as it has at most one table.
  by_cases first : es = []
  · subst first
    cases tables <;> rfl
  · have more : es ++ [Construct.moduleEntry f tables] ≠ [] := by simp
    simp only [combined?, if_neg first, if_neg more]
    rw [foldl_append_eq_eraseDups, List.flatMap_append, List.flatMap_singleton]

/-- One more construct registers its module. -/
theorem Registered.addConstruct (h : s.Registered f done) (d : Construct) :
    (s.addConstruct f d).Registered f (done ++ [d]) := by
  intro name
  have all : registrations f name (done ++ [d]) =
      registrations f name done ++ registrations f name [d] := List.filterMap_append ..
  rw [addConstruct_eq, all]
  cases given : d.registration? f with
  | none =>
    rw [registrations_of_none given, List.append_nil]
    exact h name
  | some registration =>
    obtain ⟨other, e⟩ := registration
    rw [registrations_of_some given]
    -- Only the module that is registered changes.
    by_cases same : name = other
    · subst same
      rw [if_pos rfl]
      exact find?_addModule (h name) (exists_of_registration? given)
    · rw [if_neg same, List.append_nil, ← h name]
      simp only [Option.elim_some, addModule, Dictionary.find?_insert, if_neg same]

private theorem Registered.foldl_addConstruct (h : s.Registered f done) (ds : List Construct) :
    (ds.foldl (Findings.addConstruct f) s).Registered f (done ++ ds) := by
  induction ds generalizing s done with
  | nil => rwa [List.append_nil]
  | cons d ds ih =>
    have rest := ih (h.addConstruct d)
    rwa [List.append_assoc, List.singleton_append] at rest

end Findings

namespace Construct

variable {c d : Construct} {f : SourceFile} {name : String}

private theorem modules_survey (c : Construct) (f : SourceFile) (name : String) :
    (c.survey f).modules.find? name = combined? f (registrations f name c.preorder) := by
  have nothing : Findings.Registered f [] {} := fun _ ↦ rfl
  rw [survey_eq_foldl]
  exact nothing.foldl_addConstruct c.preorder name

/-- The modules of a file have its whole text, and its path. -/
theorem excerpt_of_modules_survey {e : ModuleEntry}
    (h : (c.survey f).modules.find? name = some e) : e.toExcerpt = ⟨f.text, f.path⟩ := by
  rw [modules_survey, combined?, Option.ite_none_left_eq_some] at h
  obtain ⟨-, h⟩ := h
  cases h
  rfl

/-- A construct is reached from another one through parts, at any depth. -/
abbrev Reaches : Construct → Construct → Prop :=
  Relation.ReflTransGen fun outer part ↦ part ∈ outer.parts

/-- The constructs in several ones, one after the other. -/
theorem preorders_eq_flatMap (cs : List Construct) : preorders cs = cs.flatMap preorder := by
  induction cs with
  | nil => rfl
  | cons c cs ih => rw [preorders, ih, List.flatMap_cons]

/-- A construct comes before all in its parts. -/
theorem preorder_eq (c : Construct) : c.preorder = c :: c.parts.flatMap preorder := by
  obtain ⟨kind, spelling, typeName, start, stop, parts⟩ := c
  rw [preorder, preorders_eq_flatMap]
  rfl

end Construct

end BuiltinAtlas
