import BuiltinAtlas.Atlas.Basic
import BuiltinAtlas.Source.File
import BuiltinAtlas.Survey.Landmark
import BuiltinAtlas.Survey.Value

/-!
# What a file contributes

`Construct.survey` turns the landmarks of a file into findings. Of two functions, types or tables
with one name the later one counts; registrations of one module are combined.
-/

namespace BuiltinAtlas

namespace Construct

/-- The text of a construct in a file. -/
def excerpt (c : Construct) (f : SourceFile) : Excerpt := ⟨f.span c.start c.stop, f.path⟩

/-- The fields of an initializer in braces that have no designator, in order. -/
def positionalFields (initializer : Construct) : List Value :=
  if initializer.kind = .initializerList then
    (initializer.parts.filter (·.kind ≠ .designated)).map value
  else []

/-- The first field of an initializer with a given designator. -/
def designatedField? (initializer : Construct) (field : String) : Option Value :=
  (initializer.parts.find? fun p ↦ p.kind = .designated ∧ p.spelling = field).map value

/-- The field with a designator if that gives a result, else the one at a position. -/
def field? {α : Type} (initializer : Construct) (designator : String) (position : Nat)
    (read : Value → Option α) : Option α :=
  ((initializer.designatedField? designator).bind read).or
    ((initializer.positionalFields[position]?).bind read)

/-- A function under its name. -/
def namedFunction? (c : Construct) (f : SourceFile) : Option (String × Excerpt) :=
  if c.spelling.isEmpty then none else some (c.spelling, c.excerpt f)

/-- The name and the function that an entry of a method table pairs: the first two of exactly four
fields. -/
def tableEntry? (entry : Value) : Option (String × String) :=
  match entry.items with
  | [method, function, _, _] => do return (← method.unquoted?, ← function.spelling?)
  | _ => none

/-- A method table under its name. The last entry for a method counts. -/
def namedTable? (c : Construct) : Option (String × MethodTable) :=
  c.parts.head?.map fun initializer ↦
    (c.spelling, .ofList (initializer.value.items.filterMap tableEntry?))

/-- The names that the definition of a type refers to: those in its fields behind the name, and the
base type. -/
def typeReferences (initializer : Construct) : List String :=
  let fields := (initializer.positionalFields.drop 4).filterMap (·.name?)
  match (initializer.designatedField? "tp_base").bind (·.name?) with
  | some base => if base ∈ fields then fields else fields ++ [base]
  | none => fields

/-- A type under the name that the interpreter knows. Three fields that the head of every object
has come before the name. -/
def namedType? (c : Construct) (f : SourceFile) : Option (String × TypeEntry) := do
  let initializer ← c.parts.head?
  let name ← initializer.field? "tp_name" 3 (·.unquoted?)
  return (name, { c.excerpt f with references := initializer.typeReferences })

/-- The entry of a module that a file registers. -/
def moduleEntry (f : SourceFile) (tables : Option String) : ModuleEntry :=
  ⟨⟨f.text, f.path⟩, tables.toList⟩

/-- A module that is registered by a call: the callee, the name, and perhaps the method table. -/
def calledModule? (c : Construct) (f : SourceFile) : Option (String × ModuleEntry) := do
  let argument ← c.parts[1]?
  let name ← unquote? (← argument.firstSpelling?)
  return (name, moduleEntry f ((c.parts[2]?).bind fun t ↦ t.value.name?))

/-- A module that is registered by a structure. -/
def structuredModule? (c : Construct) (f : SourceFile) : Option (String × ModuleEntry) := do
  let initializer ← c.parts.head?
  let name ← initializer.field? "m_name" 1 (·.unquoted?)
  return (name, moduleEntry f (initializer.field? "m_methods" 4 (·.name?)))

end Construct

namespace Findings

/-- Add a registration of a module. Tables that are not yet known of the module are appended. -/
def addModule (s : Findings) (name : String) (e : ModuleEntry) : Findings :=
  let combined := match s.modules.find? name with
    | none => e
    | some known =>
      { known with
        tables := e.tables.foldl (fun ts t ↦ if t ∈ ts then ts else ts ++ [t]) known.tables }
  { s with modules := s.modules.insert name combined }

/-- Add what a landmark defines or registers. -/
def addLandmark (f : SourceFile) (s : Findings) : Landmark × Construct → Findings
  | (.function, c) => ((c.namedFunction? f).map fun (name, e) ↦
      { s with functions := s.functions.insert name e }).getD s
  | (.methodTable, c) => (c.namedTable?.map fun (name, t) ↦
      { s with tables := s.tables.insert name t }).getD s
  | (.typeObject, c) => ((c.namedType? f).map fun (name, e) ↦
      { s with types := s.types.insert name e }).getD s
  | (.moduleCall, c) => ((c.calledModule? f).map fun (name, e) ↦ s.addModule name e).getD s
  | (.moduleStructure, c) =>
    ((c.structuredModule? f).map fun (name, e) ↦ s.addModule name e).getD s

end Findings

/-- What a file contributes. -/
def Construct.survey (c : Construct) (f : SourceFile) : Findings :=
  c.landmarks.foldl (Findings.addLandmark f) {}

end BuiltinAtlas
