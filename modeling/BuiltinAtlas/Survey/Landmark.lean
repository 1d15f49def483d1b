import BuiltinAtlas.Construct.Basic

/-!
# Landmarks

A landmark is a construct that defines or registers something: by convention method tables are
arrays of `PyMethodDef`, types are variables of type `PyTypeObject`, and modules are registered by a
call of some `Py_InitModule` or by a `PyModuleDef`. `Construct.landmarks` lists them in the order in
which they begin.
-/

namespace BuiltinAtlas

/-- What a landmark defines or registers. -/
inductive Landmark where
  | function
  | methodTable
  | typeObject
  /-- A call that registers a module. -/
  | moduleCall
  /-- A structure that registers a module. -/
  | moduleStructure
  deriving DecidableEq

namespace Construct

/-- What a variable is a landmark of: its declared type says it, and tables and modules need an
initializer in braces. -/
def landmarkOfVariable? (c : Construct) : Option Landmark :=
  c.parts.head?.bind fun initializer ↦
    match c.typeName, initializer.kind with
    | some "PyMethodDef", .initializerList => some .methodTable
    | some "PyTypeObject", _ => some .typeObject
    | some "PyModuleDef", .initializerList => some .moduleStructure
    | _, _ => none

/-- What a construct is a landmark of. -/
def landmark? (c : Construct) : Option Landmark :=
  match c.kind with
  | .function => if c.spelling.isEmpty then none else some .function
  | .variable => c.landmarkOfVariable?
  | .call => if "Py_InitModule".toList.isPrefixOf c.spelling.toList then some .moduleCall else none
  | _ => none

mutual

/-- A construct and all constructs in it, each before its parts. -/
def preorder : Construct → List Construct
  | .mk kind spelling typeName start stop parts =>
    .mk kind spelling typeName start stop parts :: preorders parts

/-- Some constructs and all constructs in them. -/
def preorders : List Construct → List Construct
  | [] => []
  | c :: cs => preorder c ++ preorders cs

end

/-- The landmarks in a construct. -/
def landmarks (c : Construct) : List (Landmark × Construct) :=
  c.preorder.filterMap fun d ↦ d.landmark?.map fun l ↦ (l, d)

end Construct

end BuiltinAtlas
