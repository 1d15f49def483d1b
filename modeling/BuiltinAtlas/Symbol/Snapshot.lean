import BuiltinAtlas.Json.Reader
import BuiltinAtlas.Symbol.Basic

/-!
# Snapshots of objects

A `Snapshot` is what an interpreter's own reflection says about an object. `Snapshot.classify` finds
out which symbol the object stands for.
-/

namespace BuiltinAtlas

/-- The class of an object. -/
structure ClassInfo where
  name : String
  moduleName : Option String
  deriving DecidableEq

/-- What reflection says about an object. -/
structure Snapshot where
  name : Option String := none
  moduleName : Option String := none
  isBuiltin : Bool := false
  isDescriptor : Bool := false
  isModule : Bool := false
  isType : Bool := false
  receiver : Option Receiver := none
  owner : Option String := none
  classInfo : Option ClassInfo := none
  source : Option String := none
  file : Option String := none
  deriving DecidableEq

/-- An object that stands for no symbol. -/
structure Unsupported where
  /-- The name of the object, or what is said in its place. -/
  label : String
  deriving DecidableEq

namespace Snapshot

/-- The name, which a built-in object must have. -/
def requiredName (s : Snapshot) : Except Unsupported String :=
  match s.name with
  | some n => .ok n
  | none => .error ⟨"object without a name"⟩

/-- The symbol of an object: itself if it has a source, else what its flags say, else its class. A
built-in without a module is a method. -/
def classify (s : Snapshot) : Except Unsupported Symbol :=
  match s.source with
  | some source => .ok (.plain (s.name.getD "") ⟨source, s.file.getD ""⟩)
  | none =>
    if s.isBuiltin then s.requiredName.map fun n ↦ match s.moduleName with
      | none => .method n none s.receiver
      | some m => .function n (some m)
    else if s.isDescriptor then s.requiredName.map fun n ↦ .descriptor n s.owner
    else if s.isModule then s.requiredName.map .module
    else if s.isType then s.requiredName.map fun n ↦ .type n s.moduleName
    else match s.classInfo with
      | some c => .ok (.type c.name c.moduleName)
      | none => .error ⟨s.name.getD "<anonymous>"⟩

end Snapshot

open BuiltinAtlas.Json

/-- Read a receiver: an object whose only key says what it is. -/
def Receiver.reader : Reader Receiver :=
  choice [
    ("type", fun t ↦ (record [.of "name" text (fun v _ ↦ v) false] "" t).map .type),
    ("instance", fun t ↦ (record [.of "class_name" text (fun v _ ↦ v) false] "" t).map .object)]

/-- Read the class of an object. -/
def ClassInfo.reader : Reader ClassInfo :=
  record [
    .of "name" text (fun v c ↦ { c with name := v }) false,
    .of "module" (option text) (fun v c ↦ { c with moduleName := v }) true] ⟨"", none⟩

/-- Read a snapshot, any part of which may be left out. -/
def Snapshot.reader : Reader Snapshot :=
  record [
    .of "name" (option text) (fun v s ↦ { s with name := v }) true,
    .of "module" (option text) (fun v s ↦ { s with moduleName := v }) true,
    .of "builtin" bool (fun v s ↦ { s with isBuiltin := v }) true,
    .of "method_descriptor" bool (fun v s ↦ { s with isDescriptor := v }) true,
    .of "module_object" bool (fun v s ↦ { s with isModule := v }) true,
    .of "type_object" bool (fun v s ↦ { s with isType := v }) true,
    .of "receiver" (option Receiver.reader) (fun v s ↦ { s with receiver := v }) true,
    .of "owner" (option text) (fun v s ↦ { s with owner := v }) true,
    .of "class" (option ClassInfo.reader) (fun v s ↦ { s with classInfo := v }) true,
    .of "source" (option text) (fun v s ↦ { s with source := v }) true,
    .of "file" (option text) (fun v s ↦ { s with file := v }) true] {}

/-- The snapshot of a text. -/
def Snapshot.read (s : String) : Except Fault Snapshot := Snapshot.reader.run s

end BuiltinAtlas
