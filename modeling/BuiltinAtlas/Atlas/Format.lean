import BuiltinAtlas.Atlas.Basic
import BuiltinAtlas.Json.Printer
import BuiltinAtlas.Json.Reader

/-!
# The written form of an atlas

An atlas is written as a JSON object of five objects. Reading is permissive: anything that is left
out is empty, and fields that mean nothing here are passed over.
-/

namespace BuiltinAtlas

open BuiltinAtlas.Json

/-- The fields that all entries have. -/
def excerptDocument (e : Excerpt) : List (String × Document) :=
  [("source", .text e.source), ("path", .text e.path)]

/-- An array of texts. -/
def textsDocument (ts : List String) : Document := .array (ts.map .text)

/-- An object with the keys of a dictionary. -/
def dictionaryDocument {α : Type} (f : α → Document) (d : Dictionary α) : Document :=
  .object (d.entries.map fun e ↦ (e.1, f e.2))

/-- The written form of a function. -/
def Excerpt.document (e : Excerpt) : Document := .object (excerptDocument e)

/-- The written form of a type. -/
def TypeEntry.document (e : TypeEntry) : Document :=
  .object (excerptDocument e.toExcerpt ++ [("references", textsDocument e.references)])

/-- The written form of a module. -/
def ModuleEntry.document (e : ModuleEntry) : Document :=
  .object (excerptDocument e.toExcerpt ++ [("method_maps", textsDocument e.tables)])

/-- The written form of an atlas. -/
def Atlas.document (a : Atlas) : Document :=
  .object [
    ("objects", dictionaryDocument TypeEntry.document a.types),
    ("modules", dictionaryDocument ModuleEntry.document a.modules),
    ("method_names", dictionaryDocument (dictionaryDocument .text) a.tables),
    ("methods", dictionaryDocument Excerpt.document a.functions),
    ("hashes", dictionaryDocument .text a.digests)]

/-- The written form of statistics. -/
def Statistics.document (s : Statistics) : Document :=
  .object [
    ("index_path", .text s.indexPath),
    ("objects", .number s.types),
    ("modules", .number s.modules),
    ("method_maps", .number s.tables),
    ("methods", .number s.functions),
    ("indexed_files", .number s.files)]

/-- Read a function. -/
def Excerpt.reader : Reader Excerpt :=
  record [
    .of "source" text (fun v e ↦ { e with source := v }) false,
    .of "path" text (fun v e ↦ { e with path := v }) false] ⟨"", ""⟩

/-- Read a type. -/
def TypeEntry.reader : Reader TypeEntry :=
  record [
    .of "source" text (fun v e ↦ { e with source := v }) false,
    .of "path" text (fun v e ↦ { e with path := v }) false,
    .of "references" (list text) (fun v e ↦ { e with references := v }) true] ⟨⟨"", ""⟩, []⟩

/-- Read a module. -/
def ModuleEntry.reader : Reader ModuleEntry :=
  record [
    .of "source" text (fun v e ↦ { e with source := v }) false,
    .of "path" text (fun v e ↦ { e with path := v }) false,
    .of "method_maps" (list text) (fun v e ↦ { e with tables := v }) true] ⟨⟨"", ""⟩, []⟩

/-- Read an atlas. -/
def Atlas.reader : Reader Atlas :=
  record [
    .of "objects" (dictionary TypeEntry.reader) (fun v a ↦ { a with types := v }) true,
    .of "modules" (dictionary ModuleEntry.reader) (fun v a ↦ { a with modules := v }) true,
    .of "method_names" (dictionary (dictionary text)) (fun v a ↦ { a with tables := v }) true,
    .of "methods" (dictionary Excerpt.reader) (fun v a ↦ { a with functions := v }) true,
    .of "hashes" (dictionary text) (fun v a ↦ { a with digests := v }) true] .empty

/-- The text of an atlas. -/
def Atlas.write (a : Atlas) : String := a.document.pretty

/-- The atlas of a text. -/
def Atlas.read (s : String) : Except Fault Atlas := Atlas.reader.run s

end BuiltinAtlas
