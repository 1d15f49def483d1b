import BuiltinAtlas.Index.Query
import BuiltinAtlas.Proofs.Index.History
import BuiltinAtlas.Proofs.Index.Visited
import BuiltinAtlas.Proofs.Survey.Registration

/-!
# Looking up what was indexed

After a new version of a file was indexed, its modules and types are answered with the text of that
version, whatever the index held before, and so are the functions in its tables if the index held
nothing (`lookupSymbol_of_indexPath`).
-/

namespace BuiltinAtlas

open Construct (defines declaresType)

private theorem lookupSymbol_of_find {index : RawText} {w : World} {place : ValidPlace} {a : Atlas}
    (found : w.files.find index = .ok (place, .file a.write.toUTF8)) (s : Symbol) :
    (lookupSymbol index s).runOn w = (.ok (a.lookup s), w) := by
  have file : w.files.isFile index = true := FileSystem.isFile_iff.mpr ⟨place, _, found⟩
  rw [lookupSymbol, Job.runOn_bind, loadExistingAtlas_runOn, if_pos file,
    FileSystem.readAtlas_of_find found]
  rfl

private theorem FileSystem.runOver_file {reader : FileReader} {fs : FileSystem} {f : FileVersion}
    {c : Construct} {a : Atlas} (there : fs.read f.path = .ok f.bytes)
    (readable : reader f.source = .ok c) (changed : a.digest? f.key ≠ some (Sha256.hex f.bytes)) :
    (fs.runOver reader f.path a).atlas =
      a.replaceFile f.source.path (c.survey f.source) (Sha256.hex f.bytes) := by
  obtain ⟨place, found⟩ := read_eq_ok_iff.mp there
  have unknown : a.upToDate fs f.path = false := Atlas.upToDate_eq_false there changed
  rw [runOver, visited_of_find_file found, List.foldl_cons, List.foldl_nil,
    Run.addFile_of_readable (r := ⟨a, { root := f.path.text }, []⟩) unknown there readable]
  rfl

namespace Atlas

variable {a : Atlas} {f : SourceFile} {c : Construct} {name digest : String}

private theorem lookup_module_replaceFile (a : Atlas) (digest : String)
    (extracted : (c.survey f).modules.contains name = true) :
    (a.replaceFile f.path (c.survey f) digest).lookup (.module name) =
      some ⟨f.text, f.path⟩ := by
  obtain ⟨e, found⟩ := Option.isSome_iff_exists.mp extracted
  have known : (a.replaceFile f.path (c.survey f) digest).modules.find? name = some e := by
    rw [replaceFile, Dictionary.find?_override, found, Option.some_or]
  rw [lookup, known, Option.map_some, Construct.excerpt_of_modules_survey found]

private theorem lookup_type_replaceFile (a : Atlas) (digest : String) (moduleName : Option String)
    (extracted : (c.survey f).types.contains name = true) :
    ∃ d, (c.preorder.filter (declaresType name)).getLast? = some d ∧
      (a.replaceFile f.path (c.survey f) digest).lookup (.type name moduleName) =
        some (d.excerpt f) := by
  obtain ⟨e, found⟩ := Option.isSome_iff_exists.mp extracted
  have known : (a.replaceFile f.path (c.survey f) digest).types.find? name = some e := by
    rw [replaceFile, Dictionary.find?_override, found, Option.some_or]
  obtain ⟨d, last, text⟩ := Construct.exists_of_types_survey found
  refine ⟨d, last, ?_⟩
  rw [lookup, known, Option.map_some, text]

private theorem acceptedName?_none (table : MethodTable) (name : String) :
    acceptedName? table name none none = table.find? name := by
  rw [acceptedName?]
  cases table.find? name <;> rfl

private theorem lookup_function_replaceFile (digest : String)
    (listed : ∃ key table, (c.survey f).tables.find? key = some table ∧
      table.contains name = true) :
    ∃ key table cName, (c.survey f).tables.find? key = some table ∧
      table.find? name = some cName ∧
      (∀ other table', (c.survey f).tables.find? other = some table' →
        table'.contains name = true → key ≤ other) ∧
      (Atlas.empty.replaceFile f.path (c.survey f) digest).lookup (.function name none) =
        (c.preorder.filter (defines cName)).getLast?.map fun d ↦ d.excerpt f := by
  have tables : (Atlas.empty.replaceFile f.path (c.survey f) digest).tables =
      (c.survey f).tables := Dictionary.empty_override _
  have functions : (Atlas.empty.replaceFile f.path (c.survey f) digest).functions =
      (c.survey f).functions := Dictionary.empty_override _
  have fits (table : MethodTable) : table.contains name = true ↔
      acceptedName? table name none none ≠ none := by
    rw [acceptedName?_none, Dictionary.contains, Option.isSome_iff_ne_none]
  simp only [fits] at listed ⊢
  obtain ⟨key, table, cName, found, accepted, first, least⟩ := Dictionary.findSome?_values listed
  refine ⟨key, table, cName, found, (acceptedName?_none table name).symm.trans accepted, least, ?_⟩
  rw [← c.functions_survey f cName, ← functions]
  simp only [lookup, Symbol.name, Symbol.typeName?, Symbol.moduleName?, findMethod]
  rw [tables, first, Option.bind_some]

end Atlas

/-- After a new version of a file was indexed, its modules are answered with its text, its types
with the text of the last one that has the name, and if nothing was indexed before, the functions in
its tables with the text of the last definition of the C name in the least table, if there is
one. -/
theorem lookupSymbol_of_indexPath {reader : FileReader} {index path : RawText} {w w' : World}
    {f : FileVersion} {c : Construct} {a : Atlas} {report : Report}
    (canonical : w.files.canonicalPath path = .ok f.path)
    (there : w.files.read f.path = .ok f.bytes) (readable : reader f.source = .ok c)
    (stored : w.files.storedAtlas index = .ok a)
    (changed : a.digest? f.key ≠ some (Sha256.hex f.bytes))
    (ran : (indexPath reader index path).runOn w = (.ok report, w')) :
    (∀ name, (c.survey f.source).modules.contains name = true →
      (lookupSymbol index (.module name)).runOn w' = (.ok (some ⟨f.source.text, f.key⟩), w')) ∧
    (∀ name moduleName, (c.survey f.source).types.contains name = true →
      ∃ d, (c.preorder.filter (declaresType name)).getLast? = some d ∧
        (lookupSymbol index (.type name moduleName)).runOn w' =
          (.ok (some ⟨f.source.span d.start d.stop, f.key⟩), w')) ∧
    (a = .empty → ∀ name,
      (∃ key table, (c.survey f.source).tables.find? key = some table ∧
        table.contains name = true) →
      ∃ key table cName, (c.survey f.source).tables.find? key = some table ∧
        table.find? name = some cName ∧
        (∀ other table', (c.survey f.source).tables.find? other = some table' →
          table'.contains name = true → key ≤ other) ∧
        (lookupSymbol index (.function name none)).runOn w' =
          (.ok ((c.preorder.filter (defines cName)).getLast?.map fun d ↦
            ⟨f.source.span d.start d.stop, f.key⟩), w')) := by
  obtain ⟨root, a', prepared, place, canonical', stored', saves, -, files⟩ :=
    exists_of_indexPath ran
  cases canonical.symm.trans canonical'
  cases stored.symm.trans stored'
  rw [FileSystem.runOver_file there readable changed] at files
  have found := saves.find
    (a.replaceFile f.source.path (c.survey f.source) (Sha256.hex f.bytes)).write.toUTF8
  rw [← files] at found
  have answer := lookupSymbol_of_find found
  refine ⟨?_, ?_, ?_⟩
  · intro name extracted
    rw [answer, Atlas.lookup_module_replaceFile a _ extracted]
    rfl
  · intro name moduleName extracted
    obtain ⟨d, last, known⟩ := Atlas.lookup_type_replaceFile a (Sha256.hex f.bytes) moduleName
      extracted
    refine ⟨d, last, ?_⟩
    rw [answer, known]
    rfl
  · rintro rfl name listed
    obtain ⟨key, table, cName, here, named, least, known⟩ :=
      Atlas.lookup_function_replaceFile (Sha256.hex f.bytes) listed
    refine ⟨key, table, cName, here, named, least, ?_⟩
    rw [answer, known]
    rfl

/-! A source that defines a function twice, and lists it in two tables under the same name with
another one. -/

namespace Answered

open Sample

/-- The lines of the source. -/
def lines : List String := [
  "int f() \x7b\x7d",
  "int g() \x7b\x7d",
  "int f() \x7b\x7d",
  "PyMethodDef A[] = \x7b\x7b\"m\", f, 0, 0\x7d\x7d;",
  "PyMethodDef B[] = \x7b\x7b\"m\", g, 0, 0\x7d\x7d;",
  "PyTypeObject S = \x7b.tp_name = \"T\"\x7d;",
  "PyTypeObject T = \x7b.tp_name = \"T\"\x7d;",
  "PyModuleDef D = \x7b.m_name = \"d\"\x7d;"]

/-- The source. -/
def source : FileVersion := ⟨"/m.c", ("\n".intercalate lines ++ "\n").toUTF8⟩

/-- A table that lists a function as `m`. -/
def methods (name function : String) (start : Nat) : Construct :=
  .mk .variable name (some "PyMethodDef") start (start + 35) [
    .mk .initializerList "" none (start + 18) (start + 34) [
      .mk .initializerList "" none (start + 19) (start + 33) [
        .mk .stringLiteral "\"m\"" none (start + 20) (start + 23) [],
        .mk .reference function none (start + 25) (start + 26) [],
        .mk .literal "0" none (start + 28) (start + 29) [],
        .mk .literal "0" none (start + 31) (start + 32) []]]]

/-- A variable with one field, which is a text. -/
def initialized (name type field text : String) (start stop : Nat) : Construct :=
  .mk .variable name (some type) start stop [
    .mk .initializerList "" none (start + 17) (stop - 1) [
      .mk .designated field none (start + 18) (stop - 2) [
        .mk .stringLiteral text none (stop - 5) (stop - 2) []]]]

/-- What is in the source. -/
def parts : List Construct := [
  function "f" 0, function "g" 11, function "f" 22, methods "A" "f" 33, methods "B" "g" 69,
  initialized "S" "PyTypeObject" "tp_name" "\"T\"" 105 139,
  initialized "T" "PyTypeObject" "tp_name" "\"T\"" 140 174,
  initialized "D" "PyModuleDef" "m_name" "\"d\"" 175 207]

/-- What the source is read as. -/
def unit : Construct := .mk .wholeFile source.key none 0 source.bytes.size parts

/-- The reader that knows what is in the source. -/
def reader : FileReader := Sample.reader [(source, parts)]

/-- The file system with the source. -/
def files : FileSystem := FileSystem.empty.putFile ⟨["m.c"], by decide⟩ source.bytes

private theorem tables_survey : (unit.survey source.source).tables =
    .ofList [("A", .ofList [("m", "f")]), ("B", .ofList [("m", "g")])] := rfl

private theorem eq_of_least {key cName : String} {table : MethodTable}
    (found : (unit.survey source.source).tables.find? key = some table)
    (named : table.find? "m" = some cName)
    (least : ∀ other table', (unit.survey source.source).tables.find? other = some table' →
      table'.contains "m" = true → key ≤ other) : cName = "f" := by
  rw [tables_survey] at found least
  have first := least "A" (.ofList [("m", "f")]) (by decide) (by decide)
  have mem := Dictionary.mem_entries_iff.mpr found
  have entries : (Dictionary.ofList [("A", Dictionary.ofList [("m", "f")]),
      ("B", .ofList [("m", "g")])]).entries =
      [("A", .ofList [("m", "f")]), ("B", .ofList [("m", "g")])] := by decide
  rw [entries, List.mem_cons, List.mem_singleton] at mem
  rcases mem with same | same
  · cases same
    exact (Option.some.inj named).symm
  · cases same
    exact absurd first (by decide)

/-- The module, the type and the function are answered with their texts. -/
theorem lookupSymbol_of_indexPath_source : ∃ w',
    (indexPath reader "/i.json" "/m.c").runOn ⟨files, []⟩ =
      (.ok { root := "/m.c", scanned := 1, indexed := 1 }, w') ∧
    (lookupSymbol "/i.json" (.module "d")).runOn w' =
      (.ok (some ⟨source.source.text, "/m.c"⟩), w') ∧
    (lookupSymbol "/i.json" (.type "T" none)).runOn w' =
      (.ok (some ⟨"PyTypeObject T = \x7b.tp_name = \"T\"\x7d;", "/m.c"⟩), w') ∧
    (lookupSymbol "/i.json" (.function "m" none)).runOn w' =
      (.ok (some ⟨"int f() \x7b\x7d", "/m.c"⟩), w') := by
  have canonical : files.canonicalPath "/m.c" = .ok source.path := rfl
  have there : files.read source.path = .ok source.bytes := rfl
  have readable : reader source.source = .ok unit := by simp [reader, Sample.reader, unit]
  have stored : files.storedAtlas "/i.json" = .ok .empty := rfl
  have located : files.locate "/i.json" true = .ok indexPlace := rfl
  have saves : files.Saves "/i.json" files indexPlace := .of_locate located (by decide) (.inl rfl)
  have report : (files.runOver reader "/m.c" .empty).report =
      { root := "/m.c", scanned := 1, indexed := 1 } := rfl
  obtain ⟨w', ran⟩ : ∃ w', (indexPath reader "/i.json" "/m.c").runOn ⟨files, []⟩ =
      (.ok { root := "/m.c", scanned := 1, indexed := 1 }, w') := by
    obtain ⟨events, ran⟩ := indexPath_of_saves (w := ⟨files, []⟩) reader canonical stored saves
    exact ⟨_, ran.trans (congrArg (fun r ↦ (Except.ok r, _)) report)⟩
  have changed : Atlas.empty.digest? source.key ≠ some (Sha256.hex source.bytes) :=
    Option.some_ne_none _ ∘ Eq.symm
  obtain ⟨modules, types, functions⟩ :=
    lookupSymbol_of_indexPath canonical there readable stored changed ran
  obtain ⟨d, last, type⟩ := types "T" none rfl
  obtain ⟨key, table, cName, found, named, least, answer⟩ := functions rfl "m"
    ⟨"A", .ofList [("m", "f")], by rw [tables_survey]; decide, by decide⟩
  obtain rfl := eq_of_least found named least
  have lastType : (unit.preorder.filter (declaresType "T")).getLast? =
      some (initialized "T" "PyTypeObject" "tp_name" "\"T\"" 140 174) := rfl
  have lastFunction : (unit.preorder.filter (defines "f")).getLast? = some (function "f" 22) := rfl
  obtain rfl := Option.some.inj (lastType.symm.trans last)
  have textOfType : source.source.span 140 174 = "PyTypeObject T = \x7b.tp_name = \"T\"\x7d;" := by
    decide +kernel
  have textOfFunction : source.source.span 22 32 = "int f() \x7b\x7d" := by decide +kernel
  rw [lastFunction] at answer
  exact ⟨_, ran, modules "d" rfl, textOfType ▸ type, textOfFunction ▸ answer⟩

end Answered

end BuiltinAtlas
