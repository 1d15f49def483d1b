import BuiltinAtlas.Dictionary.Basic

/-!
# The atlas

An `Atlas` knows where the built-in types, modules, functions and methods of an interpreter are
implemented: it maps the name of each type, each module and each C function to an excerpt of the
sources, the name of each method table to its table, and the path of each indexed file to the
digest of its bytes. `Findings` is what one file contributes.
-/

namespace BuiltinAtlas

/-- A piece of source text, and the path of the file it is from. -/
structure Excerpt where
  source : String
  path : String
  deriving DecidableEq

/-- The definition of a type, with the names it refers to. -/
structure TypeEntry extends Excerpt where
  references : List String
  deriving DecidableEq

/-- The file that registers a module, with the method tables that it registers. -/
structure ModuleEntry extends Excerpt where
  tables : List String
  deriving DecidableEq

/-- The C function of each method name. -/
abbrev MethodTable := Dictionary String

/-- Types, modules, method tables and functions by name. -/
structure Findings where
  types : Dictionary TypeEntry := .empty
  modules : Dictionary ModuleEntry := .empty
  tables : Dictionary MethodTable := .empty
  functions : Dictionary Excerpt := .empty
  deriving DecidableEq

/-- Whether nothing was found. -/
def Findings.isEmpty (f : Findings) : Bool :=
  f.types.isEmpty && f.modules.isEmpty && f.tables.isEmpty && f.functions.isEmpty

/-- All findings, and the digests of the files they are from. -/
structure Atlas extends Findings where
  digests : Dictionary String := .empty
  deriving DecidableEq

/-- How much an atlas holds. -/
structure Statistics where
  indexPath : String
  types : Nat
  modules : Nat
  tables : Nat
  functions : Nat
  files : Nat
  deriving DecidableEq

namespace Atlas

/-- The atlas that knows nothing. -/
def empty : Atlas := {}

/-- The digest that was recorded for a file. -/
def digest? (a : Atlas) (path : String) : Option String := a.digests.find? path

/-- Whether a table belongs to a file: it lists some function, and all its functions are recorded
as defined there. -/
def tableBelongsTo (a : Atlas) (path : String) (table : MethodTable) : Bool :=
  !table.isEmpty && table.values.all fun name ↦ (a.functions.find? name).any (·.path == path)

/-- Replace what a file contributed by fresh findings and a fresh digest. Tables record no path,
so a table goes when it belongs to the file by the functions known before. -/
def replaceFile (a : Atlas) (path : String) (fresh : Findings) (digest : String) : Atlas where
  types := (a.types.filter fun _ e ↦ e.path != path).override fresh.types
  modules := (a.modules.filter fun _ e ↦ e.path != path).override fresh.modules
  tables := (a.tables.filter fun _ t ↦ !a.tableBelongsTo path t).override fresh.tables
  functions := (a.functions.filter fun _ e ↦ e.path != path).override fresh.functions
  digests := a.digests.insert path digest

/-- The statistics of an atlas that is kept at a path. -/
def statistics (a : Atlas) (indexPath : String) : Statistics where
  indexPath := indexPath
  types := a.types.size
  modules := a.modules.size
  tables := a.tables.size
  functions := a.functions.size
  files := a.digests.size

end Atlas

end BuiltinAtlas
