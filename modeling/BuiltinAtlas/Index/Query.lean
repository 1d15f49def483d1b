import BuiltinAtlas.Atlas.Lookup
import BuiltinAtlas.Index.Store
import BuiltinAtlas.Symbol.Snapshot

/-!
# Asking the index

The source and the file of a symbol, or of the symbol that an object stands for. What an existing
index does not know has an empty source and an empty path. Objects with their own source need no
index.
-/

namespace BuiltinAtlas

/-- The excerpt that an index has for a symbol. -/
def lookupSymbol (index : RawText) (s : Symbol) : Job (Option Excerpt) :=
  return (← loadExistingAtlas index).lookup s

/-- The excerpt for a symbol, which is empty if the index has none. -/
def excerptOf (index : RawText) (s : Symbol) : Job Excerpt :=
  match s with
  | .plain _ native => return native
  | s => return (← lookupSymbol index s).getD ⟨"", ""⟩

/-- The source of a symbol. -/
def sourceOf (index : RawText) (s : Symbol) : Job String := return (← excerptOf index s).source

/-- The path of the file of a symbol. -/
def fileOf (index : RawText) (s : Symbol) : Job String := return (← excerptOf index s).path

/-- The symbol that an object stands for. -/
def symbolOf (s : Snapshot) : Job Symbol := Job.ofExcept s.classify fun u ↦ .unsupported u.label

/-- The source of an object. -/
def sourceOfObject (index : RawText) (s : Snapshot) : Job String := do
  sourceOf index (← symbolOf s)

/-- The path of the file of an object. -/
def fileOfObject (index : RawText) (s : Snapshot) : Job String := do fileOf index (← symbolOf s)

end BuiltinAtlas
