import BuiltinAtlas.Atlas.Basic
import BuiltinAtlas.Symbol.Basic

/-!
# Looking symbols up

`Atlas.lookup` gives the excerpt that implements a symbol. Types and modules are recorded under
their names. A function or method is searched for in the method tables: the first table that lists
it and passes the filters decides, and the table's C function is the answer.
-/

namespace BuiltinAtlas.Atlas

/-- Whether a C name begins with the name of the enclosing type, if that is known. -/
def fitsType (cName : String) (typeName : Option String) : Bool :=
  typeName.all fun t ↦ t.toList.isPrefixOf cName.toList

/-- Whether a C name begins with the name of the module without its leading underscores, if that is
known. -/
def fitsModule (cName : String) (moduleName : Option String) : Bool :=
  moduleName.all fun m ↦ (m.toList.dropWhile (· == '_')).isPrefixOf cName.toList

/-- The C name that a table lists for a method, if it fits. -/
def acceptedName? (table : MethodTable) (name : String) (typeName moduleName : Option String) :
    Option String :=
  (table.find? name).filter fun c ↦ fitsType c typeName && fitsModule c moduleName

/-- The function behind a method name. The first table that accepts it decides, even if its C
function is unknown. -/
def findMethod (a : Atlas) (name : String) (typeName moduleName : Option String) :
    Option Excerpt :=
  (a.tables.values.findSome? fun t ↦ acceptedName? t name typeName moduleName).bind
    a.functions.find?

/-- The excerpt that implements a symbol. -/
def lookup (a : Atlas) (s : Symbol) : Option Excerpt :=
  match s with
  | .plain _ native => some native
  | .type name _ => (a.types.find? name).map (·.toExcerpt)
  | .module name => (a.modules.find? name).map (·.toExcerpt)
  | .function .. | .method .. | .descriptor .. =>
    a.findMethod s.name s.typeName? s.moduleName?

end BuiltinAtlas.Atlas
