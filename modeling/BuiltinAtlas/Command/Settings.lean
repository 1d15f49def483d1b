import BuiltinAtlas.Dictionary.Basic
import BuiltinAtlas.Files.Path

/-!
# Where things are kept

The path of the index is that of the `--index` option, else that in the environment, else that of a
file in the home directory. Downloaded indexes are kept in a directory there.
-/

namespace BuiltinAtlas

/-- A path below another one, where both are texts. -/
def Path.join (base path : String) : String := (append base path).text

/-- Environment variables. -/
abbrev Environment := Dictionary String

namespace Environment

/-- A variable that is set and not empty. -/
def nonempty? (env : Environment) (name : String) : Option String :=
  (Dictionary.find? env name).filter fun v ↦ !v.isEmpty

/-- The home directory. -/
def home? (env : Environment) : Option String := env.nonempty? "HOME"

/-- The index in the home directory. -/
def defaultIndex? (env : Environment) : Option String :=
  env.home?.map fun home ↦ Path.join home ".index.json"

/-- The directory for downloaded indexes. -/
def downloads? (env : Environment) : Option String :=
  env.home?.map fun home ↦ Path.join home ".cinspect"

/-- The index to use, if the option has a given value. -/
def index? (env : Environment) (option : Option String) : Option String :=
  option.or ((env.nonempty? "CINSPECT_INDEX").or env.defaultIndex?)

/-- The directory for temporary files. -/
def temporary (env : Environment) : String := (Dictionary.find? env "TMPDIR").getD "/tmp"

end Environment

end BuiltinAtlas
