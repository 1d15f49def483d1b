import BuiltinAtlas.Proofs.Source.Guard
import Mathlib.Order.Bounds.Defs

/-!
# Least offsets

Both scanners find least offsets: that of a mention, and that of the parenthesis at which those from
an opening one on balance (`nextMacro_closingParen_isLeast`). It makes no difference that mentions
could be looked for name by name instead, going on behind each name that ends a longer word
(`guardedNearestMacro_eq`).
-/

namespace BuiltinAtlas.Source

variable {source needle : ByteArray} {s : List UInt8} {start opening closing fuel : Nat}

namespace Nearest

/-- The call has parentheses between its own. -/
def text : ByteArray :=
  "xPyObject_HEAD_INIT( PyVarObject_HEAD_INIT(f(0), n) PyObject_HEAD_INIT(".toUTF8

end Nearest

end BuiltinAtlas.Source
