import BuiltinAtlas.Text.Encoding
import BuiltinAtlas.Text.Raw

/-!
# Source files

A source file is a path and its bytes. Stretches of it are cut by byte offsets and decoded each
on its own. Of the path nothing but its text is ever recorded or shown, so that files whose paths
are no text may be taken for one another.
-/

namespace BuiltinAtlas

/-- A source file. -/
structure SourceFile where
  /-- The text of the path. -/
  path : String
  bytes : ByteArray

namespace SourceFile

/-- The file at a path. -/
def atPath (path : RawText) (bytes : ByteArray) : SourceFile := ⟨path.text, bytes⟩

/-- The whole text. -/
def text (f : SourceFile) : String := Text.decode f.bytes

/-- The text between two offsets, which are clamped to the file. -/
def span (f : SourceFile) (start stop : Nat) : String :=
  let stop := min stop f.bytes.size
  Text.decode (f.bytes.extract (min start stop) stop)

end SourceFile

end BuiltinAtlas
