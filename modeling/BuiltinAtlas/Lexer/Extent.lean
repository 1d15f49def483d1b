/-!
# Extents of text

A stretch of text is measured in bytes and in line ends. A position is the extent from the start
of the text.
-/

namespace BuiltinAtlas

/-- The size of a stretch of text. -/
structure Extent where
  bytes : Nat
  rows : Nat
  deriving BEq, DecidableEq, Hashable, Inhabited

namespace Extent

/-- The empty stretch. -/
def zero : Extent := ⟨0, 0⟩

/-- Two stretches one after the other. -/
def add (a b : Extent) : Extent := ⟨a.bytes + b.bytes, a.rows + b.rows⟩

/-- The stretch between two positions. -/
def sub (a b : Extent) : Extent := ⟨a.bytes - b.bytes, a.rows - b.rows⟩

/-- Extents are added. -/
instance : Add Extent := ⟨add⟩

/-- Extents are subtracted. -/
instance : Sub Extent := ⟨sub⟩

end Extent

/-- One unit of text: a character, or a byte that begins no character. -/
structure TextUnit where
  code : Option Nat
  extent : Extent

/-- The unit at a byte offset; `none` at the end of the text. -/
def unitAt (text : ByteArray) (offset : Nat) : Option TextUnit :=
  if h : offset < text.size then
    let b := text[offset]
    if b < 128 then some ⟨some b.toNat, 1, if b == 10 then 1 else 0⟩
    else match text.utf8DecodeChar? offset with
      | some c => some ⟨some c.toNat, c.utf8Size, 0⟩
      | none => some ⟨none, 1, 0⟩
  else none

end BuiltinAtlas
