import BuiltinAtlas.Archive.Install

/-!
# Answers

The answers to questions are the lines of an input, one after the other. Whatever does not begin
with the letter y means no, and so does a line that is no text, and the end of the input.
-/

namespace BuiltinAtlas.Command

/-- Blank characters: those with the property `White_Space`. -/
def isBlank (c : Char) : Bool :=
  let n := c.toNat
  (9 ≤ n && n ≤ 13) || n == 0x20 || n == 0x85 || n == 0xA0 || n == 0x1680 ||
    (0x2000 ≤ n && n ≤ 0x200A) || n == 0x2028 || n == 0x2029 || n == 0x202F || n == 0x205F ||
    n == 0x3000

/-- Whether a line says yes. -/
def saysYes (line : List UInt8) : Bool :=
  match String.fromUTF8? ⟨line.toArray⟩ with
  | none => false
  | some s => (s.toList.dropWhile isBlank).head?.any fun c ↦ c == 'y' || c == 'Y'

/-- The input after `n` lines. -/
def afterLines : Nat → List UInt8 → List UInt8
  | 0, input => input
  | n + 1, input => afterLines n ((input.dropWhile (· != 10)).drop 1)

/-- The answers that an input gives. -/
def answersIn (input : ByteArray) : Answers := fun n ↦
  saysYes ((afterLines n input.toList).takeWhile (· != 10))

end BuiltinAtlas.Command
