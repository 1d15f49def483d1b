/-!
# Head macros

Type objects begin with a macro that expands to positional fields and a trailing comma, which no
grammar can see without a preprocessor. `expandHeadMacros` writes the fields in place of the
macro: `PyObject_HEAD_INIT(t)` becomes `1, t,` and `PyVarObject_HEAD_INIT(t, n)` becomes
`1, t, n,`, padded with blanks so that every other byte keeps its offset. Directives are left
alone.
-/

namespace BuiltinAtlas.Source

/-- The macros, each with its opening parenthesis. -/
def headMacros : List ByteArray :=
  ["PyVarObject_HEAD_INIT(".toUTF8, "PyObject_HEAD_INIT(".toUTF8]

/-- Whether `needle` stands at an offset. -/
def standsAt (source needle : ByteArray) (offset : Nat) : Bool :=
  offset + needle.size ≤ source.size && source.extract offset (offset + needle.size) == needle

/-- ASCII letters, digits and the underscore. -/
def isWordByte (b : UInt8) : Bool :=
  (48 ≤ b && b ≤ 57) || (65 ≤ b && b ≤ 90) || (97 ≤ b && b ≤ 122) || b == 95

/-- Whether `needle` begins a word at an offset. -/
def wordStandsAt (source needle : ByteArray) (offset : Nat) : Bool :=
  standsAt source needle offset &&
    (offset == 0 || !isWordByte ((source[offset - 1]?).getD 0))

/-- The least offset from `start` on at which a head macro stands, and the length of the macro
up to its parenthesis. -/
def nextMacro (source : ByteArray) (start : Nat) : Option (Nat × Nat) :=
  (List.range' start (source.size - start)).findSome? fun i ↦
    (headMacros.find? fun m ↦ wordStandsAt source m i).map fun m ↦ (i, m.size)

/-- The parenthesis that brings the depth to zero, reading on from an offset. -/
def closingFrom : List UInt8 → Nat → Nat → Option Nat
  | [], _, _ => none
  | b :: bs, offset, depth =>
    if b == 40 then closingFrom bs (offset + 1) (depth + 1)
    else if b == 41 then
      if depth ≤ 1 then some offset else closingFrom bs (offset + 1) (depth - 1)
    else closingFrom bs (offset + 1) depth

/-- The parenthesis that closes the one at an offset. -/
def closingParen (source : ByteArray) (opening : Nat) : Option Nat :=
  closingFrom (source.toList.drop opening) opening 0

/-- ASCII white space. -/
def isBlankByte (b : UInt8) : Bool := b == 32 || b == 9 || b == 10 || b == 12 || b == 13

/-- Whether the line of an offset begins like a directive. -/
def inDirective (source : ByteArray) (offset : Nat) : Bool :=
  let line := ((source.toList.take offset).reverse.takeWhile (· != 10)).reverse
  line.find? (fun b ↦ !isBlankByte b) == some 35

/-- The fields that replace a macro call of a given length, if they fit. -/
def replacement? (arguments : ByteArray) (length : Nat) : Option ByteArray :=
  let fields := "1, ".toUTF8 ++ arguments ++ ",".toUTF8
  if fields.size ≤ length then
    some (fields ++ ⟨Array.replicate (length - fields.size) 32⟩)
  else none

/-- Expand the macros from an offset on, at most `fuel` of them. The result is `none` while
nothing has been replaced. -/
def expandFrom (source : ByteArray) : Nat → Nat → Option ByteArray → Option ByteArray
  | 0, _, out => out
  | fuel + 1, start, out =>
    match nextMacro source start with
    | none => out
    | some (at_, length) =>
      let opening := at_ + length - 1
      match closingParen source opening with
      | none => out
      | some closing =>
        let replaced :=
          if inDirective source at_ then none
          else replacement? (source.extract (opening + 1) closing) (closing + 1 - at_)
        let out := match replaced with
          | none => out
          | some r =>
            let buffer := out.getD source
            some (buffer.extract 0 at_ ++ r ++ buffer.extract (closing + 1) buffer.size)
        expandFrom source fuel (closing + 1) out

/-- The source with its head macros expanded, or `none` if there is nothing to expand. -/
def expandHeadMacros? (source : ByteArray) : Option ByteArray :=
  expandFrom source (source.size + 1) 0 none

/-- The source with its head macros expanded. -/
def expandHeadMacros (source : ByteArray) : ByteArray :=
  (expandHeadMacros? source).getD source

end BuiltinAtlas.Source
