/-!
# C constructs

A `Construct` is the part of a C syntax tree that indexing looks at: definitions, variables with
initializers, initializer lists, calls, and the literals and names in them. Everything else is
`other` and only holds its parts together.
-/

namespace BuiltinAtlas

/-- The kinds of construct. -/
inductive ConstructKind where
  /-- A whole file. -/
  | wholeFile
  /-- A function with its body. -/
  | function
  /-- A declared variable with an initializer. -/
  | variable
  /-- An initializer in braces. -/
  | initializerList
  /-- An initializer for a named field. -/
  | designated
  | cast
  /-- Parentheses and other wrappers that change nothing. -/
  | wrapper
  | stringLiteral
  /-- A name in an expression. -/
  | reference
  /-- Any other literal. -/
  | literal
  /-- A call: the callee, then the arguments. -/
  | call
  | other
  deriving BEq, DecidableEq

/-- A construct: its kind, its spelling if that matters, the declared type of a variable, the
byte range, and the parts. -/
inductive Construct where
  | mk (kind : ConstructKind) (spelling : String) (typeName : Option String)
      (start stop : Nat) (parts : List Construct)

namespace Construct

/-- The kind of a construct. -/
def kind : Construct → ConstructKind
  | mk k .. => k

/-- The name or text of a construct. -/
def spelling : Construct → String
  | mk _ s .. => s

/-- The declared type of a variable. -/
def typeName : Construct → Option String
  | mk _ _ t .. => t

/-- The offset of the first byte. -/
def start : Construct → Nat
  | mk _ _ _ s .. => s

/-- The offset behind the last byte. -/
def stop : Construct → Nat
  | mk _ _ _ _ e _ => e

/-- The parts, in order. -/
def parts : Construct → List Construct
  | mk _ _ _ _ _ ps => ps

end Construct

end BuiltinAtlas
