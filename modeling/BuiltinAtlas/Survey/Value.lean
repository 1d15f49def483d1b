import BuiltinAtlas.Construct.Basic

/-!
# Values of initializers

`Construct.value` reduces an initializer to what matters of it: texts, names, other tokens, and
lists of values. Casts and wrappers are seen through.
-/

namespace BuiltinAtlas

/-- The value of an initializer. -/
inductive Value where
  /-- A string literal, with its quotes. -/
  | text (literal : String)
  /-- A name. -/
  | name (n : String)
  /-- Any other literal. -/
  | token (t : String)
  | list (items : List Value)
  | null

/-- The text between two quotes. -/
def unquote? (literal : String) : Option String :=
  match literal.toList with
  | '"' :: rest =>
    if rest.getLast? = some '"' then some (String.ofList rest.dropLast) else none
  | _ => none

namespace Value

/-- The content of a string literal in plain quotes. -/
def unquoted? : Value → Option String
  | text literal => unquote? literal
  | _ => none

/-- The name, if the value is one. -/
def name? : Value → Option String
  | name n => some n
  | _ => none

/-- The spelling of a value that is no list. -/
def spelling? : Value → Option String
  | text s | name s | token s => some s
  | list _ | null => none

/-- The items of a list. Other values have none. -/
def items : Value → List Value
  | list vs => vs
  | _ => []

end Value

namespace Construct

mutual

/-- The value of a construct. -/
def value : Construct → Value
  | .mk kind spelling _ _ _ parts =>
    match kind with
    | .initializerList => .list (values parts)
    | .cast | .designated => lastValue parts
    | .wrapper =>
      match parts with
      | [] => .token spelling
      | [only] => value only
      | first :: second :: rest => .list (value first :: value second :: values rest)
    | .stringLiteral => .text spelling
    | .reference => .name spelling
    | .literal => .token spelling
    | .wholeFile | .function | .variable | .call | .other => .null

/-- The values of some constructs. -/
def values : List Construct → List Value
  | [] => []
  | c :: cs => value c :: values cs

/-- The value of the last of some constructs. -/
def lastValue : List Construct → Value
  | [] => .null
  | [c] => value c
  | _ :: c :: cs => lastValue (c :: cs)

end

/-- The spelling of the first leaf, where string literals count as leaves. -/
def firstSpelling? : Construct → Option String
  | .mk .stringLiteral spelling _ _ _ _ | .mk _ spelling _ _ _ [] =>
    if spelling.isEmpty then none else some spelling
  | .mk _ _ _ _ _ (part :: _) => firstSpelling? part

end Construct

end BuiltinAtlas
