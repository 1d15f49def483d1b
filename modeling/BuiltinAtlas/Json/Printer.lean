/-!
# Printing JSON

A `Document` is a value to be written. `Document.pretty` writes every item and every member on a
line of its own, two blanks deeper than the bracket around it, and nothing between the brackets of
an empty array or object.
-/

namespace BuiltinAtlas.Json

/-- A value to be written. -/
inductive Document where
  | number (n : Nat)
  | text (s : String)
  | array (items : List Document)
  | object (members : List (String × Document))

/-- The digits of a code below 32, as four hexadecimal ones. -/
def controlDigits (n : Nat) : List Char :=
  let digit i := if i < 10 then Char.ofNat (48 + i) else Char.ofNat (87 + i)
  ['0', '0', digit (n / 16), digit (n % 16)]

/-- A character within quotes. Quotes, backslashes and control characters are escaped. -/
def escapeChar (c : Char) : List Char :=
  match c with
  | '"' => ['\\', '"']
  | '\\' => ['\\', '\\']
  | '\x08' => ['\\', 'b']
  | '\x0c' => ['\\', 'f']
  | '\n' => ['\\', 'n']
  | '\r' => ['\\', 'r']
  | '\t' => ['\\', 't']
  | c => if c < ' ' then '\\' :: 'u' :: controlDigits c.toNat else [c]

/-- A text in quotes. -/
def quote (s : String) : List Char := '"' :: s.toList.flatMap escapeChar ++ ['"']

/-- The break before an item at a depth. -/
def newline (depth : Nat) : List Char := '\n' :: List.replicate (2 * depth) ' '

mutual

/-- Write a value that stands at a depth. -/
def Document.print (depth : Nat) : Document → List Char
  | .number n => (toString n).toList
  | .text s => quote s
  | .array [] => ['[', ']']
  | .array (item :: items) =>
    '[' :: newline (depth + 1) ++ item.print (depth + 1) ++ printItems (depth + 1) items ++
      newline depth ++ [']']
  | .object [] => ['{', '}']
  | .object ((key, value) :: members) =>
    '{' :: newline (depth + 1) ++ quote key ++ ':' :: ' ' :: value.print (depth + 1) ++
      printMembers (depth + 1) members ++ newline depth ++ ['}']

/-- Write further items. -/
def printItems (depth : Nat) : List Document → List Char
  | [] => []
  | item :: items => ',' :: newline depth ++ item.print depth ++ printItems depth items

/-- Write further members. -/
def printMembers (depth : Nat) : List (String × Document) → List Char
  | [] => []
  | (key, value) :: members =>
    ',' :: newline depth ++ quote key ++ ':' :: ' ' :: value.print depth ++
      printMembers depth members

end

/-- The text of a value. -/
def Document.pretty (d : Document) : String := String.ofList (d.print 0)

end BuiltinAtlas.Json
