import BuiltinAtlas.Grammar.Rule

/-!
# Syntax trees

The visible syntax of a source file. A node has a kind, the byte range it covers, and children
that may play a role in it. Words, punctuation and operators are nodes as well, but not `named`
ones.
-/

namespace BuiltinAtlas.Syntax

open BuiltinAtlas.Grammar (Field)

/-- The kinds of node that the rest of the library tells apart. -/
inductive Kind where
  | comment | error | declaration | functionDefinition | initDeclarator
  | initializerList | initializerPair | castExpression | parenthesizedExpression
  | stringLiteral | concatenatedString | pointerExpression | callExpression
  | identifier | fieldIdentifier | typeIdentifier
  | numberLiteral | charLiteral | trueLiteral | falseLiteral | nullLiteral
  | structSpecifier | unionSpecifier | enumSpecifier
  /-- The operator that takes an address. -/
  | ampersand
  | other
  deriving BEq, DecidableEq

/-- The kind of a named node of the grammar. -/
def Kind.ofName (name : String) : Kind :=
  match name with
  | "comment" => .comment
  | "declaration" => .declaration
  | "function_definition" => .functionDefinition
  | "init_declarator" => .initDeclarator
  | "initializer_list" => .initializerList
  | "initializer_pair" => .initializerPair
  | "cast_expression" => .castExpression
  | "parenthesized_expression" => .parenthesizedExpression
  | "string_literal" => .stringLiteral
  | "concatenated_string" => .concatenatedString
  | "pointer_expression" => .pointerExpression
  | "call_expression" => .callExpression
  | "identifier" => .identifier
  | "field_identifier" => .fieldIdentifier
  | "type_identifier" => .typeIdentifier
  | "number_literal" => .numberLiteral
  | "char_literal" => .charLiteral
  | "true" => .trueLiteral
  | "false" => .falseLiteral
  | "null" => .nullLiteral
  | "struct_specifier" => .structSpecifier
  | "union_specifier" => .unionSpecifier
  | "enum_specifier" => .enumSpecifier
  | _ => .other

/-- The kind of a node that stands for its own spelling. -/
def Kind.ofSpelling (text : String) : Kind := if text == "&" then .ampersand else .other

/-- A syntax tree node. `missing` marks a token that the parser had to make up. -/
inductive Node where
  | mk (kind : Kind) (named missing : Bool) (start stop : Nat)
      (children : List (Option Field × Node))

namespace Node

/-- The kind of a node. -/
def kind : Node → Kind
  | mk k .. => k

/-- Whether a node stands for a rule of the grammar and not for its own spelling. -/
def named : Node → Bool
  | mk _ n .. => n

/-- Whether the parser made the node up. -/
def missing : Node → Bool
  | mk _ _ m .. => m

/-- The offset of the first byte. -/
def start : Node → Nat
  | mk _ _ _ s .. => s

/-- The offset behind the last byte. -/
def stop : Node → Nat
  | mk _ _ _ _ e _ => e

/-- The children with their roles. -/
def children : Node → List (Option Field × Node)
  | mk _ _ _ _ _ cs => cs

/-- The first child in a role. -/
def child? (n : Node) (f : Field) : Option Node :=
  (n.children.find? fun c ↦ c.1 == some f).map (·.2)

/-- All children in a role. -/
def childrenIn (n : Node) (f : Field) : List Node :=
  (n.children.filter fun c ↦ c.1 == some f).map (·.2)

/-- The named children. -/
def namedChildren (n : Node) : List Node := (n.children.map (·.2)).filter (·.named)

mutual

/-- The number of faults in a tree: stretches of skipped text and made-up tokens. -/
def faults : Node → Nat
  | mk kind _ missing _ _ cs => (if kind == .error || missing then 1 else 0) + faultsIn cs

/-- The number of faults in a sequence of trees. -/
def faultsIn : List (Option Field × Node) → Nat
  | [] => 0
  | (_, n) :: cs => faults n + faultsIn cs

end

end Node

end BuiltinAtlas.Syntax
