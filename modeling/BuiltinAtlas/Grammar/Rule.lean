import BuiltinAtlas.Grammar.Pattern

/-!
# Grammar rules

The vocabulary in which a context-free grammar is written down: rules over tokens and named
symbols, with the annotations that steer conflict resolution (precedence, associativity, dynamic
precedence) and shape the resulting tree (fields and aliases).
-/

namespace BuiltinAtlas.Grammar

/-- The role a child plays in its parent. -/
inductive Field where
  | alternative | argument | arguments | assemblyCode | body | clobbers | condition
  | consequence | constraint | declarator | designator | directive | finish | filter | function
  | gotoLabels | index | initializer | inputOperands | label | left | member | name | operand
  | operator | outputOperands | parameters | path | register | right | scope | selector | size
  | start | symbol | typed | underlyingType | update | value
  deriving BEq, Hashable, DecidableEq

/-- How a chain of equal precedence groups. -/
inductive Assoc where
  | left | right
  deriving BEq, Hashable, DecidableEq

/-- The name under which a symbol appears in the tree instead of its own. -/
structure Alias where
  name : String
  named : Bool
  deriving BEq, Hashable, DecidableEq

/-- One kind of token. `immediate` tokens admit no separator before them; `literal` holds the
spelling when there is exactly one. -/
structure Token where
  pattern : Pattern
  literal : Option String
  precedence : Int
  immediate : Bool
  deriving BEq, Hashable

namespace Token

/-- A token with one spelling. -/
def ofText (s : String) : Token := ⟨.text s, some s, 0, false⟩

/-- A token given by a pattern. -/
def ofPattern (p : Pattern) : Token := ⟨p, none, 0, false⟩

/-- A token that is a choice of fixed spellings. -/
def ofWords (ws : List String) : Token := .ofPattern (.oneOf (ws.map .text))

/-- The token must directly follow what precedes it. -/
def directly (t : Token) : Token := { t with immediate := true }

/-- The token with a lexical precedence. -/
def ranked (n : Int) (t : Token) : Token := { t with precedence := n }

/-- Fixed spellings beat patterns, immediate tokens beat others of their kind. -/
def rank (t : Token) : Nat :=
  (if t.literal.isSome then 2 else 0) + (if t.immediate then 1 else 0)

end Token

/-- The right-hand side of a grammar rule. -/
inductive Rule where
  | blank
  | token (t : Token)
  | symbol (name : String)
  | seq (first second : Rule)
  | choice (left right : Rule)
  | repeat1 (body : Rule)
  | field (f : Field) (body : Rule)
  | shownAs (a : Alias) (body : Rule)
  | prec (level : Option Int) (assoc : Option Assoc) (body : Rule)
  | dynamic (level : Int) (body : Rule)
  deriving BEq, Hashable

namespace Rule

/-- A text stands for the token with that spelling. -/
instance : Coe String Rule := ⟨fun s ↦ .token (.ofText s)⟩

/-- A sequence of rules. -/
def sequence : List Rule → Rule
  | [] => .blank
  | [r] => r
  | r :: rs => .seq r (sequence rs)

/-- A choice between rules. -/
def oneOf : List Rule → Rule
  | [] => .blank
  | [r] => r
  | r :: rs => .choice r (oneOf rs)

/-- A rule or nothing. -/
def optional (r : Rule) : Rule := .choice r .blank

/-- Any number of repetitions. -/
def many (r : Rule) : Rule := .choice (.repeat1 r) .blank

/-- One or more items with commas between them. -/
def commaSep1 (r : Rule) : Rule := .seq r (many (.seq "," r))

/-- Any number of items with commas between them. -/
def commaSep (r : Rule) : Rule := optional (commaSep1 r)

/-- A rule shown in the tree as a named node of another kind. -/
def shown (r : Rule) (name : String) : Rule := .shownAs ⟨name, true⟩ r

/-- A symbol shown in the tree as a named node of another kind. -/
def symbolAs (name shownAs : String) : Rule := shown (.symbol name) shownAs

end Rule

/-- Whether a symbol makes a node of its own. -/
inductive Visibility where
  /-- A named node. -/
  | named
  /-- A node that stands for its own spelling. -/
  | anonymous
  /-- No node: its children belong to the parent. -/
  | hidden
  deriving BEq, DecidableEq

/-- A named rule. -/
structure Definition where
  name : String
  rule : Rule

/-- A grammar as it is written down. The first definition is the start symbol; `word` names the
token that keywords are carved out of; `separators` may stand before any token; `extra` names the
token that may stand anywhere; `inline` names definitions that are spliced into their uses;
`supertypes` names abstract definitions that never make a node. -/
structure Description where
  definitions : List Definition
  word : String
  extra : String
  separators : Pattern
  inline : List String
  supertypes : List String

end BuiltinAtlas.Grammar
