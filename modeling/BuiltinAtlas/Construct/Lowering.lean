import BuiltinAtlas.Construct.Basic
import BuiltinAtlas.Syntax.Node
import BuiltinAtlas.Text.Encoding

/-!
# Constructs of a syntax tree

`lowerAll` turns the children of a node into constructs. Comments vanish, skipped text is replaced
by what was found in it, so that neither moves the fields of an initializer, and a declaration
gives one variable for every declarator that has an initializer.
-/

namespace BuiltinAtlas.Construct

open BuiltinAtlas.Syntax
open BuiltinAtlas.Grammar (Field)

/-- The text of a node. -/
def textOf (source : ByteArray) (n : Node) : String :=
  if n.start ≤ n.stop ∧ n.stop ≤ source.size then
    Text.decode (source.extract n.start n.stop)
  else ""

mutual

/-- The name a declarator declares: its own text if it is a name, else the name in its nested
declarator, else in the first of its parts that has one. -/
def declaredName? (source : ByteArray) : Node → Option String
  | .mk kind named missing start stop children =>
    match kind with
    | .identifier | .fieldIdentifier | .typeIdentifier =>
      some (textOf source (.mk kind named missing start stop []))
    | _ =>
      if children.any fun c ↦ c.1 == some Field.declarator then
        nestedName? source children
      else firstName? source children

/-- The name in the first part that is a declarator. -/
def nestedName? (source : ByteArray) : List (Option Field × Node) → Option String
  | [] => none
  | (role, n) :: rest =>
    if role == some Field.declarator then declaredName? source n else nestedName? source rest

/-- The name in the first named part that has one. -/
def firstName? (source : ByteArray) : List (Option Field × Node) → Option String
  | [] => none
  | (_, n) :: rest =>
    if n.named then declaredName? source n <|> firstName? source rest
    else firstName? source rest

end

/-- The name of a declared type: the tag of a structure, union or enumeration that has one, else
the text. -/
def declaredType (source : ByteArray) (n : Node) : String :=
  match n.kind with
  | .structSpecifier | .unionSpecifier | .enumSpecifier =>
    match n.child? .name with
    | some tag => textOf source tag
    | none => textOf source n
  | _ => textOf source n

/-- What stands between the first and the last quote of a literal. -/
def betweenQuotes (s : String) : String :=
  let rest := (s.toList.dropWhile (· != '"')).drop 1
  String.ofList ((rest.reverse.dropWhile (· != '"')).drop 1).reverse

/-- Adjacent literals as one literal; names between them are dropped. -/
def joinedLiteral (source : ByteArray) (n : Node) : String :=
  let pieces := n.namedChildren.filter fun c ↦ c.kind == .stringLiteral
  "\"" ++ String.join (pieces.map fun p ↦ betweenQuotes (textOf source p)) ++ "\""

/-- The part of a list of siblings that plays a role comes first in `f`'s results. -/
private def single (f : Node → Construct) (n : Node) (role : Field) : List Construct :=
  ((n.child? role).map f).toList

mutual

/-- The construct of a node. -/
def lower (source : ByteArray) : Node → Construct
  | .mk kind named missing start stop children =>
    let node := Node.mk kind named missing start stop children
    match kind with
    | .functionDefinition =>
      let name := (node.child? .declarator).bind (declaredName? source)
      .mk .function (name.getD "") none start stop (lowerRole source .body children)
    | .initializerList => .mk .initializerList "" none start stop (lowerAll source children)
    | .initializerPair =>
      let name := ((node.child? .designator).bind (·.namedChildren.head?)).map (textOf source)
      .mk .designated (name.getD "") none start stop (lowerRole source .value children)
    | .castExpression => .mk .cast "" none start stop (lowerRole source .value children)
    | .parenthesizedExpression => .mk .wrapper "" none start stop (lowerAll source children)
    | .stringLiteral => .mk .stringLiteral (textOf source node) none start stop []
    | .concatenatedString => .mk .stringLiteral (joinedLiteral source node) none start stop []
    | .pointerExpression =>
      if ((node.child? .operator).map (·.kind)) == some .ampersand then
        .mk .wrapper "" none start stop (lowerRole source .argument children)
      else .mk .other "" none start stop (lowerAll source children)
    | .identifier => .mk .reference (textOf source node) none start stop []
    | .numberLiteral | .charLiteral | .trueLiteral | .falseLiteral | .nullLiteral =>
      .mk .literal (textOf source node) none start stop []
    | .callExpression =>
      let callee := ((node.child? .function).map (textOf source)).getD ""
      .mk .call callee none start stop
        (lowerRole source .function children ++ lowerArguments source children)
    | _ => .mk .other "" none start stop (lowerAll source children)

/-- The construct of the first node in a role, if there is one. -/
def lowerRole (source : ByteArray) (role : Field) : List (Option Field × Node) → List Construct
  | [] => []
  | (r, n) :: rest => if r == some role then [lower source n] else lowerRole source role rest

/-- The constructs inside the first argument list. -/
def lowerArguments (source : ByteArray) : List (Option Field × Node) → List Construct
  | [] => []
  | (r, .mk _ _ _ _ _ cs) :: rest =>
    if r == some Field.arguments then lowerAll source cs else lowerArguments source rest

/-- The constructs of the named nodes among some siblings. Comments give none; skipped text gives
what it contains; a declaration gives its variables. -/
def lowerAll (source : ByteArray) : List (Option Field × Node) → List Construct
  | [] => []
  | (_, n) :: rest =>
    let here := if !n.named then [] else match n.kind with
      | .comment => []
      | .error => lowerInside source n
      | .declaration => lowerDeclaration source n
      | _ => [lower source n]
    here ++ lowerAll source rest

/-- The constructs of the named children of a node. -/
def lowerInside (source : ByteArray) : Node → List Construct
  | .mk _ _ _ _ _ children => lowerAll source children

/-- The variables of a declaration. -/
def lowerDeclaration (source : ByteArray) : Node → List Construct
  | .mk kind named missing start stop children =>
    let node := Node.mk kind named missing start stop children
    let typeName := (node.child? .typed).map (declaredType source)
    let whole := if (node.childrenIn .declarator).length == 1 then some (start, stop) else none
    lowerDeclarators source typeName whole children

/-- The variables among the declarators of a declaration. An only declarator covers the whole
declaration. -/
def lowerDeclarators (source : ByteArray) (typeName : Option String)
    (whole : Option (Nat × Nat)) : List (Option Field × Node) → List Construct
  | [] => []
  | (r, .mk kind named missing start stop children) :: rest =>
    let here :=
      if r == some Field.declarator && kind == .initDeclarator then
        let node := Node.mk kind named missing start stop children
        let (start, stop) := whole.getD (start, stop)
        [.mk .variable ((declaredName? source node).getD "") typeName start stop
          (lowerRole source .value children)]
      else []
    here ++ lowerDeclarators source typeName whole rest

end

/-- The construct of a whole file. -/
def ofSyntax (path : String) (source : ByteArray) (root : Node) : Construct :=
  .mk .wholeFile path none root.start root.stop (lowerAll source root.children)

end BuiltinAtlas.Construct
