import BuiltinAtlas.Construct.Lowering
import BuiltinAtlas.Proofs.Syntax.Node

/-!
# Constructs by their nodes

The equations by which nodes become constructs, in terms of nodes and not of lists of siblings.
Inside a node is what each child gives among its siblings (`Construct.lowerInside_eq`). The
construct of a node has its extent, and what it holds comes from one of four places
(`Construct.lower_eq`). A declaration gives what its declarators declare
(`Construct.lowerDeclaration_eq`).
-/

namespace BuiltinAtlas.Construct

open BuiltinAtlas.Syntax
open BuiltinAtlas.Grammar (Field)

/-- Where the parts of a node's construct come from. -/
inductive Holding where
  /-- There are none. -/
  | nothing
  /-- The first child in a role. -/
  | role (role : Field)
  /-- The callee, then what is inside the arguments. -/
  | call
  /-- All that is inside the node. -/
  | inside

/-- A node takes an address. -/
def takesAddress (n : Node) : Bool := (n.child? .operator).map (·.kind) == some .ampersand

/-- Where the parts of a node's construct come from, by the kind of the node. -/
def holding (n : Node) : Holding :=
  match n.kind with
  | .functionDefinition => .role .body
  | .initializerPair | .castExpression => .role .value
  | .pointerExpression => if takesAddress n then .role .argument else .inside
  | .callExpression => .call
  | .stringLiteral | .concatenatedString | .identifier | .numberLiteral | .charLiteral
  | .trueLiteral | .falseLiteral | .nullLiteral => .nothing
  | _ => .inside

/-- What a node holds. -/
def held (source : ByteArray) (n : Node) : Holding → List Construct
  | .nothing => []
  | .role role => ((n.child? role).map (lower source)).toList
  | .call => ((n.child? .function).map (lower source)).toList ++
      ((n.child? .arguments).map (lowerInside source)).getD []
  | .inside => lowerInside source n

/-- The kind of a node's construct. -/
def kindOf (n : Node) : ConstructKind :=
  match n.kind with
  | .functionDefinition => .function
  | .initializerList => .initializerList
  | .initializerPair => .designated
  | .castExpression => .cast
  | .parenthesizedExpression => .wrapper
  | .stringLiteral | .concatenatedString => .stringLiteral
  | .pointerExpression => if takesAddress n then .wrapper else .other
  | .identifier => .reference
  | .numberLiteral | .charLiteral | .trueLiteral | .falseLiteral | .nullLiteral => .literal
  | .callExpression => .call
  | _ => .other

/-- The spelling of a node's construct. -/
def spellingOf (source : ByteArray) (n : Node) : String :=
  match n.kind with
  | .functionDefinition => ((n.child? .declarator).bind (declaredName? source)).getD ""
  | .initializerPair =>
    (((n.child? .designator).bind (·.namedChildren.head?)).map (textOf source)).getD ""
  | .callExpression => ((n.child? .function).map (textOf source)).getD ""
  | .concatenatedString => joinedLiteral source n
  | .stringLiteral | .identifier | .numberLiteral | .charLiteral | .trueLiteral | .falseLiteral
  | .nullLiteral => textOf source n
  | _ => ""

/-- The constructs that a node gives among its siblings. -/
def among (source : ByteArray) (n : Node) : List Construct :=
  if n.named then
    match n.kind with
    | .comment => []
    | .error => lowerInside source n
    | .declaration => lowerDeclaration source n
    | _ => [lower source n]
  else []

variable {source : ByteArray}

/-- Siblings give their constructs one after the other. -/
theorem lowerAll_eq_flatMap (cs : List (Option Field × Node)) :
    lowerAll source cs = cs.flatMap fun c ↦ among source c.2 := by
  induction cs with
  | nil => rfl
  | cons c cs ih =>
    rw [lowerAll, ih, List.flatMap_cons, among]
    cases c.2.named <;> rfl

/-- Inside a node are the constructs of its children. -/
theorem lowerInside_eq (source : ByteArray) (n : Node) :
    lowerInside source n = n.children.flatMap fun c ↦ among source c.2 := by
  rw [← lowerAll_eq_flatMap]
  cases n
  rfl

private theorem lowerRole_eq (source : ByteArray) (role : Field) (n : Node) :
    lowerRole source role n.children = ((n.child? role).map (lower source)).toList := by
  rw [Node.child?]
  induction n.children with
  | nil => rfl
  | cons c cs ih =>
    rw [lowerRole, ih, List.find?_cons]
    cases c.1 == some role <;> rfl

private theorem lowerArguments_eq (source : ByteArray) (n : Node) :
    lowerArguments source n.children =
      ((n.child? .arguments).map (lowerInside source)).getD [] := by
  rw [Node.child?]
  induction n.children with
  | nil => rfl
  | cons c cs ih =>
    obtain ⟨role, ⟨⟩⟩ := c
    rw [lowerArguments, ih, List.find?_cons]
    cases role == some Field.arguments <;> rfl

/-- The construct of a node has the extent of the node. -/
theorem lower_eq (source : ByteArray) (n : Node) : lower source n =
    .mk (kindOf n) (spellingOf source n) none n.start n.stop (held source n (holding n)) := by
  have inRole (role : Field) := lowerRole_eq source role n
  have arguments := lowerArguments_eq source n
  obtain ⟨kind, named, missing, start, stop, children⟩ := n
  rw [Node.children] at inRole arguments
  cases kind
  case functionDefinition => exact congrArg (mk _ _ _ _ _) (inRole .body)
  case initializerPair => exact congrArg (mk _ _ _ _ _) (inRole .value)
  case castExpression => exact congrArg (mk _ _ _ _ _) (inRole .value)
  case callExpression =>
    rw [lower, inRole, arguments]
    rfl
  case pointerExpression =>
    rw [lower, inRole, kindOf, spellingOf, holding]
    dsimp only [Node.kind]
    change (if takesAddress _ = true then _ else _) = _
    cases takesAddress (.mk .pointerExpression named missing start stop children) <;> rfl
  all_goals rfl

/-- A node is a name. -/
def isName (n : Node) : Bool :=
  match n.kind with
  | .identifier | .fieldIdentifier | .typeIdentifier => true
  | _ => false

private theorem nestedName?_eq (source : ByteArray) (n : Node) :
    nestedName? source n.children = (n.child? .declarator).bind (declaredName? source) := by
  rw [Node.child?]
  induction n.children with
  | nil => rfl
  | cons c cs ih =>
    rw [nestedName?, ih, List.find?_cons]
    cases c.1 == some Field.declarator <;> rfl

private theorem firstName?_eq (source : ByteArray) (n : Node) :
    firstName? source n.children = n.namedChildren.findSome? (declaredName? source) := by
  rw [Node.namedChildren]
  induction n.children with
  | nil => rfl
  | cons c cs ih =>
    rw [firstName?, ih, List.map_cons, List.filter_cons]
    cases c.2.named
    · rfl
    · rw [if_pos rfl, if_pos rfl, List.findSome?_cons]
      cases declaredName? source c.2 <;> rfl

/-- The name that a declarator declares. -/
theorem declaredName?_eq (source : ByteArray) (n : Node) : declaredName? source n =
    if isName n then some (textOf source n)
    else ((n.child? .declarator).map (declaredName? source)).getD
      (n.namedChildren.findSome? (declaredName? source)) := by
  have below : (if n.children.any fun c ↦ c.1 == some Field.declarator then
      nestedName? source n.children else firstName? source n.children) =
        ((n.child? .declarator).map (declaredName? source)).getD
          (n.namedChildren.findSome? (declaredName? source)) := by
    rw [nestedName?_eq, firstName?_eq, ← List.isSome_find?, Node.child?]
    cases n.children.find? fun c ↦ c.1 == some Field.declarator <;> rfl
  obtain ⟨kind, named, missing, start, stop, children⟩ := n
  cases kind
  case identifier | fieldIdentifier | typeIdentifier => rfl
  all_goals exact below

/-- The name of a declared type is its tag, if it has one. -/
theorem declaredType_eq (source : ByteArray) (n : Node) : declaredType source n =
    match n.kind with
    | .structSpecifier | .unionSpecifier | .enumSpecifier =>
      ((n.child? .name).map (textOf source)).getD (textOf source n)
    | _ => textOf source n := by
  rw [declaredType]
  cases n.child? .name <;> rfl

/-- The variable that a child of a declaration declares: the child is a declarator with an
initializer. -/
def declared? (source : ByteArray) (typeName : Option String) (whole : Option (Nat × Nat))
    (n : Node) : Option Construct :=
  if n.kind = .initDeclarator then
    some (.mk .variable ((declaredName? source n).getD "") typeName
      (whole.getD (n.start, n.stop)).1 (whole.getD (n.start, n.stop)).2
      ((n.child? .value).map (lower source)).toList)
  else none

private theorem lowerDeclarators_eq (typeName : Option String) (whole : Option (Nat × Nat))
    (n : Node) :
    lowerDeclarators source typeName whole n.children =
      (n.childrenIn .declarator).filterMap (declared? source typeName whole) := by
  rw [Node.childrenIn]
  induction n.children with
  | nil => rfl
  | cons c cs ih =>
    obtain ⟨role, declarator⟩ := c
    have value := lowerRole_eq source .value declarator
    obtain ⟨kind, named, missing, start, stop, children⟩ := declarator
    rw [Node.children] at value
    rw [lowerDeclarators, ih]
    by_cases isRole : role = some .declarator
    · by_cases isKind : kind = .initDeclarator
      · simp [isRole, isKind, declared?, value, Node.kind, Node.start, Node.stop]
      · simp [isRole, isKind, declared?, Node.kind]
    · simp [isRole]

/-- A declaration declares what its declarators declare, all of its type; an only declarator covers
the whole declaration. -/
theorem lowerDeclaration_eq (source : ByteArray) (n : Node) : lowerDeclaration source n =
    (n.childrenIn .declarator).filterMap
      (declared? source ((n.child? .typed).map (declaredType source))
        (if (n.childrenIn .declarator).length = 1 then some (n.start, n.stop) else none)) := by
  rw [← lowerDeclarators_eq]
  obtain ⟨kind, named, missing, start, stop, children⟩ := n
  simp only [lowerDeclaration, beq_iff_eq]
  rfl

end BuiltinAtlas.Construct
