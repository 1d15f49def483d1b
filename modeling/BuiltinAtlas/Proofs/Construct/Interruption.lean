import Mathlib.Logic.Relation
import BuiltinAtlas.Proofs.Construct.Lowering
import BuiltinAtlas.Survey.Findings

/-!
# Comments and skipped text

A comment may stand among the children of any node, and children that play no role may stand in
skipped text, nested to any depth (`Node.Interrupted`). None of this is seen in the constructs. All
that is read of a node is its `Reading`, and this is read of its children in few ways
(`Construct.NodesAlike`), which comments and skipped text leave as they are. So fields stay at their
positions, and a file contributes the same (`constructs_of_interrupted`).
-/

namespace BuiltinAtlas

open Grammar (Field)

/-- A comment is put among the children of a node, or some of the children that play no role, as no
child of an initializer list or an argument list does, are put into skipped text, in the node itself
or anywhere below it. Two places are left alone: the first part of a designator is the name, and
adjacent literals are one literal. -/
inductive Syntax.Node.Interrupted : Option Field → Node → Node → Prop where
  | comment {role : Option Field} {kind : Kind} {named missing missing' : Bool}
      {start stop start' stop' : Nat} {before after : List (Option Field × Node)}
      (apart : role ≠ some .designator) :
      Interrupted role (.mk kind named missing start stop (before ++ after))
        (.mk kind named missing start stop
          (before ++ (none, .mk .comment true missing' start' stop' []) :: after))
  | skipped {role : Option Field} {kind : Kind} {named missing missing' : Bool}
      {start stop start' stop' : Nat} {before run after : List (Option Field × Node)}
      (apart : role ≠ some .designator) (loose : kind ≠ .concatenatedString)
      (free : ∀ c ∈ run, c.1 = none) :
      Interrupted role (.mk kind named missing start stop (before ++ run ++ after))
        (.mk kind named missing start stop
          (before ++ (none, .mk .error true missing' start' stop' run) :: after))
  | child {role role' : Option Field} {kind : Kind} {named missing : Bool} {start stop : Nat}
      {before after : List (Option Field × Node)} {c c' : Node} (inside : Interrupted role' c c') :
      Interrupted role (.mk kind named missing start stop (before ++ (role', c) :: after))
        (.mk kind named missing start stop (before ++ (role', c') :: after))

namespace Construct

open Syntax
open Syntax.Node (Interrupted)

/-- What is read of a node. -/
structure Reading where
  kind : Kind
  named : Bool
  start : Nat
  stop : Nat
  text : String
  name? : Option String
  type : String
  construct : Construct
  inside : List Construct
  declaration : List Construct
  value : List Construct

/-- What is read of a node in a source. -/
def reading (source : ByteArray) (n : Node) : Reading where
  kind := n.kind
  named := n.named
  start := n.start
  stop := n.stop
  text := textOf source n
  name? := declaredName? source n
  type := declaredType source n
  construct := lower source n
  inside := lowerInside source n
  declaration := lowerDeclaration source n
  value := ((n.child? .value).map (lower source)).toList

/-- What a node gives among its siblings, by what is read of it. -/
def Reading.among (r : Reading) : List Construct :=
  if r.named then
    match r.kind with
    | .comment => []
    | .error => r.inside
    | .declaration => r.declaration
    | _ => [r.construct]
  else []

/-- The variable that a declarator declares, by what is read of it. -/
def Reading.declared? (r : Reading) (typeName : Option String) (whole : Option (Nat × Nat)) :
    Option Construct :=
  if r.kind = .initDeclarator then
    some (.mk .variable (r.name?.getD "") typeName (whole.getD (r.start, r.stop)).1
      (whole.getD (r.start, r.stop)).2 r.value)
  else none

/-- The siblings in a role. -/
def inRole (role : Field) (cs : List (Option Field × Node)) : List Node :=
  (cs.filter fun c ↦ c.1 == some role).map (·.2)

/-- The named siblings. -/
def namedAmong (cs : List (Option Field × Node)) : List Node := (cs.map (·.2)).filter (·.named)

/-- The text of the first named child. -/
def leadingText? (source : ByteArray) (n : Node) : Option String :=
  n.namedChildren.head?.map (textOf source)

/-- The texts of the literals among some siblings. -/
def pieces (source : ByteArray) (cs : List (Option Field × Node)) : List String :=
  ((namedAmong cs).filter fun c ↦ c.kind == .stringLiteral).map (textOf source)

private theorem inRole_append (role : Field) (cs ds : List (Option Field × Node)) :
    inRole role (cs ++ ds) = inRole role cs ++ inRole role ds := by
  rw [inRole, List.filter_append, List.map_append, inRole, inRole]

private theorem namedAmong_append (cs ds : List (Option Field × Node)) :
    namedAmong (cs ++ ds) = namedAmong cs ++ namedAmong ds := by
  rw [namedAmong, List.map_append, List.filter_append, namedAmong, namedAmong]

/-- Two lists of siblings, in nodes of one kind, agree in all that is read of them. -/
structure SiblingsAlike (source : ByteArray) (kind : Kind) (cs cs' : List (Option Field × Node)) :
    Prop where
  roles : ∀ role, (inRole role cs').map (reading source) = (inRole role cs).map (reading source)
  inside : (cs'.flatMap fun c ↦ among source c.2) = cs.flatMap fun c ↦ among source c.2
  name : (namedAmong cs').findSome? (declaredName? source) =
    (namedAmong cs).findSome? (declaredName? source)
  pieces : kind = .concatenatedString → pieces source cs' = pieces source cs
  designation : (inRole .designator cs').map (leadingText? source) =
    (inRole .designator cs).map (leadingText? source)

/-- Two nodes agree in all that a reading of them depends on. -/
structure NodesAlike (source : ByteArray) (n n' : Node) : Prop where
  kind : n'.kind = n.kind
  named : n'.named = n.named
  start : n'.start = n.start
  stop : n'.stop = n.stop
  children : SiblingsAlike source n.kind n.children n'.children

variable {source : ByteArray} {n n' : Node} {role : Option Field}

private theorem map_child?_of_map_inRole {α : Type} {f : Node → α} (role : Field)
    (same : (inRole role n'.children).map f = (inRole role n.children).map f) :
    (n'.child? role).map f = (n.child? role).map f := by
  rw [Node.child?_eq_head?, Node.child?_eq_head?, ← List.head?_map, ← List.head?_map]
  exact congrArg List.head? same

namespace NodesAlike

variable (h : NodesAlike source n n')

include h

/-- The text is the same stretch. -/
theorem text : textOf source n' = textOf source n := by
  rw [textOf, textOf, h.start, h.stop]

private theorem map_child? {α : Type} (f : Reading → α) (role : Field) :
    (n'.child? role).map (fun c ↦ f (reading source c)) =
      (n.child? role).map fun c ↦ f (reading source c) := by
  have firsts := congrArg (Option.map f) (map_child?_of_map_inRole role (h.children.roles role))
  rwa [Option.map_map, Option.map_map] at firsts

/-- The name is the same that the first declarator declares. -/
theorem name : (n'.child? .declarator).bind (declaredName? source) =
    (n.child? .declarator).bind (declaredName? source) := by
  have names := congrArg (Option.bind · id) (h.map_child? (·.name?) .declarator)
  rwa [Option.bind_map, Option.bind_map] at names

private theorem designation : (n'.child? .designator).bind (leadingText? source) =
    (n.child? .designator).bind (leadingText? source) := by
  have names := congrArg (Option.bind · id)
    (map_child?_of_map_inRole .designator h.children.designation)
  rwa [Option.bind_map, Option.bind_map] at names

/-- An address is taken in both or in neither. -/
theorem takesAddress : takesAddress n' = takesAddress n := by
  have kind : (n'.child? .operator).map (·.kind) = (n.child? .operator).map (·.kind) :=
    h.map_child? (·.kind) .operator
  rw [Construct.takesAddress, Construct.takesAddress, kind]

/-- The same is inside both. -/
theorem inside : lowerInside source n' = lowerInside source n := by
  rw [lowerInside_eq, lowerInside_eq]
  exact h.children.inside

/-- Both hold the same. -/
theorem held (holding : Holding) : held source n' holding = held source n holding := by
  have own (role : Field) : (n'.child? role).map (lower source) =
    (n.child? role).map (lower source) := h.map_child? (·.construct) role
  have arguments : (n'.child? .arguments).map (lowerInside source) =
    (n.child? .arguments).map (lowerInside source) := h.map_child? (·.inside) .arguments
  cases holding with
  | nothing => rfl
  | role role => rw [Construct.held, Construct.held, own]
  | call => rw [Construct.held, Construct.held, own, arguments]
  | inside => exact h.inside

/-- Adjacent literals are joined to the same one. -/
theorem joinedLiteral (joined : n.kind = .concatenatedString) :
    joinedLiteral source n' = joinedLiteral source n := by
  have inner := congrArg (List.map betweenQuotes) (h.children.pieces joined)
  rw [Construct.pieces, Construct.pieces, List.map_map, List.map_map] at inner
  exact congrArg (fun texts ↦ "\"" ++ String.join texts ++ "\"") inner

/-- Both are spelled the same. -/
theorem spelling : spellingOf source n' = spellingOf source n := by
  have callee : (n'.child? .function).map (textOf source) =
    (n.child? .function).map (textOf source) := h.map_child? (·.text) .function
  have designation : ((n'.child? .designator).bind (·.namedChildren.head?)).map (textOf source) =
      ((n.child? .designator).bind (·.namedChildren.head?)).map (textOf source) := by
    rw [Option.map_bind, Option.map_bind]
    exact h.designation
  rw [spellingOf, spellingOf, h.kind, h.text, h.name, callee, designation]
  split
  case h_4 joined => exact h.joinedLiteral joined
  all_goals rfl

private theorem construct : lower source n' = lower source n := by
  have holding : holding n' = holding n := by
    rw [Construct.holding, Construct.holding, h.kind, h.takesAddress]
  have kind : kindOf n' = kindOf n := by rw [kindOf, kindOf, h.kind, h.takesAddress]
  rw [lower_eq, lower_eq, holding, kind, h.spelling, h.start, h.stop, h.held]

private theorem declaredName : declaredName? source n' = declaredName? source n := by
  have isName : isName n' = isName n := by rw [Construct.isName, Construct.isName, h.kind]
  have nested : (n'.child? .declarator).map (declaredName? source) =
    (n.child? .declarator).map (declaredName? source) := h.map_child? (·.name?) .declarator
  have first : n'.namedChildren.findSome? (declaredName? source) =
    n.namedChildren.findSome? (declaredName? source) := h.children.name
  rw [declaredName?_eq, declaredName?_eq, isName, h.text, nested, first]

/-- Both name one type. -/
theorem declaredType : declaredType source n' = declaredType source n := by
  have tag : (n'.child? .name).map (textOf source) = (n.child? .name).map (textOf source) :=
    h.map_child? (·.text) .name
  rw [declaredType_eq, declaredType_eq, h.kind, h.text, tag]

/-- Both declare the same variables. -/
theorem declaration : lowerDeclaration source n' = lowerDeclaration source n := by
  have typeName : (n'.child? .typed).map (Construct.declaredType source) =
    (n.child? .typed).map (Construct.declaredType source) := h.map_child? (·.type) .typed
  have declarators : (n'.childrenIn .declarator).map (reading source) =
    (n.childrenIn .declarator).map (reading source) := h.children.roles .declarator
  have length := congrArg List.length declarators
  rw [List.length_map, List.length_map] at length
  rw [lowerDeclaration_eq, lowerDeclaration_eq, typeName, length, h.start, h.stop]
  generalize (n.child? .typed).map (Construct.declaredType source) = typeName
  generalize (if (n.childrenIn .declarator).length = 1 then _ else _) = whole
  have declared := congrArg (List.filterMap (·.declared? typeName whole)) declarators
  rwa [List.filterMap_map, List.filterMap_map] at declared

private theorem reading_eq : reading source n' = reading source n := by
  have value : (n'.child? .value).map (lower source) = (n.child? .value).map (lower source) :=
    h.map_child? (·.construct) .value
  rw [reading, reading, h.kind, h.named, h.start, h.stop, h.text, h.declaredName, h.declaredType,
    h.construct, h.inside, h.declaration, value]

end NodesAlike

namespace SiblingsAlike

variable {kind : Kind} {cs cs' ds ds' : List (Option Field × Node)}

/-- Siblings agree with themselves. -/
theorem refl : SiblingsAlike source kind cs cs := ⟨fun _ ↦ rfl, rfl, rfl, fun _ ↦ rfl, rfl⟩

/-- Siblings agree if those in front do and those behind. -/
theorem append (h : SiblingsAlike source kind cs cs') (k : SiblingsAlike source kind ds ds') :
    SiblingsAlike source kind (cs ++ ds) (cs' ++ ds') := by
  refine ⟨fun role ↦ ?_, ?_, ?_, fun joined ↦ ?_, ?_⟩
  · rw [inRole_append, inRole_append, List.map_append, List.map_append, h.roles, k.roles]
  · rw [List.flatMap_append, List.flatMap_append, h.inside, k.inside]
  · rw [namedAmong_append, namedAmong_append, List.findSome?_append, List.findSome?_append, h.name,
      k.name]
  · have left := h.pieces joined
    have right := k.pieces joined
    rw [Construct.pieces, Construct.pieces] at left right
    rw [Construct.pieces, Construct.pieces, namedAmong_append, namedAmong_append,
      List.filter_append, List.filter_append, List.map_append, List.map_append, left, right]
  · rw [inRole_append, inRole_append, List.map_append, List.map_append, h.designation,
      k.designation]

/-- A comment is not seen. -/
theorem comment {missing : Bool} {start stop : Nat} :
    SiblingsAlike source kind [] [(none, .mk .comment true missing start stop [])] :=
  ⟨fun _ ↦ rfl, rfl, rfl, fun _ ↦ rfl, rfl⟩

/-- Skipped text is seen through, but not between adjacent literals. -/
theorem skipped {missing : Bool} {start stop : Nat} (loose : kind ≠ .concatenatedString)
    (free : ∀ c ∈ cs, c.1 = none) :
    SiblingsAlike source kind cs [(none, .mk .error true missing start stop cs)] := by
  have noRole (role : Field) : inRole role cs = [] := by
    rw [inRole, List.map_eq_nil_iff, List.filter_eq_nil_iff]
    intro c mem is
    rw [free c mem] at is
    cases is
  refine ⟨fun role ↦ by rw [noRole]; rfl, ?_, ?_, fun joined ↦ absurd joined loose,
    by rw [noRole]; rfl⟩
  · rw [List.flatMap_singleton]
    exact lowerInside_eq source (.mk .error true missing start stop cs)
  · have noDeclarator : (Node.mk .error true missing start stop cs).child? .declarator = none := by
      rw [Node.child?_eq_head?]
      exact congrArg List.head? (noRole .declarator)
    have name := declaredName?_eq source (.mk .error true missing start stop cs)
    rw [noDeclarator] at name
    exact (List.findSome?_singleton).trans name

/-- A child in whose place the same is read is as good. -/
theorem child {c c' : Node} (same : reading source c' = reading source c)
    (leading : role = some .designator → leadingText? source c' = leadingText? source c) :
    SiblingsAlike source kind [(role, c)] [(role, c')] := by
  have named : c'.named = c.named := congrArg (·.named) same
  have literal : c'.kind = c.kind := congrArg (·.kind) same
  have text : textOf source c' = textOf source c := congrArg (·.text) same
  have name : declaredName? source c' = declaredName? source c := congrArg (·.name?) same
  have inside : among source c' = among source c := congrArg Reading.among same
  refine ⟨fun other ↦ ?_, ?_, ?_, fun _ ↦ ?_, ?_⟩
  · by_cases is : role = some other <;> simp [inRole, is, same]
  · rw [List.flatMap_singleton, List.flatMap_singleton, inside]
  · cases is : c.named <;> simp [namedAmong, named, is, name]
  · cases is : c.named <;> cases isLiteral : c.kind == .stringLiteral <;>
      simp [Construct.pieces, namedAmong, named, is, literal, isLiteral, text]
  · by_cases is : role = some .designator
    · simp [inRole, is, leading is]
    · simp [inRole, is]

end SiblingsAlike

private theorem leadingText?_congr {kind : Kind} {named missing : Bool} {start stop : Nat}
    {before after : List (Option Field × Node)} {c c' : Node}
    (same : reading source c' = reading source c) :
    leadingText? source (.mk kind named missing start stop (before ++ (role, c') :: after)) =
      leadingText? source (.mk kind named missing start stop (before ++ (role, c) :: after)) := by
  have isNamed : c'.named = c.named := congrArg (·.named) same
  have text : textOf source c' = textOf source c := congrArg (·.text) same
  have texts : (namedAmong (before ++ (role, c') :: after)).map (textOf source) =
      (namedAmong (before ++ (role, c) :: after)).map (textOf source) := by
    rw [namedAmong_append, namedAmong_append, List.map_append, List.map_append]
    cases is : c.named <;> simp [namedAmong, isNamed, is, text]
  have first := congrArg List.head? texts
  rwa [List.head?_map, List.head?_map] at first

private theorem reading_of_interrupted (h : Interrupted role n n') :
    reading source n' = reading source n ∧
      (role = some .designator → leadingText? source n' = leadingText? source n) := by
  -- By induction on the place in the tree: below it, one child is put in place of another one of
  -- which the same is read.
  induction h with
  | comment apart =>
    exact ⟨NodesAlike.reading_eq ⟨rfl, rfl, rfl, rfl, SiblingsAlike.refl.append
      (SiblingsAlike.comment.append .refl)⟩, fun is ↦ absurd is apart⟩
  | skipped apart loose free =>
    refine ⟨NodesAlike.reading_eq ⟨rfl, rfl, rfl, rfl, ?_⟩, fun is ↦ absurd is apart⟩
    dsimp only [Node.children]
    rw [List.append_cons]
    exact (SiblingsAlike.refl.append (.skipped loose free)).append .refl
  | child _ ih =>
    exact ⟨NodesAlike.reading_eq ⟨rfl, rfl, rfl, rfl, SiblingsAlike.refl.append
      ((SiblingsAlike.child ih.1 ih.2).append .refl)⟩, fun _ ↦ leadingText?_congr ih.1⟩

/-- Comments and skipped text, any number of them at any depth, are not seen in the constructs of a
tree: fields stay at their positions, and a file contributes the same. -/
theorem constructs_of_interrupted (h : Relation.ReflTransGen (Interrupted role) n n')
    (source : ByteArray) :
    lower source n' = lower source n ∧ lowerInside source n' = lowerInside source n ∧
      (lower source n').positionalFields = (lower source n).positionalFields ∧
      (∀ field, (lower source n').designatedField? field =
        (lower source n).designatedField? field) ∧
      ∀ path, ofSyntax path source n' = ofSyntax path source n ∧
        ∀ f, (ofSyntax path source n').survey f = (ofSyntax path source n).survey f := by
  have same : reading source n' = reading source n := by
    induction h with
    | refl => rfl
    | tail _ last ih => exact (reading_of_interrupted last).1.trans ih
  have own : lower source n' = lower source n := congrArg (·.construct) same
  have inside : lowerInside source n' = lowerInside source n := congrArg (·.inside) same
  have start : n'.start = n.start := congrArg (·.start) same
  have stop : n'.stop = n.stop := congrArg (·.stop) same
  have whole (path : String) : ofSyntax path source n' = ofSyntax path source n := by
    rw [ofSyntax, ofSyntax, lowerAll_eq_flatMap, lowerAll_eq_flatMap, ← lowerInside_eq,
      ← lowerInside_eq, start, stop, inside]
  exact ⟨own, inside, by rw [own], fun field ↦ by rw [own], fun path ↦
    ⟨whole path, fun f ↦ by rw [whole path]⟩⟩

/-- A comment in a designator is taken for the name. -/
example : spellingOf "./**/n = f".toUTF8 (.mk .initializerPair true false 0 10
    [(some .designator, .mk .other true false 0 6 [(none, .mk .comment true false 1 5 []),
      (none, .mk .fieldIdentifier true false 5 6 [])])]) = "/**/" := rfl

end Construct

/-! A method table with one entry. In the entry there is a comment in front of the function, and its
last two fields are in skipped text. -/

namespace Commented

open Syntax
open Syntax.Node (Interrupted written)

/-- The file. -/
def file : SourceFile := ⟨"/m.c", "PyMethodDef M[] = \x7b\x7b\"f\", /**/ m_f, 0, 0\x7d\x7d;".toUTF8⟩

/-- The name of the method. -/
def method : Option Field × Node := (none, written .stringLiteral 20 23 [])

/-- The comment. -/
def comment : Option Field × Node := (none, written .comment 25 29 [])

/-- The function. -/
def function : Option Field × Node := (none, written .identifier 30 33 [])

/-- The other two fields. -/
def rest : List (Option Field × Node) :=
  [(none, written .numberLiteral 35 36 []), (none, written .numberLiteral 38 39 [])]

/-- The type of the table. -/
def type : Option Field × Node := (some .typed, written .typeIdentifier 0 11 [])

/-- The declarator of the table, without the initializer. -/
def table : Option Field × Node :=
  (some .declarator, written .other 12 15 [(some .declarator, written .identifier 12 13 [])])

/-- The file as a tree, by what is in the entry. -/
def tree (entry : List (Option Field × Node)) : Node :=
  written .other 0 42 [(none, written .declaration 0 42 [type, (some .declarator,
    written .initDeclarator 12 41 [table, (some .value,
      written .initializerList 18 41 [(none, written .initializerList 19 40 entry)])])])]

private theorem interrupted_tree {entry entry' : List (Option Field × Node)}
    (h : Interrupted none (written .initializerList 19 40 entry)
      (written .initializerList 19 40 entry')) :
    Interrupted none (tree entry) (tree entry') := by
  have value := @Interrupted.child (some .value) _ .initializerList true false 18 41 [] [] _ _ h
  have declarator := @Interrupted.child (some .declarator) _ .initDeclarator true false 12 41
    [table] [] _ _ value
  have declaration := @Interrupted.child none _ .declaration true false 0 42 [type] [] _ _
    declarator
  exact @Interrupted.child none _ .other true false 0 42 [] [] _ _ declaration

/-- The entry still pairs the method with the function. -/
theorem constructs_of_interrupted_tree :
    Relation.ReflTransGen (Interrupted none) (tree (method :: function :: rest))
        (tree [method, comment, function, (none, written .error 35 39 rest)]) ∧
      ((Construct.ofSyntax "/m.c" file.bytes
        (tree [method, comment, function, (none, written .error 35 39 rest)])).survey file).tables =
          .ofList [("M", .ofList [("f", "m_f")])] := by
  have commented : Interrupted none (tree (method :: function :: rest))
      (tree (method :: comment :: function :: rest)) :=
    interrupted_tree (@Interrupted.comment none _ _ _ _ _ _ _ _ [method] (function :: rest) nofun)
  have skipped : Interrupted none (tree (method :: comment :: function :: rest))
      (tree [method, comment, function, (none, written .error 35 39 rest)]) :=
    interrupted_tree (@Interrupted.skipped none _ _ _ _ _ _ _ _ [method, comment, function] rest []
      nofun nofun (by decide))
  have both := (Relation.ReflTransGen.single commented).tail skipped
  obtain ⟨-, -, -, -, whole⟩ := Construct.constructs_of_interrupted both file.bytes
  rw [(whole "/m.c").2]
  exact ⟨both, rfl⟩

end Commented

end BuiltinAtlas
