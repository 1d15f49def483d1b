import BuiltinAtlas.Syntax.Node

/-!
# Nodes of a syntax tree

`Node.preorder` lists the nodes of a tree, each before its children, named or not. The faults of a
tree are those among its nodes (`Node.faults_eq`).
-/

namespace BuiltinAtlas

/-- Roles are told apart. -/
instance : LawfulBEq Grammar.Field where
  eq_of_beq {a b} same := by
    have index : a.ctorIdx = b.ctorIdx := eq_of_beq same
    rw [← Grammar.Field.ofNat_ctorIdx a, index, Grammar.Field.ofNat_ctorIdx]
  rfl {a} := beq_self_eq_true a.ctorIdx

namespace Syntax

open Grammar (Field)

/-- Kinds are told apart. -/
instance : LawfulBEq Kind where
  eq_of_beq {a b} same := by
    have index : a.ctorIdx = b.ctorIdx := eq_of_beq same
    rw [← Kind.ofNat_ctorIdx a, index, Kind.ofNat_ctorIdx]
  rfl {a} := beq_self_eq_true a.ctorIdx

namespace Node

mutual

/-- A node and all nodes below it, each before its children. -/
def preorder : Node → List Node
  | .mk kind named missing start stop cs =>
    .mk kind named missing start stop cs :: preorders cs

/-- Some nodes and all nodes below them. -/
def preorders : List (Option Field × Node) → List Node
  | [] => []
  | (_, n) :: cs => preorder n ++ preorders cs

end

/-- A node that stands for a rule of the grammar and was not made up. -/
def written (kind : Kind) (start stop : Nat) (children : List (Option Field × Node)) : Node :=
  .mk kind true false start stop children

/-- A node is a fault: a stretch of skipped text or a made-up token. -/
def isFault (n : Node) : Bool := n.kind == .error || n.missing

variable {n : Node} {c : Option Field × Node}

/-- A child is smaller. -/
theorem sizeOf_lt_of_mem_children (h : c ∈ n.children) : sizeOf c.2 < sizeOf n := by
  obtain ⟨kind, named, missing, start, stop, cs⟩ := n
  obtain ⟨role, child⟩ := c
  have inside : sizeOf (role, child) < sizeOf cs := List.sizeOf_lt_of_mem h
  rw [Prod.mk.sizeOf_spec] at inside
  rw [mk.sizeOf_spec]
  dsimp only
  omega

/-- The first child in a role is the first of those in it. -/
theorem child?_eq_head? (n : Node) (role : Field) : n.child? role = (n.childrenIn role).head? := by
  rw [child?, childrenIn, List.head?_map, List.head?_filter]

/-- The nodes below some nodes, one after the other. -/
theorem preorders_eq_flatMap (cs : List (Option Field × Node)) :
    preorders cs = cs.flatMap fun c ↦ c.2.preorder := by
  induction cs with
  | nil => rfl
  | cons c cs ih => rw [preorders, ih, List.flatMap_cons]

/-- A node comes before all nodes below it. -/
theorem preorder_eq (n : Node) : n.preorder = n :: n.children.flatMap fun c ↦ c.2.preorder := by
  obtain ⟨kind, named, missing, start, stop, cs⟩ := n
  rw [preorder, preorders_eq_flatMap]
  rfl

mutual

/-- The faults of a tree are those among its nodes. -/
theorem faults_eq : (n : Node) → n.faults = n.preorder.countP isFault
  | .mk kind named missing start stop cs => by
    rw [faults, preorder, List.countP_cons, faultsIn_eq cs, Nat.add_comm]
    rfl

private theorem faultsIn_eq : (cs : List (Option Field × Node)) →
    faultsIn cs = (preorders cs).countP isFault
  | [] => rfl
  | (_, n) :: cs => by rw [faultsIn, preorders, List.countP_append, faults_eq n, faultsIn_eq cs]

end

end Node

end Syntax

end BuiltinAtlas
