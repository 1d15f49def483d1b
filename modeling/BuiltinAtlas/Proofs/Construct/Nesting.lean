import Mathlib.Data.List.Basic
import BuiltinAtlas.Proofs.Construct.Lowering
import BuiltinAtlas.Proofs.Source.Expansion
import BuiltinAtlas.Proofs.Survey.Registration

/-!
# Nesting of extents

In a syntax tree the children of a node lie inside it, in the order of the source
(`Node.WellPlaced`). The constructs of such a tree are nested the same way (`Construct.WellNested`),
although nodes are left out, spliced, and given the extent of a declaration around them. The proof
is by induction on the tree: what a node gives lies, in order, between its two ends
(`Construct.Nested`), in every way in which it can be asked for (`Construct.Keeps`). So landmarks
are met in the order in which they begin, and their texts are cut from the file as they stand.
-/

namespace BuiltinAtlas

open Grammar (Field)

namespace Syntax.Node

/-- The children of a node lie inside it, in order and without overlap, and the callee of a call
ends before the arguments begin. -/
structure Fits (n : Node) : Prop where
  forward : n.start ≤ n.stop
  inside : ∀ c ∈ n.children, n.start ≤ c.2.start ∧ c.2.stop ≤ n.stop
  ordered : n.children.Pairwise fun c d ↦ c.2.stop ≤ d.2.start
  call : n.kind = .callExpression → ∀ callee ∈ n.child? .function,
    ∀ arguments ∈ n.child? .arguments, callee.stop ≤ arguments.start

/-- Whether the children of a node fit can be decided. -/
instance (n : Node) : Decidable n.Fits :=
  decidable_of_iff (n.start ≤ n.stop ∧
    (∀ c ∈ n.children, n.start ≤ c.2.start ∧ c.2.stop ≤ n.stop) ∧
    (n.children.Pairwise fun c d ↦ c.2.stop ≤ d.2.start) ∧
    (n.kind = .callExpression → ∀ callee ∈ n.child? .function,
      ∀ arguments ∈ n.child? .arguments, callee.stop ≤ arguments.start))
    ⟨fun ⟨forward, inside, ordered, call⟩ ↦ ⟨forward, inside, ordered, call⟩,
      fun ⟨forward, inside, ordered, call⟩ ↦ ⟨forward, inside, ordered, call⟩⟩

/-- Every node of a tree fits. -/
inductive WellPlaced : Node → Prop where
  | mk {n : Node} (fits : n.Fits) (below : ∀ c ∈ n.children, c.2.WellPlaced) : n.WellPlaced

private theorem wellPlaced_of_forall {n : Node} (h : ∀ m ∈ n.preorder, m.Fits) : n.WellPlaced := by
  rw [preorder_eq, List.forall_mem_cons, List.forall_mem_flatMap] at h
  refine .mk h.1 fun c mem ↦ ?_
  have := sizeOf_lt_of_mem_children mem
  exact wellPlaced_of_forall (h.2 c mem)
termination_by sizeOf n

private theorem wellPlaced_iff {n : Node} : n.WellPlaced ↔ ∀ m ∈ n.preorder, m.Fits := by
  refine ⟨fun h ↦ ?_, wellPlaced_of_forall⟩
  induction h with
  | mk fits _ below =>
    rw [preorder_eq, List.forall_mem_cons, List.forall_mem_flatMap]
    exact ⟨fits, below⟩

/-- Whether a tree is well placed can be decided. -/
instance (n : Node) : Decidable n.WellPlaced := decidable_of_iff' _ wellPlaced_iff

end Syntax.Node

namespace Construct

open Syntax

/-- The parts of a construct lie inside it, in order and without overlap, at every depth. -/
inductive WellNested : Construct → Prop where
  | mk {c : Construct} (forward : c.start ≤ c.stop)
      (inside : ∀ p ∈ c.parts, c.start ≤ p.start ∧ p.stop ≤ c.stop)
      (ordered : c.parts.Pairwise fun p q ↦ p.stop ≤ q.start)
      (below : ∀ p ∈ c.parts, p.WellNested) : c.WellNested

/-- Some constructs are well nested and lie between two offsets, in order and without overlap. -/
structure Nested (low high : Nat) (cs : List Construct) : Prop where
  each : ∀ c ∈ cs, c.WellNested
  inside : ∀ c ∈ cs, low ≤ c.start ∧ c.stop ≤ high
  ordered : cs.Pairwise fun c d ↦ c.stop ≤ d.start

variable {low high : Nat} {cs ds : List Construct} {c d : Construct} {n : Node}
  {source : ByteArray}

namespace Nested

/-- Nothing lies anywhere. -/
theorem nil : Nested low high [] := ⟨nofun, nofun, .nil⟩

private theorem singleton (nested : c.WellNested) (lower : low ≤ c.start) (upper : c.stop ≤ high) :
    Nested low high [c] :=
  ⟨List.forall_mem_singleton.mpr nested, List.forall_mem_singleton.mpr ⟨lower, upper⟩,
    List.pairwise_singleton _ _⟩

private theorem widen (h : Nested low high cs) {low' high' : Nat} (lower : low' ≤ low)
    (upper : high ≤ high') : Nested low' high' cs := by
  refine ⟨h.each, fun c mem ↦ ?_, h.ordered⟩
  have := h.inside c mem
  omega

/-- What lies behind the rest is appended. -/
theorem append {middle middle' : Nat} (h : Nested low middle cs) (k : Nested middle' high ds)
    (apart : middle ≤ middle') (upper : middle ≤ high) (lower : low ≤ middle') :
    Nested low high (cs ++ ds) := by
  have left := h.widen (Nat.le_refl low) upper
  have right := k.widen lower (Nat.le_refl high)
  refine ⟨List.forall_mem_append.mpr ⟨left.each, right.each⟩,
    List.forall_mem_append.mpr ⟨left.inside, right.inside⟩,
    List.pairwise_append.mpr ⟨h.ordered, k.ordered, fun c hc d hd ↦ ?_⟩⟩
  have := h.inside c hc
  have := k.inside d hd
  omega

/-- Stretches in order give what lies in them. -/
theorem flatMap {α : Type} {xs : List α} {start stop : α → Nat} {give : α → List Construct}
    (inside : ∀ x ∈ xs, low ≤ start x ∧ stop x ≤ high)
    (ordered : xs.Pairwise fun x y ↦ stop x ≤ start y)
    (each : ∀ x ∈ xs, Nested (start x) (stop x) (give x)) : Nested low high (xs.flatMap give) := by
  have wide (x : α) (mem : x ∈ xs) : Nested low high (give x) :=
    (each x mem).widen (inside x mem).1 (inside x mem).2
  refine ⟨List.forall_mem_flatMap.mpr fun x mem ↦ (wide x mem).each,
    List.forall_mem_flatMap.mpr fun x mem ↦ (wide x mem).inside,
    List.pairwise_flatMap.mpr ⟨fun x mem ↦ (each x mem).ordered, ?_⟩⟩
  refine ordered.imp_of_mem fun {x y} hx hy apart c hc d hd ↦ ?_
  have := (each x hx).inside c hc
  have := (each y hy).inside d hd
  omega

end Nested

private theorem Nested.wellNested (forward : c.start ≤ c.stop) (h : Nested c.start c.stop c.parts) :
    c.WellNested :=
  .mk forward h.inside h.ordered h.each

/-- What a node gives lies between its ends, in every way in which it can be asked for. -/
structure Keeps (source : ByteArray) (n : Node) : Prop where
  self : Nested n.start n.stop [lower source n]
  inside : Nested n.start n.stop (lowerInside source n)
  role : ∀ role, Nested n.start n.stop ((n.child? role).map (lower source)).toList
  declaration : Nested n.start n.stop (lowerDeclaration source n)

private theorem Keeps.forward (h : Keeps source n) : n.start ≤ n.stop := by
  obtain ⟨forward, -, -, -⟩ := h.self.each _ List.mem_cons_self
  rwa [lower_eq] at forward

/-- Among its siblings a node gives what lies between its ends. -/
theorem Keeps.among (h : Keeps source n) : Nested n.start n.stop (among source n) := by
  rw [Construct.among]
  split
  · split
    · exact .nil
    · exact h.inside
    · exact h.declaration
    · exact h.self
  · exact .nil

/-! ### What a node gives, from what its children give -/

section Node

variable {role : Field} {m : Node}

private theorem kind_of_holding_eq_call (h : holding n = .call) : n.kind = .callExpression := by
  unfold holding at h
  split at h
  case h_4 => split at h <;> cases h
  case h_5 kind => exact kind
  all_goals cases h

/-- A variable lies between the ends that it is given, if its declarator does. -/
theorem Keeps.declared (h : Keeps source m) (typeName : Option String)
    {whole : Option (Nat × Nat)} {start stop : Nat}
    (extent : whole.getD (m.start, m.stop) = (start, stop)) (lower : start ≤ m.start)
    (upper : m.stop ≤ stop) : Nested start stop (declared? source typeName whole m).toList := by
  have forward : start ≤ stop := Nat.le_trans lower (Nat.le_trans h.forward upper)
  rw [declared?, extent]
  split
  · exact .singleton (Nested.wellNested forward ((h.role .value).widen lower upper))
      (Nat.le_refl _) (Nat.le_refl _)
  · exact .nil

variable (fits : n.Fits) (below : ∀ c ∈ n.children, Keeps source c.2)

include fits below

private theorem keeps_of_mem_childrenIn (h : m ∈ n.childrenIn role) :
    n.start ≤ m.start ∧ m.stop ≤ n.stop ∧ Keeps source m := by
  rw [Node.childrenIn, List.mem_map] at h
  obtain ⟨c, passes, rfl⟩ := h
  have mem := List.mem_of_mem_filter passes
  exact ⟨(fits.inside c mem).1, (fits.inside c mem).2, below c mem⟩

private theorem keeps_of_child? (h : m ∈ n.child? role) :
    n.start ≤ m.start ∧ m.stop ≤ n.stop ∧ Keeps source m := by
  rw [Node.child?_eq_head?] at h
  exact keeps_of_mem_childrenIn fits below (List.mem_of_mem_head? h)

private theorem nested_role (role : Field) :
    Nested n.start n.stop ((n.child? role).map (lower source)).toList := by
  cases h : n.child? role with
  | none => exact .nil
  | some m =>
    obtain ⟨lower, upper, keeps⟩ := keeps_of_child? fits below h
    exact keeps.self.widen lower upper

private theorem nested_inside : Nested n.start n.stop (lowerInside source n) := by
  rw [lowerInside_eq]
  exact .flatMap fits.inside fits.ordered fun c mem ↦ (below c mem).among

private theorem nested_held : Nested n.start n.stop (held source n (holding n)) := by
  cases h : holding n with
  | nothing => exact .nil
  | role role => exact nested_role fits below role
  | inside => exact nested_inside fits below
  | call =>
    rw [held]
    cases hcallee : n.child? .function with
    | none => cases harguments : n.child? .arguments with
      | none => exact .nil
      | some arguments =>
        obtain ⟨lower, upper, keeps⟩ := keeps_of_child? fits below harguments
        exact keeps.inside.widen lower upper
    | some callee =>
      obtain ⟨lower, upper, keeps⟩ := keeps_of_child? fits below hcallee
      cases harguments : n.child? .arguments with
      | none => exact keeps.self.widen lower upper
      | some arguments =>
        obtain ⟨lower', upper', keeps'⟩ := keeps_of_child? fits below harguments
        have apart := fits.call (kind_of_holding_eq_call h) callee hcallee arguments harguments
        exact (keeps.self.widen lower (Nat.le_refl _)).append
          (keeps'.inside.widen (Nat.le_refl _) upper') apart upper lower'

private theorem nested_declaration : Nested n.start n.stop (lowerDeclaration source n) := by
  rw [lowerDeclaration_eq]
  have each (m : Node) (mem : m ∈ n.childrenIn .declarator) :
      n.start ≤ m.start ∧ m.stop ≤ n.stop ∧ Keeps source m :=
    keeps_of_mem_childrenIn fits below mem
  by_cases one : (n.childrenIn .declarator).length = 1
  · obtain ⟨m, only⟩ := List.length_eq_one_iff.mp one
    rw [if_pos one, only, List.filterMap_eq_flatMap_toList, List.flatMap_singleton]
    obtain ⟨lower, upper, keeps⟩ := each m (only ▸ List.mem_singleton_self m)
    exact keeps.declared _ rfl lower upper
  · rw [if_neg one, List.filterMap_eq_flatMap_toList]
    refine .flatMap (fun m mem ↦ ⟨(each m mem).1, (each m mem).2.1⟩) ?_ fun m mem ↦
      (each m mem).2.2.declared _ rfl (Nat.le_refl _) (Nat.le_refl _)
    rw [Node.childrenIn, List.pairwise_map]
    exact fits.ordered.filter _

end Node

private theorem keeps_of_wellPlaced (h : n.WellPlaced) : Keeps source n := by
  induction h with
  | @mk n fits _ below =>
    refine ⟨?_, nested_inside fits below, nested_role fits below, nested_declaration fits below⟩
    rw [lower_eq]
    exact .singleton (Nested.wellNested fits.forward (nested_held fits below))
      (Nat.le_refl _) (Nat.le_refl _)

/-! ### What follows for the constructs inside -/

namespace WellNested

private theorem extent_of_mem_preorder (h : c.WellNested) (mem : d ∈ c.preorder) :
    c.start ≤ d.start ∧ d.start ≤ d.stop ∧ d.stop ≤ c.stop := by
  induction h with
  | @mk c forward inside _ _ below =>
    rw [preorder_eq, List.mem_cons, List.mem_flatMap] at mem
    rcases mem with rfl | ⟨p, part, deeper⟩
    · exact ⟨Nat.le_refl _, forward, Nat.le_refl _⟩
    · obtain ⟨lower, proper, upper⟩ := below p part deeper
      exact ⟨Nat.le_trans (inside p part).1 lower, proper, Nat.le_trans upper (inside p part).2⟩

private theorem pairwise_preorder (h : c.WellNested) :
    c.preorder.Pairwise fun d e ↦ d.start ≤ e.start := by
  have whole := h
  induction h with
  | @mk c _ _ ordered parts below =>
    rw [preorder_eq, List.pairwise_cons, List.pairwise_flatMap]
    refine ⟨fun d mem ↦ (whole.extent_of_mem_preorder ?_).1,
      fun p part ↦ below p part (parts p part), ?_⟩
    · rw [preorder_eq]
      exact List.mem_cons_of_mem c mem
    · refine ordered.imp_of_mem fun {p q} hp hq apart d hd e he ↦ ?_
      have := (parts p hp).extent_of_mem_preorder hd
      have := (parts q hq).extent_of_mem_preorder he
      omega

private theorem pairwise_landmarks (h : c.WellNested) :
    c.landmarks.Pairwise fun l m ↦ l.2.start ≤ m.2.start := by
  rw [landmarks, List.pairwise_filterMap]
  refine h.pairwise_preorder.imp fun {d e} begins l hl m hm ↦ ?_
  obtain ⟨_, -, rfl⟩ := Option.map_eq_some_iff.mp hl
  obtain ⟨_, -, rfl⟩ := Option.map_eq_some_iff.mp hm
  exact begins

end WellNested

/-- The text of a construct is cut from a file between two offsets of the file. -/
structure CutFrom (f : SourceFile) (d : Construct) : Prop where
  forward : d.start ≤ d.stop
  inside : d.stop ≤ f.bytes.size
  excerpt : d.excerpt f = ⟨Text.decode (f.bytes.extract d.start d.stop), f.path⟩

private theorem cutFrom_of_le {f : SourceFile} (forward : d.start ≤ d.stop)
    (inside : d.stop ≤ f.bytes.size) : d.CutFrom f := by
  refine ⟨forward, inside, ?_⟩
  rw [excerpt, SourceFile.span, Nat.min_eq_left inside, Nat.min_eq_left forward]

private theorem wellNested_ofSyntax {root : Node} (placed : root.WellPlaced) (path : String) :
    (ofSyntax path source root).WellNested := by
  have keeps : Keeps source root := keeps_of_wellPlaced placed
  have inside := keeps.inside
  rw [lowerInside_eq, ← lowerAll_eq_flatMap] at inside
  exact Nested.wellNested keeps.forward inside

/-- The constructs of a tree that is well placed are well nested and lie inside the source, and
landmarks are met in the order in which they begin. If the tree is that of a file, the texts of all
its constructs are cut from it as they stand, those of its functions and types among them. -/
theorem nesting_ofSyntax {root : Node} (placed : root.WellPlaced) {source : ByteArray}
    (inside : root.stop ≤ source.size) {path : String} {c : Construct}
    (lowered : ofSyntax path source root = c) :
    c.WellNested ∧ (∀ d ∈ c.preorder, d.start ≤ d.stop ∧ d.stop ≤ source.size) ∧
      (c.landmarks.Pairwise fun l m ↦ l.2.start ≤ m.2.start) ∧
      ∀ f : SourceFile, Source.expandHeadMacros f.bytes = source →
        (∀ d ∈ c.preorder, d.CutFrom f) ∧
        (∀ name e, (c.survey f).functions.find? name = some e → ∃ d ∈ c.preorder,
          d.defines name ∧ e = ⟨Text.decode (f.bytes.extract d.start d.stop), f.path⟩) ∧
        ∀ name e, (c.survey f).types.find? name = some e → ∃ d ∈ c.preorder,
          d.declaresType name ∧
            e.toExcerpt = ⟨Text.decode (f.bytes.extract d.start d.stop), f.path⟩ := by
  subst lowered
  have nested : (ofSyntax path source root).WellNested := wellNested_ofSyntax placed path
  have extent (d : Construct) (mem : d ∈ (ofSyntax path source root).preorder) :
      d.start ≤ d.stop ∧ d.stop ≤ source.size := by
    obtain ⟨-, forward, upper⟩ := nested.extent_of_mem_preorder mem
    exact ⟨forward, Nat.le_trans upper inside⟩
  refine ⟨nested, extent, nested.pairwise_landmarks, fun f expanded ↦ ?_⟩
  have size : f.bytes.size = source.size := by
    have length := (Source.rewritten_expandHeadMacros f.bytes).1.length
    rwa [expanded, Source.length_toList, Source.length_toList, eq_comm] at length
  have cut (d : Construct) (mem : d ∈ (ofSyntax path source root).preorder) : d.CutFrom f :=
    cutFrom_of_le (extent d mem).1 (size ▸ (extent d mem).2)
  refine ⟨cut, fun name e found ↦ ?_, fun name e found ↦ ?_⟩
  · rw [functions_survey, Option.map_eq_some_iff] at found
    obtain ⟨d, last, rfl⟩ := found
    obtain ⟨mem, defines⟩ := List.mem_filter.mp (List.mem_of_getLast? last)
    exact ⟨d, mem, defines, (cut d mem).excerpt⟩
  · obtain ⟨d, last, same⟩ := exists_of_types_survey found
    obtain ⟨mem, declares⟩ := List.mem_filter.mp (List.mem_of_getLast? last)
    exact ⟨d, mem, declares, same.trans (cut d mem).excerpt⟩

end Construct

/-! A declaration with two declarators, and a function inside skipped text. -/

namespace Spliced

open Syntax
open Syntax.Node (written)

/-- The file. -/
def file : SourceFile := ⟨"/s.c", "int a = 1, b = 2; @ int f() \x7bg(a);\x7d\n".toUTF8⟩

/-- A declarator of one letter with an initializer of one letter. -/
def declarator (start : Nat) : Node :=
  written .initDeclarator start (start + 5)
    [(some .declarator, written .identifier start (start + 1) []),
      (some .value, written .numberLiteral (start + 4) (start + 5) [])]

/-- The declaration. -/
def declaration : Node :=
  written .declaration 0 17 [(some .typed, written .other 0 3 []), (some .declarator, declarator 4),
    (some .declarator, declarator 11)]

/-- The call in the function. -/
def call : Node :=
  written .callExpression 29 33 [(some .function, written .identifier 29 30 []),
    (some .arguments, written .other 30 33 [(none, written .identifier 31 32 [])])]

/-- The function. -/
def function : Node :=
  written .functionDefinition 20 35
    [(some .declarator, written .other 24 27 [(some .declarator, written .identifier 24 25 [])]),
      (some .body, written .other 28 35 [(none, written .other 29 34 [(none, call)])])]

/-- The tree. -/
def tree : Node :=
  written .other 0 36 [(none, declaration), (none, written .error 18 35 [(none, function)])]

/-- The variables have the extents of their declarators, and the function stays where it is in the
skipped text. -/
theorem nesting_ofSyntax_tree :
    tree.WellPlaced ∧
      ((Construct.ofSyntax "/s.c" file.bytes tree).preorder.map fun d ↦ (d.start, d.stop)) =
        [(0, 36), (4, 9), (8, 9), (11, 16), (15, 16), (20, 35), (28, 35), (29, 34), (29, 33),
          (29, 30), (31, 32)] ∧
      ∀ d ∈ (Construct.ofSyntax "/s.c" file.bytes tree).preorder, d.CutFrom file := by
  have placed : tree.WellPlaced := by decide
  have inside : tree.stop ≤ file.bytes.size := by decide
  have expanded : Source.expandHeadMacros file.bytes = file.bytes := by decide +kernel
  obtain ⟨-, -, -, ofFile⟩ := Construct.nesting_ofSyntax placed inside rfl
  exact ⟨placed, rfl, (ofFile file expanded).1⟩

end Spliced

end BuiltinAtlas
