import BuiltinAtlas.Automaton.Table
import BuiltinAtlas.Lexer.Extent

/-!
# Parse trees

The trees a parse builds, hidden nodes included. Every tree knows the size of the text it covers,
split into the separators before it (`padding`) and the rest (`size`), and how much it costs:
skipped text and inserted tokens are paid for, and the parser keeps the cheapest reading.
-/

namespace BuiltinAtlas.Parser

open BuiltinAtlas.Grammar BuiltinAtlas.Automaton

/-- What a parse tree node is made of. -/
inductive Label where
  /-- A symbol of the grammar. -/
  | symbol (s : Nat)
  /-- Skipped text under way: a chain that is still growing. -/
  | skipping
  /-- Skipped text. -/
  | error
  deriving BEq, DecidableEq

/-- The order of labels, by which equally good readings are compared. -/
def Label.rank : Label → Nat
  | symbol s => s
  | skipping => 65534
  | error => 65535

namespace Cost

/-- Every stretch of skipped text. -/
def recovery : Nat := 500

/-- An inserted token. -/
def missing : Nat := 110

/-- Every skipped node. -/
def skippedNode : Nat := 100

/-- Every skipped byte. -/
def skippedByte : Nat := 1

/-- Every skipped line end. -/
def skippedLine : Nat := 30

/-- The cost of skipping a stretch of text. -/
def ofExtent (e : Extent) : Nat := skippedByte * e.bytes + skippedLine * e.rows

end Cost

/-- The data of a parse tree node. -/
structure Info where
  label : Label
  padding : Extent
  size : Extent
  visible : Bool
  extra : Bool
  /-- A token that is not in the text. -/
  missing : Bool
  /-- A word that the grammar also knows as a keyword. -/
  keyword : Bool
  layout : Layout
  cost : Nat
  dynamic : Int
  /-- The number of visible children, hidden ones replaced by theirs. -/
  visibleChildren : Nat
  /-- The number of visible nodes below. -/
  visibleBelow : Nat

/-- A parse tree. -/
inductive Tree where
  | node (info : Info) (children : List Tree)

namespace Tree

/-- The data of the root. -/
def info : Tree → Info
  | node i _ => i

/-- The children of the root, hidden ones included. -/
def children : Tree → List Tree
  | node _ cs => cs

/-- The padding and the size together. -/
def total (t : Tree) : Extent := t.info.padding + t.info.size

/-- The same tree with other data. -/
def withInfo (t : Tree) (f : Info → Info) : Tree := node (f t.info) t.children

/-- The cost of a tree; an inserted token has its own price. -/
def cost (t : Tree) : Nat :=
  if t.info.missing then Cost.missing + Cost.recovery else t.info.cost

/-- Whether a tree is skipped text. -/
def isError (t : Tree) : Bool := t.info.label == .error

/-- How many nodes a tree counts for when progress is measured. -/
def weight (t : Tree) : Nat :=
  t.info.visibleBelow + (if t.info.visible then 1 else 0) +
    (if t.info.label == .skipping then 1 else 0)

/-- A token read from the text. -/
def leaf (label : Label) (visible : Bool) (padding size : Extent) (extra keyword : Bool) : Tree :=
  node
    { label, padding, size, visible, extra, keyword
      missing := false
      layout := ⟨[], []⟩
      cost := 0
      dynamic := 0
      visibleChildren := 0
      visibleBelow := 0 } []

/-- A token that is not in the text. -/
def inserted (symbol : Nat) (visible : Bool) : Tree :=
  (leaf (.symbol symbol) visible .zero .zero false false).withInfo
    fun i ↦ { i with missing := true }

/-- The extent of a sequence of trees without the padding of the first. -/
private def sizeOf : List Tree → Extent
  | [] => .zero
  | t :: ts => ts.foldl (fun e c ↦ e + c.total) t.info.size

/-- What skipping a child costs, beyond its own cost. -/
private def skipPrice (c : Tree) : Nat :=
  if c.info.extra || (c.isError && c.children.isEmpty) then 0
  else if c.info.visible then Cost.skippedNode
  else if c.children.isEmpty then 0
  else Cost.skippedNode * c.info.visibleChildren

/-- The visible children of a node and the visible nodes below it, over its children paired with
the aliases they are shown under. -/
private def countVisible : List Tree → List (Option Alias) → Nat × Nat
  | [], _ => (0, 0)
  | c :: cs, as =>
    let aliased := !c.info.extra && c.info.label != .symbol 0 && (as.head?.join).isSome
    let (children, below) := countVisible cs (if c.info.extra then as else as.tail)
    let below := below + c.info.visibleBelow
    if aliased || c.info.visible then (children + 1, below + 1)
    else if c.children.isEmpty then (children, below)
    else (children + c.info.visibleChildren, below)

/-- A node over its children. -/
def branch (label : Label) (visible : Bool) (layout : Layout) (children : List Tree) : Tree :=
  let size := sizeOf children
  let skipped := label == .error || label == .skipping
  let total (price : Tree → Nat) := children.foldl (fun sum c ↦ sum + price c) 0
  let own := total fun c ↦ if c.info.label == .skipping then 0 else c.cost
  let prices := if skipped then total skipPrice + Cost.recovery + Cost.ofExtent size else 0
  let (visibleChildren, visibleBelow) := countVisible children layout.aliases
  node
    { label, size, visible, layout, visibleChildren, visibleBelow
      padding := (children.head?.map (·.info.padding)).getD .zero
      extra := false
      missing := false
      keyword := false
      cost := own + prices
      dynamic := children.foldl (fun sum c ↦ sum + c.info.dynamic) 0 } children

/-- Skipped text over its parts. -/
def skippedText (extra : Bool) (children : List Tree) : Tree :=
  (branch .error true ⟨[], []⟩ children).withInfo fun i ↦ { i with extra }

/-- Skipped text that is still growing. -/
def skippingChain (children : List Tree) : Tree := branch .skipping false ⟨[], []⟩ children

mutual

/-- Compare two trees node by node from the root, left to right: by label, then by number of
children. -/
def compare : Tree → Tree → Ordering
  | node i cs, node j ds =>
    let here := (Ord.compare i.label.rank j.label.rank).then
      (Ord.compare cs.length ds.length)
    here.then (compareAll cs ds)

/-- Compare two sequences of trees. -/
def compareAll : List Tree → List Tree → Ordering
  | c :: cs, d :: ds => (compare c d).then (compareAll cs ds)
  | _, _ => .eq

end

/-- Whether the second of two readings of the same text is better: cheaper, then of higher
dynamic precedence; between faulty ones the later, else the one that comes first in order. -/
def prefersSecond (left right : Tree) : Bool :=
  if right.cost < left.cost then true
  else if left.cost < right.cost then false
  else if left.info.dynamic < right.info.dynamic then true
  else if right.info.dynamic < left.info.dynamic then false
  else if 0 < left.cost then true
  else compare left right == .gt

/-- Split a sequence of trees into its body and the extras at its end. -/
def splitExtras (ts : List Tree) : List Tree × List Tree :=
  let extras := (ts.reverse.takeWhile (·.info.extra)).reverse
  (ts.take (ts.length - extras.length), extras)

end Tree

end BuiltinAtlas.Parser
