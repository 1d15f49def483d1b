import BuiltinAtlas.Grammar.Productions
import Std.Data.HashMap

/-!
# Parse items

An item is a production with a position in it. Productions that differ only in symbols already
passed give the same item, as long as the passed steps agree in everything that the finished node
will need: their number, their fields and aliases, and the annotation of the last one.
-/

namespace BuiltinAtlas.Automaton

open BuiltinAtlas.Grammar

/-- A set of tokens, as the bits of a number. -/
abbrev TokenSet := Nat

namespace TokenSet

/-- The set of one token. -/
def single (t : Nat) : TokenSet := 1 <<< t

/-- The union of two sets. -/
def union (a b : TokenSet) : TokenSet := a ||| b

end TokenSet

/-- A production with its left-hand side; `none` on the left is the start of the parse. -/
structure Production where
  lhs : Option Nat
  steps : Array Step
  dynamic : Int

/-- How the children of a finished node appear in it: their aliases and fields. -/
structure Layout where
  aliases : List (Option Alias)
  fields : List (Option Field)
  deriving BEq, Hashable

/-- What identifies an item. -/
structure ItemKey where
  lhs : Option Nat
  position : Nat
  length : Nat
  dynamic : Int
  prec : Option Int
  assoc : Option Assoc
  layout : Layout
  rest : List Step
  deriving BEq, Hashable

/-- An item: its key, the item one step further on, and the symbol after the next one. -/
structure Item where
  key : ItemKey
  /-- The symbol to be read next. -/
  next : Option Nat
  /-- The number of the item after that symbol. -/
  advance : Nat
  /-- The symbol that follows the next one inside the production. -/
  afterNext : Option Nat

/-- The key of a production at a position. -/
def Production.key (p : Production) (position : Nat) : ItemKey :=
  let steps := p.steps.toList
  let passed := steps.take position
  let last := passed.getLast?
  { lhs := p.lhs
    position
    length := steps.length
    dynamic := p.dynamic
    prec := last.bind (·.prec)
    assoc := last.bind (·.assoc)
    layout := ⟨passed.map (·.shownAs), passed.map (·.field)⟩
    rest := steps.drop position }

/-- The items of a grammar. `starts` lists, for each defined symbol, what its productions read
first and the item that follows; `empties` are the items of empty productions. -/
structure Items where
  items : Array Item
  starts : Array (Array (Nat × Nat))
  empties : Array (List Nat)
  /-- The item before the start symbol. -/
  initial : Nat

/-- The number of a key, which is entered when it is new. -/
private def number (known : Std.HashMap ItemKey Nat × Array ItemKey) (k : ItemKey) :
    Nat × (Std.HashMap ItemKey Nat × Array ItemKey) :=
  match known.1[k]? with
  | some i => (i, known)
  | none => (known.2.size, known.1.insert k known.2.size, known.2.push k)

/-- All items of a grammar in normal form. -/
def Items.ofGrammar (g : Normal) : Items :=
  let start : Production := ⟨none, #[⟨g.tokenCount, none, none, none, none⟩], 0⟩
  let productions : Array Production := #[start] ++
    g.rules.zipIdx.flatMap fun (es, i) ↦ es.map fun e ↦
      ⟨some (g.tokenCount + i), e.steps.toArray, e.dynamic⟩
  let known : Std.HashMap ItemKey Nat × Array ItemKey := productions.foldl
    (fun known p ↦ (List.range (p.steps.size + 1)).foldl
      (fun known i ↦ (number known (p.key i)).2) known)
    (∅, #[])
  let advances : Array Nat := productions.foldl
    (fun acc p ↦ (List.range p.steps.size).foldl
      (fun acc i ↦ acc.setIfInBounds (known.1.getD (p.key i) 0) (known.1.getD (p.key (i + 1)) 0))
      acc)
    (Array.replicate known.2.size 0)
  let items := known.2.mapIdx fun i k ↦
    { key := k
      next := k.rest.head?.map (·.symbol)
      advance := (advances[i]?).getD 0
      afterNext := k.rest[1]?.map (·.symbol) : Item }
  let distinctPairs (ps : List (Nat × Nat)) : Array (Nat × Nat) :=
    (ps.foldl (fun seen p ↦ if seen.contains p then seen else p :: seen) []).reverse.toArray
  let startsOf (lhs : Option Nat) : Array (Nat × Nat) := distinctPairs
    ((productions.toList.filter (·.lhs == lhs)).filterMap fun p ↦
      p.steps[0]?.map fun s ↦ (s.symbol, known.1.getD (p.key 1) 0))
  let emptiesOf (lhs : Option Nat) : List Nat :=
    (productions.toList.filter fun p ↦ p.lhs == lhs && p.steps.isEmpty).map fun p ↦
      known.1.getD (p.key 0) 0
  { items
    starts := (Array.range g.rules.size).map fun i ↦ startsOf (some (g.tokenCount + i))
    empties := (Array.range g.rules.size).map fun i ↦ emptiesOf (some (g.tokenCount + i))
    initial := known.1.getD (start.key 0) 0 }

end BuiltinAtlas.Automaton
