import BuiltinAtlas.Automaton.Item

/-!
# Parser states

A state is a set of items with their lookaheads. `Closure` says which productions can begin
inside a state; `States.explore` follows every symbol from the initial state until no new state
appears.
-/

namespace BuiltinAtlas.Automaton

open BuiltinAtlas.Grammar

/-- What can begin where a symbol is expected. A lookahead set may hold the extra bit
`inherit`, which stands for whatever can follow the expected symbol itself. -/
structure Closure where
  /-- The tokens that can begin each symbol. -/
  firsts : Array TokenSet
  /-- For each defined symbol, the symbols that can begin it and what can follow those. -/
  corners : Array (Array (Nat × TokenSet))
  /-- The bit that marks an inherited lookahead. -/
  inherit : Nat

/-- Repeat a monotone step until nothing changes, at most `fuel` times. -/
def saturate {α : Type} [BEq α] (step : α → α) : Nat → α → α
  | 0, x => x
  | fuel + 1, x =>
    let y := step x
    if y == x then x else saturate step fuel y

/-- The tokens that can begin each symbol; no symbol but the start symbol is empty. -/
private def firstSets (g : Normal) : Array TokenSet :=
  let initial := (Array.range g.symbolCount).map fun s ↦
    if s < g.tokenCount then TokenSet.single s else 0
  let step (sets : Array TokenSet) : Array TokenSet :=
    g.rules.zipIdx.foldl (fun sets (es, i) ↦
      es.foldl (fun sets e ↦ match e.steps.head? with
        | some s => sets.modify (g.tokenCount + i) (TokenSet.union ((sets[s.symbol]?).getD 0))
        | none => sets) sets) sets
  saturate step g.symbolCount initial

/-- One round of left-corner propagation from symbol to symbol. -/
private def cornerStep (g : Normal) (firsts : Array TokenSet)
    (sets : Array TokenSet) : Array TokenSet :=
  g.rules.zipIdx.foldl (fun sets (es, i) ↦
    let here := (sets[i]?).getD 0
    if here == 0 then sets
    else es.foldl (fun sets e ↦ match e.steps with
      | [] => sets
      | s :: rest =>
        if s.symbol < g.tokenCount then sets
        else
          let follow := match rest with
            | [] => here
            | t :: _ => (firsts[t.symbol]?).getD 0
          sets.modify (s.symbol - g.tokenCount) (TokenSet.union follow)) sets) sets

/-- The closure data of a grammar. -/
def Closure.ofGrammar (g : Normal) : Closure :=
  let firsts := firstSets g
  let inherit := g.tokenCount
  { firsts
    inherit
    corners := (Array.range g.rules.size).map fun i ↦
      let initial := (Array.replicate g.rules.size 0).setIfInBounds i (TokenSet.single inherit)
      let sets := saturate (cornerStep g firsts) (g.rules.size * 4) initial
      (sets.zipIdx.filter (·.1 != 0)).map fun (s, j) ↦ (j, s) }

/-- The defining items of a state with their lookaheads, in increasing order of items. -/
abbrev Kernel := Array (Nat × TokenSet)

/-- A state with everything that can happen in it, before conflicts are resolved. -/
structure State where
  kernel : Kernel
  /-- The items that are finished in the state, with their lookaheads. -/
  finished : Array (Nat × TokenSet)
  /-- The successor state for each symbol that can be read. -/
  successors : Array (Nat × Nat)

/-- The contents of a kernel: its finished items, and the kernels that the symbols lead to. -/
private def expandKernel (g : Normal) (its : Items) (cl : Closure) (k : Kernel) :
    Array (Nat × TokenSet) × Array (Nat × Kernel) :=
  let item (i : Nat) := its.items[i]?
  let begun : Array TokenSet := k.foldl (fun begun (i, la) ↦
    match item i with
    | none => begun
    | some it => match it.next with
      | none => begun
      | some s =>
        if s < g.tokenCount then begun
        else
          let follow := match it.afterNext with
            | none => la
            | some t => (cl.firsts[t]?).getD 0
          ((cl.corners[s - g.tokenCount]?).getD #[]).foldl (fun begun (j, set) ↦
            begun.modify j fun old ↦
              let own := set &&& (TokenSet.single cl.inherit - 1)
              if set.testBit cl.inherit then old ||| own ||| follow else old ||| own)
            begun)
    (Array.replicate g.rules.size 0)
  let finished := k.filter fun (i, _) ↦ ((item i).bind (·.next)).isNone
  let finished := finished ++ begun.zipIdx.flatMap fun (la, j) ↦
    if la == 0 then #[] else (((its.empties[j]?).getD []).map fun i ↦ (i, la)).toArray
  let add (m : Array (List (Nat × TokenSet))) (s i : Nat) (la : TokenSet) :=
    m.modify s fun xs ↦ (i, la) :: xs
  let moves : Array (List (Nat × TokenSet)) := k.foldl (fun m (i, la) ↦
    match item i with
    | none => m
    | some it => match it.next with
      | none => m
      | some s => add m s it.advance la)
    (Array.replicate g.symbolCount [])
  let moves := begun.zipIdx.foldl (fun m (la, j) ↦
    if la == 0 then m
    else ((its.starts[j]?).getD #[]).foldl (fun m (s, i) ↦ add m s i la) m) moves
  let merge (xs : List (Nat × TokenSet)) : Kernel :=
    let sorted := xs.toArray.qsort fun a b ↦ a.1 < b.1
    sorted.foldl (fun acc (i, la) ↦ match acc.back? with
      | some (i', la') => if i == i' then acc.pop.push (i, la ||| la') else acc.push (i, la)
      | none => acc.push (i, la)) #[]
  let successors := moves.zipIdx.filterMap fun (xs, s) ↦
    if xs.isEmpty then none else some (s, merge xs)
  (finished, successors)

/-- The states found so far. -/
structure States where
  numbers : Std.HashMap Kernel Nat
  kernels : Array Kernel
  states : Array State

/-- The number of a kernel, which is entered when it is new. -/
private def States.number (ss : States) (k : Kernel) : Nat × States :=
  match ss.numbers[k]? with
  | some n => (n, ss)
  | none =>
    (ss.kernels.size,
      { ss with numbers := ss.numbers.insert k ss.kernels.size, kernels := ss.kernels.push k })

/-- Visit the states that have been numbered but not expanded. -/
private def States.explore (g : Normal) (its : Items) (cl : Closure) : Nat → States → States
  | 0, ss => ss
  | fuel + 1, ss =>
    match ss.kernels[ss.states.size]? with
    | none => ss
    | some k =>
      let (finished, moves) := expandKernel g its cl k
      let (successors, ss) := moves.foldl (fun (acc, ss) (s, k') ↦
        let (n, ss) := States.number ss k'
        (acc.push (s, n), ss)) ((#[] : Array (Nat × Nat)), ss)
      explore g its cl fuel { ss with states := ss.states.push ⟨k, finished, successors⟩ }

/-- The states of a grammar. State 0 is empty and stands for a parse that has lost its way;
state 1 is the initial one. -/
def States.ofGrammar (g : Normal) (fuel : Nat) : States :=
  let its := Items.ofGrammar g
  let cl := Closure.ofGrammar g
  let empty : States := ⟨∅, #[#[]], #[⟨#[], #[], #[]⟩]⟩
  let (_, ss) := States.number empty #[(its.initial, TokenSet.single 0)]
  States.explore g its cl fuel ss

end BuiltinAtlas.Automaton
