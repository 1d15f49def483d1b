import BuiltinAtlas.Automaton.States

/-!
# Parse tables

What to do in each state on each token. Where a state could both read a token and finish a
production, the annotations of the grammar decide: the higher precedence wins, then the
associativity, and what remains undecided is kept, so that a state may have several actions on
one token.
-/

namespace BuiltinAtlas.Automaton

open BuiltinAtlas.Grammar

/-- A finished production: the symbol it becomes, how many children it takes, and how they are
laid out. -/
structure Reduction where
  symbol : Nat
  count : Nat
  dynamic : Int
  layout : Layout
  deriving BEq

/-- One thing to do on a token. -/
inductive Action where
  /-- Read the token. A `repetition` would start another round of a chain that a reduction on the
  same token also continues; it is not followed. -/
  | shift (state : Nat) (repetition : Bool)
  /-- Read the token and stay: it may stand anywhere. -/
  | shiftExtra
  | reduce (r : Reduction)
  | accept
  /-- The token can only be skipped. -/
  | recover
  deriving BEq

/-- The actions of one state by token, and its successors by defined symbol. -/
structure Row where
  actions : Array (List Action)
  gotos : Array (Nat × Nat)
  deriving BEq

/-- The parse table of a grammar. -/
structure Table where
  rows : Array Row
  tokenCount : Nat

/-- The state that a parse falls into when it has lost its way. -/
def lostState : Nat := 0

/-- The state in which a parse begins. -/
def initialState : Nat := 1

namespace Table

/-- What to do in a state on a token. -/
def actions (t : Table) (state token : Nat) : List Action :=
  match t.rows[state]? with
  | some row => (row.actions[token]?).getD []
  | none => []

/-- The state after a defined symbol has been read in a state, or `lostState`. -/
def goto (t : Table) (state symbol : Nat) : Nat :=
  match t.rows[state]? with
  | some row => ((row.gotos.find? (·.1 == symbol)).map (·.2)).getD lostState
  | none => lostState

/-- The state after any symbol has been read, or `lostState`. For a token only the last action
counts. -/
def next (t : Table) (state symbol : Nat) : Nat :=
  if symbol < t.tokenCount then
    match (t.actions state symbol).getLast? with
    | some (.shift s _) => s
    | some .shiftExtra => state
    | _ => lostState
  else t.goto state symbol

/-- Whether a token means anything in a state. -/
def accepts (t : Table) (state token : Nat) : Bool := !(t.actions state token).isEmpty

/-- Whether the first thing to do on a token is to finish a production. -/
def reducesFirst (t : Table) (state token : Nat) : Bool :=
  match t.actions state token with
  | .reduce _ :: _ => true
  | _ => false

end Table

/-! ## Conflicts -/

/-- The order in which simultaneous reductions are tried. -/
private def ItemKey.before (a b : ItemKey) : Bool :=
  let lhs (k : ItemKey) : Nat := match k.lhs with
    | none => 0
    | some s => s + 1
  let level (k : ItemKey) : Int := k.prec.getD 0
  let side (k : ItemKey) : Nat := match k.assoc with
    | none => 0
    | some .left => 1
    | some .right => 2
  if a.position != b.position then a.position < b.position
  else if lhs a != lhs b then lhs a < lhs b
  else if a.dynamic != b.dynamic then a.dynamic < b.dynamic
  else if level a != level b then level a < level b
  else side a < side b

/-- The reductions that survive on one token, their common precedence, and their
associativities. -/
private structure Reductions where
  actions : List Action
  keys : List ItemKey
  level : Int

/-- Of the finished items only those of the highest precedence survive. -/
private def Reductions.add (rs : Option Reductions) (k : ItemKey) : Option Reductions :=
  let action : Action := match k.lhs with
    | none => .accept
    | some s => .reduce ⟨s, k.length, k.dynamic, k.layout⟩
  let level := k.prec.getD 0
  match rs with
  | none => some ⟨[action], [k], level⟩
  | some old =>
    if old.level < level then some ⟨[action], [k], level⟩
    else if level < old.level then some old
    else some { old with actions := old.actions ++ [action], keys := old.keys ++ [k] }

/-- Decide between reductions and a shift. `shifting` are the items under way that the token
could continue. -/
private def decide (g : Normal) (rs : Reductions) (finished shifting : List ItemKey)
    (target : Nat) : List Action :=
  let shift : Action := .shift target false
  let conflicting := (finished ++ shifting).filterMap (·.lhs)
  match conflicting with
  | [] => rs.actions ++ [shift]
  | s :: rest =>
    if g.isAuxiliary s && rest.all (· == s) then rs.actions ++ [.shift target true]
    else
      let less := shifting.any fun k ↦ k.prec.getD 0 < rs.level
      let more := shifting.any fun k ↦ rs.level < k.prec.getD 0
      match less, more with
      | false, true => [shift]
      | true, false => rs.actions
      | true, true => rs.actions ++ [shift]
      | false, false =>
        let left := rs.keys.any (·.assoc == some .left)
        let right := rs.keys.any (·.assoc == some .right)
        let neither := rs.keys.any (·.assoc == none)
        if left && !right && !neither then rs.actions
        else if right && !left && !neither then [shift]
        else rs.actions ++ [shift]

/-- The row of one state. -/
private def Row.ofState (g : Normal) (its : Items) (cl : Closure) (st : State) : Row :=
  let key (i : Nat) : Option ItemKey := (its.items[i]?).map (·.key)
  let finished : Array (ItemKey × TokenSet) :=
    (st.finished.filterMap fun (i, la) ↦ (key i).map fun k ↦ (k, la)).qsort
      fun a b ↦ ItemKey.before a.1 b.1
  let underWay : Array (ItemKey × TokenSet) := st.kernel.filterMap fun (i, _) ↦
    match its.items[i]? with
    | none => none
    | some it => match it.next with
      | none => none
      | some s => if it.key.position == 0 then none else some (it.key, (cl.firsts[s]?).getD 0)
  let shifts : Array (Option Nat) := st.successors.foldl
    (fun acc (s, n) ↦ acc.setIfInBounds s (some n)) (Array.replicate g.tokenCount none)
  let reading : TokenSet := finished.foldl (fun acc f ↦ acc ||| f.2) 0
  let actions := shifts.mapIdx fun t target ↦
    if !reading.testBit t then
      match target with
      | some n => [Action.shift n false]
      | none => if t == g.extra then [.shiftExtra] else []
    else
      let here := (finished.filter fun f ↦ f.2.testBit t).toList.map (·.1)
      match here.foldl Reductions.add none, target with
      | none, _ => []
      | some rs, none => rs.actions
      | some rs, some n =>
        let shifting := (underWay.filter fun f ↦ f.2.testBit t).toList.map (·.1)
        decide g rs here shifting n
  { actions
    gotos := st.successors.filter fun (s, _) ↦ g.tokenCount ≤ s }

/-- The table of all states as they are, where the lost state skips every token but `hidden`
ones. -/
def Table.ofGrammar (g : Normal) (hidden : List Nat) (fuel : Nat) : Table :=
  let its := Items.ofGrammar g
  let cl := Closure.ofGrammar g
  let ss := States.ofGrammar g fuel
  let lost : Row :=
    { actions := (Array.range g.tokenCount).map fun t ↦
        if hidden.contains t then [] else if t == g.extra then [.shiftExtra] else [.recover]
      gotos := #[] }
  { rows := ss.states.mapIdx fun i st ↦ if i == lostState then lost else Row.ofState g its cl st
    tokenCount := g.tokenCount }

end BuiltinAtlas.Automaton
