import BuiltinAtlas.Parser.Stack
import BuiltinAtlas.Lexer.Scanner

/-!
# Readings of a text

The moves of a parse: reading a token, finishing a production, accepting the text, and comparing
readings. All moves work on a `Run`, the stacks of all readings together with the best complete
tree so far.
-/

namespace BuiltinAtlas.Parser

open BuiltinAtlas.Grammar BuiltinAtlas.Automaton BuiltinAtlas.Lexer

/-- A parser: a grammar with its table and its scanner. -/
structure Machine where
  grammar : Normal
  table : Table
  scanner : Scanner

/-- A parse under way. -/
structure Run where
  stack : Stack
  finished : Option Tree
  accepts : Nat

/-- How many readings are kept. -/
def maxReadings : Nat := 6

/-- How many more there may be for a moment. -/
def maxOverflow : Nat := 4

/-- The cost difference at which a reading is dropped at once. -/
def maxCostDifference : Nat := 18 * Cost.skippedNode

/-- Whether a symbol makes a node of its own. -/
def Machine.shows (m : Machine) (symbol : Nat) : Bool :=
  (m.grammar.appearance symbol).visibility != .hidden

/-! ## Tokens -/

/-- The token at a position of a text for a state. -/
structure Lexeme where
  label : Label
  padding : Extent
  size : Extent
  keyword : Bool

/-- The tokens a state expects. -/
def Machine.expectation (m : Machine) (state : Nat) : Expectation :=
  m.scanner.expect ((List.range m.grammar.tokenCount).filter (m.table.accepts state))

/-- Skip to where the expected tokens of the lost state can be scanned again, one unit at a time.
`first` and `last` delimit what has been skipped. -/
private def skipUnits (text : ByteArray) (lost : Expectation) :
    Nat → Extent → Option (Extent × Extent) → Extent × Extent
  | 0, here, skipped => skipped.getD (here, here)
  | fuel + 1, here, skipped =>
    let p := scan text lost here
    match p.found with
    | some _ => skipped.getD (here, here)
    | none =>
      let (first, last) := skipped.getD (p.start, p.start)
      if p.here.bytes == last.bytes then
        match unitAt text p.here.bytes with
        | none => (first, last)
        | some u =>
          let next := p.here + u.extent
          skipUnits text lost fuel next (some (first, next))
      else skipUnits text lost fuel p.here (some (first, p.here))

/-- The bytes of a stretch of text as a word. -/
private def wordOf (text : ByteArray) (start stop : Nat) : String :=
  (String.fromUTF8? (text.extract start stop)).getD ""

/-- The next token of a text. A token that the state does not expect is scanned as in the lost
state; text that fits no token at all is one erroneous token. -/
def Machine.lex (m : Machine) (text : ByteArray) (state : Nat) (pos : Extent) : Lexeme :=
  let lost := m.expectation lostState
  let p := scan text (m.expectation state) pos
  let p := match p.found with
    | some _ => p
    | none => if state == lostState then p else scan text lost pos
  match p.found with
  | none =>
    let (first, last) := skipUnits text lost (text.size - pos.bytes + 2) pos none
    ⟨.error, first - pos, last - first, false⟩
  | some (symbol, stop) =>
    let padding := p.start - pos
    let size := stop - p.start
    if symbol == wordToken then
      match m.scanner.keyword? (wordOf text p.start.bytes stop.bytes) with
      | some k =>
        ⟨.symbol (if m.table.accepts state k then k else symbol), padding, size, true⟩
      | none => ⟨.symbol symbol, padding, size, false⟩
    else ⟨.symbol symbol, padding, size, false⟩

/-- The tree of a token. The end of input counts as an extra. -/
def Machine.leaf (m : Machine) (l : Lexeme) : Tree :=
  match l.label with
  | .symbol s => .leaf l.label (m.shows s) l.padding l.size (s == 0) l.keyword
  | _ => .leaf l.label true l.padding l.size false false

/-- The symbol of a tree, if it has one. -/
def Tree.symbol? (t : Tree) : Option Nat := match t.info.label with
  | .symbol s => some s
  | _ => none

/-- What to do in a state on the token of a tree. Skipped text is never expected. -/
def Machine.actionsOn (m : Machine) (state : Nat) (token : Tree) : List Action :=
  match token.symbol? with
  | some s => m.table.actions state s
  | none => if state == lostState then [.recover] else []

/-! ## Comparing readings -/

/-- The standing of a reading. -/
structure Standing where
  cost : Nat
  progress : Nat
  dynamic : Int
  inTrouble : Bool

/-- The verdict on two readings. -/
inductive Preference where
  | takeLeft | preferLeft | neither | preferRight | takeRight
  deriving BEq, DecidableEq

/-- Compare two standings. A reading in trouble never drops one that is not; a large difference in
cost, weighed by the progress of the cheaper one, decides at once. -/
def Standing.compare (a b : Standing) : Preference :=
  if !a.inTrouble && b.inTrouble then
    if a.cost < b.cost then .takeLeft else .preferLeft
  else if a.inTrouble && !b.inTrouble then
    if b.cost < a.cost then .takeRight else .preferRight
  else if a.cost < b.cost then
    if maxCostDifference < (b.cost - a.cost) * (1 + a.progress) then .takeLeft else .preferLeft
  else if b.cost < a.cost then
    if maxCostDifference < (a.cost - b.cost) * (1 + b.progress) then .takeRight else .preferRight
  else if b.dynamic < a.dynamic then .preferLeft
  else if a.dynamic < b.dynamic then .preferRight
  else .neither

namespace Run

/-- Change the stacks. -/
def withStack (r : Run) (f : Stack → Stack) : Run := { r with stack := f r.stack }

/-- The standing of a reading. -/
def standing (r : Run) (h : Nat) : Standing × Run :=
  let s := r.stack
  let paused := s.isPaused h
  ({ cost := s.cost h + (if paused then Cost.skippedNode else 0)
     progress := s.progress h
     dynamic := (s.top h).dynamic
     inTrouble := paused || s.state h == lostState },
   r.withStack (·.settle h))

/-- Whether some other reading, or the tree already finished, beats a reading of a given cost. -/
def betterExists (r : Run) (h : Nat) (inTrouble : Bool) (cost : Nat) : Bool × Run :=
  let beaten : Bool := match r.finished with
    | some t => t.cost ≤ cost
    | none => false
  if beaten then (true, r)
  else
    let position := (r.stack.position h).bytes
    let own : Standing :=
      ⟨cost, r.stack.progress h, (r.stack.top h).dynamic, inTrouble⟩
    let r := r.withStack (·.settle h)
    let rec go : Nat → Run → Bool × Run
      | 0, r => (false, r)
      | fuel + 1, r =>
        let i := r.stack.size - (fuel + 1)
        if i == h || !r.stack.isActive i || (r.stack.position i).bytes < position then go fuel r
        else
          let (other, r) := r.standing i
          match own.compare other with
          | .takeRight => (true, r)
          | .preferRight => if r.stack.canMerge i h then (true, r) else go fuel r
          | _ => go fuel r
    go r.stack.size r

/-! ## Finishing productions -/

/-- The first of the readings before a given one that it can be merged into, `skip` excepted. -/
private def mergeTarget? (r : Run) (h skip : Nat) : Option Nat :=
  (List.range h).find? fun j ↦ j != skip && r.stack.canMerge j h

/-- Whether the children of another way down make a better node than the one at hand. -/
private def prefersChildren (m : Machine) (red : Reduction) (node : Tree) (children : List Tree) :
    Bool :=
  Tree.prefersSecond node
    (.branch (.symbol red.symbol) (m.shows red.symbol) ⟨[], []⟩ children)

/-- The node of a production over popped trees, and the extras behind it. -/
private def build (m : Machine) (red : Reduction) (trees : List Tree) : Tree × List Tree :=
  let (children, extras) := Tree.splitExtras trees
  (.branch (.symbol red.symbol) (m.shows red.symbol) red.layout children, extras)

/-- Handle the popped slices of a reduction in turn. Slices that share a reading compete for its
node. `removed` readings have disappeared since the pop. -/
private def reduceSlices (m : Machine) (h : Nat) (red : Reduction) :
    List Stack.Slice → Nat → Nat → Run → Run
  | [], _, _, r => r
  | sl :: rest, removed, halted, r =>
    let version := sl.head - removed
    let rivals := rest.takeWhile (·.head == sl.head)
    let others := rest.drop rivals.length
    have : (rest.drop rivals.length).length < (sl :: rest).length := by
      simp only [List.length_drop, List.length_cons]
      omega
    if maxReadings + maxOverflow + halted < version then
      reduceSlices m h red others (removed + 1) halted (r.withStack (·.remove version))
    else
      let (node, extras) := rivals.foldl (fun (node, extras) rival ↦
        let (children, _) := Tree.splitExtras rival.trees
        if prefersChildren m red node children then build m red rival.trees
        else (node, extras)) (build m red sl.trees)
      let node := node.withInfo fun i ↦ { i with dynamic := i.dynamic + red.dynamic }
      let target := m.table.goto (r.stack.state version) red.symbol
      let r := r.withStack fun s ↦
        extras.foldl (fun s t ↦ s.push version (some t) target)
          (s.push version (some node) target)
      match mergeTarget? r version h with
      | some j =>
        reduceSlices m h red others (removed + 1) halted (r.withStack (·.merge j version))
      | none => reduceSlices m h red others removed halted r
termination_by slices => slices.length

/-- Finish a production in a reading. The result is the first new reading, if there is one. -/
def reduce (r : Run) (m : Machine) (h : Nat) (red : Reduction) : Option Nat × Run :=
  let before := r.stack.size
  let (s, slices) := r.stack.popCount h red.count
  let halted := ((List.range s.size).filter s.isHalted).length
  let r := reduceSlices m h red slices 0 halted { r with stack := s }
  (if before < r.stack.size then some before else none, r)

/-! ## Accepting -/

/-- The root over popped trees: the children of the last tree that is no extra take its place. -/
private def rootOf (m : Machine) (trees : List Tree) : Option Tree :=
  let after := (trees.reverse.takeWhile (·.info.extra)).reverse
  match trees.reverse.dropWhile (·.info.extra) with
  | [] => none
  | t :: before =>
    let visible := match t.info.label with
      | .symbol s => m.shows s
      | _ => true
    some (.branch t.info.label visible t.info.layout (before.reverse ++ t.children ++ after))

/-- Take the whole text as read by a reading. -/
def accept (r : Run) (m : Machine) (h : Nat) (token : Tree) : Run :=
  let s := r.stack.push h (some token) initialState
  let (s, slices) := s.popAll h
  let r := slices.foldl (fun (r : Run) sl ↦ match rootOf m sl.trees with
    | none => r
    | some root =>
      let finished := match r.finished with
        | none => root
        | some t => if t.prefersSecond root then root else t
      { r with finished := some finished, accepts := r.accepts + 1 }) { r with stack := s }
  r.withStack fun s ↦ match slices with
    | sl :: _ => (s.remove sl.head).halt h
    | [] => s.halt h

end Run

end BuiltinAtlas.Parser
