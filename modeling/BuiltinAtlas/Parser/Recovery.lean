import BuiltinAtlas.Parser.Reading

/-!
# Recovering from unexpected tokens

A reading that meets a token it does not expect can insert a missing token, go back to an earlier
state in which the token makes sense (what lies in between becomes skipped text), or skip the
token. Each way is paid for, and ways that cost more than a reading already has are not tried.
-/

namespace BuiltinAtlas.Parser

open BuiltinAtlas.Grammar BuiltinAtlas.Automaton BuiltinAtlas.Lexer

/-- How deep in the stack a reading looks for a state to go back to. -/
def maxRefugeDepth : Nat := 16

namespace Run

/-- The different reductions among the actions of a state on some tokens, empty productions left
out, and whether the state can read one of the tokens. -/
private def possibleMoves (m : Machine) (state : Nat) (tokens : List Nat) :
    List Reduction × Bool :=
  let actions := tokens.flatMap (m.table.actions state)
  let canRead := actions.any fun a ↦ match a with
    | .shift _ repetition => !repetition
    | .recover => true
    | _ => false
  let reductions := actions.foldl (fun (found : List Reduction) a ↦ match a with
    | .reduce red =>
      if red.count == 0 || found.any fun x ↦ x.symbol == red.symbol && x.count == red.count
      then found else found ++ [red]
    | _ => found) []
  (reductions, canRead)

/-- Finish everything that can be finished in a reading and in the readings that arise from it,
on one token or on any. The result tells whether one of them can read a token afterwards.
`round` counts the readings handled, `h` is the next one. -/
private def reduceAllLoop (m : Machine) (origin before : Nat) (token : Option Nat) :
    Nat → Nat → Nat → Bool → Run → Bool × Run
  | 0, _, _, can, r => (can, r)
  | fuel + 1, round, h, can, r =>
    if r.stack.size ≤ h then (can, r)
    else
      match (List.range h).find? fun j ↦ before ≤ j && r.stack.canMerge j h with
      | some j =>
        reduceAllLoop m origin before token fuel (round + 1) h can (r.withStack (·.merge j h))
      | none =>
        let count := r.stack.size
        let tokens := match token with
          | some t => [t]
          | none => (List.range m.grammar.tokenCount).drop 1
        let (reductions, canRead) := possibleMoves m (r.stack.state h) tokens
        let (last, r) := reductions.foldl
          (fun ((_, r) : Option Nat × Run) red ↦ r.reduce m h red) (none, r)
        let again (r : Run) (can : Bool) :=
          reduceAllLoop m origin before token fuel (round + 1)
            (if h == origin then count else h + 1) can r
        if canRead then again r true
        else match last with
          | some v =>
            if round < maxReadings then
              reduceAllLoop m origin before token fuel (round + 1) h can
                (r.withStack (·.replace v h))
            else if token.isSome then again (r.withStack (·.remove h)) can
            else again r can
          | none =>
            if token.isSome then again (r.withStack (·.remove h)) can else again r can

/-- Finish everything that can be finished in a reading on a token. The end of input, like no
token at all, stands for every token. -/
def reduceAll (r : Run) (m : Machine) (h : Nat) (token : Option Nat) : Bool × Run :=
  reduceAllLoop m h r.stack.size (token.filter (· != 0)) 4096 0 h false r

/-! ## Going back -/

/-- Wrap popped trees as skipped text and enter the state they are skipped in. -/
private def enterRefuge (s : Stack) (h state : Nat) (trees : List Tree) : Stack :=
  let (s, skipped) := s.popError h
  let trees := match skipped with
    | some (t :: _) => t.children ++ trees
    | _ => trees
  let (body, extras) := Tree.splitExtras trees
  let s := if body.isEmpty then s else s.push h (some (.skippedText true body)) state
  extras.foldl (fun s t ↦ s.push h (some t) state) s

/-- Go back to a state at a depth of the stack, along every way down that leads there. -/
private def goBack (r : Run) (h depth state : Nat) : Bool × Run :=
  let (s, slices) := r.stack.popCount h depth
  let (s, last) := slices.foldl (fun ((s, last) : Stack × Option Nat) sl ↦
    if last == some sl.head then (s, last)
    else if s.state sl.head != state then (s.halt sl.head, last)
    else (enterRefuge s sl.head state sl.trees, some sl.head)) (s, none)
  (last.isSome, { r with stack := s })

/-- Try the refuges of a reading in turn. -/
private def tryRefuges (m : Machine) (h : Nat) (symbol count : Nat) (position : Extent)
    (progress cost : Nat) : List Refuge → Run → Bool × Run
  | [], r => (false, r)
  | e :: es, r =>
    let skip := e.state == lostState || e.position.bytes == position.bytes ||
      (List.range count).any fun j ↦
        r.stack.state j == e.state && (r.stack.position j).bytes == position.bytes
    if skip then tryRefuges m h symbol count position progress cost es r
    else
      let price := cost + e.depth * Cost.skippedNode + Cost.ofExtent (position - e.position)
      let (worse, r) := r.betterExists h false price
      if worse then (false, r)
      else if m.table.accepts e.state symbol then
        let (done, r) := r.goBack h (if 0 < progress then e.depth + 1 else e.depth) e.state
        if done then (true, r)
        else tryRefuges m h symbol count position progress cost es r
      else tryRefuges m h symbol count position progress cost es r

/-- Remove the readings from a number on that have been given up. -/
private def dropInactive (r : Run) (start : Nat) : Run :=
  r.withStack fun s ↦
    { s with heads := s.heads.extract 0 start ++
        (s.heads.extract start s.heads.size).filter fun x ↦ match x.status with
          | .active => true
          | _ => false }

/-! ## Skipping -/

/-- Put a token on top of the text skipped so far. -/
private def skipToken (m : Machine) (r : Run) (h : Nat) (progress : Nat) (token : Tree) : Run :=
  let extra := match (m.actionsOn initialState token).getLast? with
    | some .shiftExtra => true
    | _ => false
  let token := if extra then token.withInfo fun i ↦ { i with extra := true } else token
  let chain := Tree.skippingChain [token]
  if 0 < progress then
    let (s, slices) := r.stack.popCount h 1
    match slices with
    | [] => { r with stack := s.push h (some chain) lostState }
    | sl :: _ =>
      let s := { s with heads := s.heads.extract 0 (sl.head + 1) }
      let s := s.replace sl.head h
      { r with stack := s.push h (some (.skippingChain (sl.trees ++ [chain]))) lostState }
  else r.withStack fun s ↦ s.push h (some chain) lostState

/-- Deal with a token in the lost state: go back to a state that expects it, and skip it. -/
def recover (r : Run) (m : Machine) (h : Nat) (token : Tree) : Run :=
  let count := r.stack.size
  let position := r.stack.position h
  let progress := r.stack.progress h
  let cost := r.stack.cost h
  let r := r.withStack (·.settle h)
  let (recovered, r) := match (r.stack.head h).refuges, token.symbol? with
    | some es, some symbol => tryRefuges m h symbol count position progress cost es r
    | _, _ => (false, r)
  let r := r.dropInactive count
  if token.symbol? == some 0 then
    let r := r.withStack fun s ↦ s.push h (some (.skippedText false [])) initialState
    r.accept m h token
  else if recovered && maxReadings < r.stack.size then r.withStack (·.halt h)
  else
    let price := cost + Cost.skippedNode + Cost.ofExtent token.total
    let (worse, r) := r.betterExists h false price
    if worse then r.withStack (·.halt h)
    else skipToken m r h progress token

/-! ## Inserting -/

/-- Try to insert one of the tokens, in order, so that the reading can then finish a production
on the unexpected token. -/
private def tryInsert (m : Machine) (h symbol : Nat) : List Nat → Run → Bool × Run
  | [], r => (false, r)
  | t :: ts, r =>
    let state := r.stack.state h
    let after := m.table.next state t
    if after == lostState || after == state || !m.table.reducesFirst after symbol then
      tryInsert m h symbol ts r
    else
      let (v, s) := r.stack.copy h
      let s := s.push v (some (.inserted t (m.shows t))) after
      let (done, r) := reduceAll { r with stack := s } m v (some symbol)
      if done then (true, r) else tryInsert m h symbol ts r

/-- Insert tokens and lose the way in a reading and the readings that its reductions made. -/
private def loseWay (m : Machine) (origin before count : Nat) (symbol : Option Nat) :
    Nat → Nat → Bool → Run → Run
  | 0, _, _, r => r
  | fuel + 1, h, inserted, r =>
    if count ≤ h then r
    else
      let (inserted, r) := match inserted, symbol with
        | false, some t =>
          tryInsert m h t ((List.range m.grammar.tokenCount).drop 1) r
        | _, _ => (inserted, r)
      let r := r.withStack fun s ↦ s.push h none lostState
      loseWay m origin before count symbol fuel (if h == origin then before else h + 1) inserted r

/-- Begin to recover in a reading that met an unexpected token. -/
def handleError (r : Run) (m : Machine) (h : Nat) (token : Tree) : Run :=
  let before := r.stack.size
  let (_, r) := r.reduceAll m h none
  let count := r.stack.size
  let r := loseWay m h before count token.symbol? (count + 1) h false r
  let r := (List.range (count - before)).foldl (fun (r : Run) _ ↦
    if r.stack.canMerge h before then r.withStack (·.merge h before) else r) r
  (r.withStack fun s ↦ s.recordRefuges h maxRefugeDepth).recover m h token

end Run

end BuiltinAtlas.Parser
