import BuiltinAtlas.Parser.Recovery

/-!
# Parsing a text

The readings take turns: each reads one token or more, then they are compared, merged and thinned
out. The parse ends when the finished tree costs less than any reading still under way.
-/

namespace BuiltinAtlas.Parser

open BuiltinAtlas.Grammar BuiltinAtlas.Automaton BuiltinAtlas.Lexer

namespace Run

/-- Follow the actions on a token in turn. The results tell whether the turn is over, and whether
a production was finished, with the first new reading of the last such one. -/
private def act (m : Machine) (h : Nat) (token : Tree) :
    List Action → Bool → Option Nat → Run → Bool × Bool × Option Nat × Run
  | [], reduced, last, r => (false, reduced, last, r)
  | a :: as, reduced, last, r =>
    match a with
    | .shift _ true => act m h token as reduced last r
    | .shift state false =>
      let token := token.withInfo fun i ↦ { i with extra := false }
      (true, reduced, last, r.withStack fun s ↦ s.push h (some token) state)
    | .shiftExtra =>
      let token := token.withInfo fun i ↦ { i with extra := true }
      (true, reduced, last, r.withStack fun s ↦ s.push h (some token) (s.state h))
    | .reduce red =>
      let (v, r) := r.reduce m h red
      act m h token as true (v <|> last) r
    | .accept => (true, reduced, last, r.accept m h token)
    | .recover => (true, reduced, last, r.recover m h token)

/-- Deal with one token in a reading, finishing productions until it is read or refused. -/
private def advanceOn (m : Machine) (h : Nat) : Nat → Tree → List Action → Run → Run
  | 0, _, _, r => r.withStack (·.halt h)
  | fuel + 1, token, actions, r =>
    let (done, reduced, last, r) := act m h token actions false none r
    if done then r
    else match last with
      | some v =>
        let r := r.withStack (·.replace v h)
        advanceOn m h fuel token (m.actionsOn (r.stack.state h) token) r
      | none =>
        if reduced then r.withStack (·.halt h)
        else
          let state := r.stack.state h
          let asWord := m.table.actions state wordToken
          if token.info.keyword && token.symbol? != some wordToken && !asWord.isEmpty then
            let token := token.withInfo fun i ↦
              { i with label := .symbol wordToken, visible := m.shows wordToken }
            advanceOn m h fuel token asWord r
          else if state == lostState then r.recover m h token
          else r.withStack fun s ↦ s.pause h token

/-- Let a reading deal with its next token. -/
def advance (r : Run) (m : Machine) (text : ByteArray) (h : Nat) : Run :=
  let state := r.stack.state h
  let token := m.leaf (m.lex text state (r.stack.position h))
  advanceOn m h (r.stack.vertices.size + 1024) token (m.actionsOn state token) r

/-- Let a reading go on until it has passed the leading position. -/
private def advanceWhile (m : Machine) (text : ByteArray) (h : Nat) :
    Nat → Nat → Run → Nat × Run
  | 0, lead, r => (lead, r)
  | fuel + 1, lead, r =>
    if !r.stack.isActive h then (lead, r)
    else
      let r := r.advance m text h
      let position := (r.stack.position h).bytes
      if lead < position || (0 < h && position == lead) then (position, r)
      else advanceWhile m text h fuel lead r

/-- Let every reading go on, including those that arise on the way. -/
private def advanceAll (m : Machine) (text : ByteArray) (limit : Nat) :
    Nat → Nat → Nat → Run → Nat × Run
  | 0, _, lead, r => (lead, r)
  | fuel + 1, h, lead, r =>
    if r.stack.size ≤ h then (lead, r)
    else
      let (lead, r) := advanceWhile m text h limit lead r
      advanceAll m text limit fuel (h + 1) lead r

/-! ## Thinning out -/

/-- Compare reading `i`, of a given standing, with those before it from `j` on. -/
private def compareFrom (standing : Standing) : Nat → Nat → Nat → Run → Nat × Run
  | 0, i, _, r => (i + 1, r)
  | fuel + 1, i, j, r =>
    if i ≤ j then (i + 1, r)
    else
      let (other, r) := r.standing j
      match other.compare standing with
      | .takeLeft => (i, r.withStack (·.remove i))
      | .preferLeft | .neither =>
        if r.stack.canMerge j i then (i, r.withStack (·.merge j i))
        else compareFrom standing fuel i (j + 1) r
      | .preferRight =>
        if r.stack.canMerge j i then (i, r.withStack (·.merge j i))
        else compareFrom standing fuel i (j + 1) (r.withStack (·.swap i j))
      | .takeRight => compareFrom standing fuel (i - 1) j (r.withStack (·.remove j))

/-- Remove given-up readings, merge and order the others. The result is the least cost of a
reading that is not in trouble. -/
private def compareAll : Nat → Nat → Option Nat → Run → Option Nat × Run
  | 0, _, least, r => (least, r)
  | fuel + 1, i, least, r =>
    if r.stack.size ≤ i then (least, r)
    else if r.stack.isHalted i then compareAll fuel i least (r.withStack (·.remove i))
    else
      let (standing, r) := r.standing i
      let least := if standing.inTrouble then least else match least with
        | none => some standing.cost
        | some c => some (min c standing.cost)
      let (next, r) := compareFrom standing (i + 1) i 0 r
      compareAll fuel next least r

/-- Resume the first waiting reading if nothing better goes on, and drop the others. -/
private def resume (m : Machine) : Nat → Nat → Nat → Bool → Option Nat → Run → Option Nat × Run
  | 0, _, _, _, least, r => (least, r)
  | fuel + 1, i, count, going, least, r =>
    if count ≤ i then (least, r)
    else match (r.stack.head i).status with
      | .paused token =>
        if !going && r.accepts < maxReadings then
          let least := some (r.stack.cost i)
          let r := r.withStack fun s ↦ s.modifyHead i fun x ↦ { x with status := .active }
          resume m fuel (i + 1) count true least (r.handleError m i token)
        else resume m fuel i (count - 1) going least (r.withStack (·.remove i))
      | _ => resume m fuel (i + 1) count true least r

/-- Thin the readings out. The result is the least cost of what goes on. -/
def condense (r : Run) (m : Machine) : Option Nat × Run :=
  let (least, r) := compareAll (2 * r.stack.size + 1) 0 none r
  let r := r.withStack fun s ↦ { s with heads := s.heads.extract 0 maxReadings }
  resume m (2 * r.stack.size + 1) 0 r.stack.size false least r

/-- Take turns until the finished tree is cheaper than anything under way. -/
private def loop (m : Machine) (text : ByteArray) (limit : Nat) : Nat → Nat → Run → Option Tree
  | 0, _, _ => none
  | fuel + 1, lead, r =>
    let (lead, r) := advanceAll m text limit 4096 0 lead r
    let (least, r) := r.condense m
    match r.finished, least with
    | some t, none => some t
    | some t, some c => if t.cost < c then some t else loop m text limit fuel lead r
    | none, _ => loop m text limit fuel lead r

end Run

/-- The best tree of a text. There is none only if the parse does not end within a number of
turns far beyond what the length of the text can require. -/
def Machine.parse? (m : Machine) (text : ByteArray) : Option Tree :=
  let limit := 16 * (text.size + 16)
  Run.loop m text limit limit 0 ⟨.initial, none, 0⟩

/-- The machine of a grammar. -/
def Machine.ofDescription (d : Description) (hidden : List String) (states : Nat) : Machine :=
  let g := d.normal
  let isHidden (t : Nat) : Bool := hidden.contains (g.appearance t).name
  { grammar := g
    table := .ofGrammar g ((List.range g.tokenCount).filter isHidden) states
    scanner := .ofGrammar d.separators g }

end BuiltinAtlas.Parser
