import BuiltinAtlas.Grammar.Productions
import BuiltinAtlas.Lexer.Extent
import Std.Data.HashMap

/-!
# Scanning tokens

Which token stands at a position depends on what is expected there: a `Scanner` is asked for one
of a set of tokens. All of them are followed in parallel over the text, separators first, and the
longest spelling wins; between tokens with the same spelling the lexical precedence decides, then
the rank, then the order of the grammar.

Words are scanned as the word token and then looked up: `Scanner.keyword?` tells which token a
word spells.
-/

namespace BuiltinAtlas.Lexer

open BuiltinAtlas.Grammar

/-- A class occurrence in the spelling of a token. -/
structure Position where
  chars : CharClass
  /-- Membership of the first 128 code points, one byte each. -/
  low : ByteArray
  /-- The occurrence belongs to the separators before the token. -/
  separator : Bool
  final : Bool
  follow : List Nat

/-- Whether a unit of text fits an occurrence. -/
def Position.admits (p : Position) (code : Option Nat) : Bool :=
  match code with
  | some c => if h : c < p.low.size then p.low[c] == 1 else p.chars.admits (some c)
  | none => p.chars.admits none

/-- The spellings of one token, as a walk over class occurrences. -/
structure Walk where
  token : Nat
  precedence : Int
  rank : Nat
  positions : Array Position
  first : List Nat

/-- The spellings of a token, preceded by separators unless it is immediate. -/
def Walk.ofToken (separators : Pattern) (index : Nat) (t : Token) : Walk :=
  let before := if t.immediate then Positions.ofPattern .empty 0
    else Positions.ofPattern separators 0
  let own := Positions.ofPattern t.pattern before.chars.size
  let join := before.last.flatMap fun i ↦ own.first.map fun j ↦ (i, j)
  let follow := before.follow ++ join ++ own.follow
  let low (c : CharClass) : ByteArray :=
    ⟨(Array.range 128).map fun k ↦ if c.admits (some k) then 1 else 0⟩
  let distinct (xs : List Nat) : List Nat :=
    (xs.foldl (fun seen x ↦ if seen.contains x then seen else x :: seen) []).reverse
  { token := index
    precedence := t.precedence
    rank := t.rank
    positions := (before.chars ++ own.chars).mapIdx fun i c ↦
      { chars := c
        low := low c
        separator := i < before.chars.size
        final := own.last.contains i
        follow := distinct ((follow.filter (·.1 == i)).map (·.2)) }
    first := before.first ++ own.first }

/-- A scanner for the tokens of a grammar. `walks` is indexed by token and has nothing to walk
for the end of input and for keywords. -/
structure Scanner where
  walks : Array Walk
  keywords : Std.HashMap String Nat
  keywordTokens : List Nat

/-- The token that the word token is carved out of. -/
def wordToken : Nat := 1

/-- The spellings of a pattern that has finitely many and no choice of characters. -/
def fixedSpellings : Pattern → Option (List String)
  | .empty => some [""]
  | .one ⟨[(lo, hi)], false⟩ => if lo == hi then some [(Char.ofNat lo).toString] else none
  | .one _ => none
  | .seq p q => do
    let xs ← fixedSpellings p
    let ys ← fixedSpellings q
    some (xs.flatMap fun x ↦ ys.map (x ++ ·))
  | .alt p q => do
    let xs ← fixedSpellings p
    let ys ← fixedSpellings q
    some (xs ++ ys)
  | .many1 _ => none

/-- The words a token is limited to, if it is a keyword. -/
def keywordSpellings (t : Token) : Option (List String) := do
  let ws ← fixedSpellings t.pattern
  let isWord (w : String) : Bool :=
    !w.isEmpty && w.toList.all (fun c ↦ c.isAlphanum || c == '_') && !w.front.isDigit
  if ws.all isWord then some ws else none

/-- The scanner of a grammar. -/
def Scanner.ofGrammar (separators : Pattern) (g : Normal) : Scanner :=
  let words := g.tokens.zipIdx.toList.filterMap fun (t, i) ↦
    if i == 0 then none else (keywordSpellings t).map fun ws ↦ (i, ws)
  let keywordTokens := words.map (·.1)
  { walks := g.tokens.mapIdx fun i t ↦
      if i == 0 || keywordTokens.contains i then ⟨i, 0, 0, #[], []⟩
      else Walk.ofToken separators i t
    keywords := words.foldl (fun m (i, ws) ↦ ws.foldl (fun m w ↦ m.insert w i) m) ∅
    keywordTokens }

/-- The keyword that a word spells. -/
def Scanner.keyword? (s : Scanner) (word : String) : Option Nat := s.keywords[word]?

/-- What a scanner is asked for: tokens other than keywords, and possibly the end of input. -/
structure Expectation where
  walks : List Walk
  finish : Bool

/-- The expectation of a set of tokens; a keyword is expected as a word. -/
def Scanner.expect (s : Scanner) (tokens : List Nat) : Expectation :=
  let wanted := tokens.filter fun t ↦ t != 0 && !s.keywordTokens.contains t
  let wanted :=
    if tokens.any s.keywordTokens.contains && !wanted.contains wordToken then wordToken :: wanted
    else wanted
  ⟨wanted.filterMap fun t ↦ s.walks[t]?, tokens.contains 0⟩

/-- How far a scan has come. -/
structure Progress where
  /-- The position reached. -/
  here : Extent
  /-- Where the token begins, after the separators. -/
  start : Extent
  /-- The longest token found, and its end. -/
  found : Option (Nat × Extent)

/-- A token under way: its walk, the occurrences that may be read next, and whether its spelling
is complete. -/
structure Thread where
  walk : Walk
  next : List Nat
  complete : Bool

/-- A thread after one more unit: whether that unit was part of the separators, and the lexical
precedence of reading it. -/
structure Moved where
  thread : Thread
  separator : Bool
  level : Int

/-- Read one unit of text in a thread. -/
private def Thread.read (t : Thread) (code : Option Nat) : Option Moved :=
  let matched := t.next.filterMap fun i ↦ match t.walk.positions[i]? with
    | some p => if p.admits code then some p else none
    | none => none
  match matched with
  | [] => none
  | [p] => some ⟨⟨t.walk, p.follow, p.final⟩, p.separator,
      if p.separator then 0 else t.walk.precedence⟩
  | ps =>
    let next := (ps.foldl (fun seen p ↦ p.follow.foldl
      (fun seen i ↦ if seen.contains i then seen else i :: seen) seen) []).reverse
    let separator := ps.all (·.separator)
    let level := if separator then 0
      else if ps.any (·.separator) then max 0 t.walk.precedence else t.walk.precedence
    some ⟨⟨t.walk, next, ps.any (·.final)⟩, separator, level⟩

/-- Whether a thread could go on with a separator. -/
private def Thread.mayPause (t : Thread) : Bool :=
  t.next.any fun i ↦ ((t.walk.positions[i]?).map (·.separator)).getD false

/-- Whether reading on is worth less than the token already completed. -/
private def refuses (done : Walk) (threads : List Thread) (moved : List Moved) : Bool :=
  match moved with
  | [] => true
  | m :: ms =>
    let level := ms.foldl (fun l m ↦ max l m.level) m.level
    level < done.precedence ||
      (level == done.precedence &&
        (moved.all (·.separator) ||
          (threads.any Thread.mayPause &&
            !moved.any fun m ↦ m.thread.walk.token == done.token)))

/-- Of two tokens with the same spelling, whether the first is preferred. -/
private def Walk.preferred (a b : Walk) : Bool :=
  if a.precedence != b.precedence then b.precedence < a.precedence
  else if a.rank != b.rank then b.rank < a.rank
  else a.token < b.token

/-- The preferred completed token. -/
private def completed (threads : List Thread) : Option Walk :=
  threads.foldl (fun best t ↦
    if !t.complete then best
    else match best with
      | none => some t.walk
      | some b => if b.preferred t.walk then best else some t.walk) none

/-- Follow the threads until none is left, or going on would only lose a completed token. -/
private def scanLoop (text : ByteArray) : Nat → List Thread → Bool → Progress → Progress
  | 0, _, _, pr => pr
  | fuel + 1, threads, finish, pr =>
    let done := completed threads
    let pr := match done with
      | some w => { pr with found := some (w.token, pr.here) }
      | none => pr
    match unitAt text pr.here.bytes with
    | none => if finish then { pr with found := some (0, pr.here) } else pr
    | some u =>
      let moved := threads.filterMap fun t ↦ t.read u.code
      if moved.isEmpty then pr
      else
        let separator := moved.all (·.separator)
        let refused := match done with
          | none => false
          | some w => refuses w threads moved
        if refused then pr
        else
          let here := pr.here + u.extent
          let start := if separator then here else pr.start
          scanLoop text fuel (moved.map (·.thread)) (finish && separator) ⟨here, start, pr.found⟩

/-- Scan for one of the expected tokens from a position on. A byte order mark at the start of the
text is skipped. -/
def scan (text : ByteArray) (e : Expectation) (pos : Extent) : Progress :=
  let bom : Bool := pos.bytes == 0 && (match unitAt text 0 with
    | some u => u.code == some 0xFEFF
    | none => false)
  let pos := if bom then pos + ⟨3, 0⟩ else pos
  scanLoop text (text.size - pos.bytes + 1)
    (e.walks.map fun w ↦ ⟨w, w.first, false⟩) e.finish ⟨pos, pos, none⟩

end BuiltinAtlas.Lexer
