import BuiltinAtlas.Parser.Tree

/-!
# The parse stack

Several readings of a text are followed at once. Their stacks share their common parts: vertices
form a graph in which every vertex knows the states below it and the trees that lead there, and
each reading (`Head`) points at its top vertex. Readings that reach the same state at the same
position for the same cost are merged.

Vertices and heads are numbered. A head's number is its rank among the readings.
-/

namespace BuiltinAtlas.Parser

open BuiltinAtlas.Automaton

/-- A step down the stack. There is no tree where the parse lost its way. -/
structure Link where
  below : Nat
  tree : Option Tree

/-- A vertex of the stack: a state and the position it was reached at. The cost, the weight and
the dynamic precedence are those of the best way to it. -/
structure Vertex where
  state : Nat
  position : Extent
  links : List Link
  cost : Nat
  weight : Nat
  dynamic : Int

/-- Whether a reading goes on. -/
inductive Status where
  | active
  /-- The token is not expected; the reading may be resumed to recover. -/
  | paused (token : Tree)
  | halted

/-- A state that a reading in trouble could go back to. -/
structure Refuge where
  position : Extent
  depth : Nat
  state : Nat

/-- One reading of the text. -/
structure Head where
  vertex : Nat
  status : Status
  /-- The weight of the stack when the reading last got into trouble. -/
  weightAtError : Nat
  refuges : Option (List Refuge)

/-- The stacks of all readings. -/
structure Stack where
  vertices : Array Vertex
  heads : Array Head

/-- How many links a vertex keeps. -/
def maxLinks : Nat := 8

/-- How many ways down the stack are followed at once. -/
def maxPaths : Nat := 64

/-- The vertex at the bottom. -/
private def bottom : Vertex := ⟨initialState, .zero, [], 0, 0, 0⟩

namespace Stack

/-- The stack with one reading in the initial state. -/
def initial : Stack := ⟨#[bottom], #[⟨0, .active, 0, none⟩]⟩

/-- A vertex by number. -/
def vertex (s : Stack) (v : Nat) : Vertex := (s.vertices[v]?).getD bottom

/-- A reading by number. -/
def head (s : Stack) (h : Nat) : Head := (s.heads[h]?).getD ⟨0, .halted, 0, none⟩

/-- The number of readings. -/
def size (s : Stack) : Nat := s.heads.size

/-- The top vertex of a reading. -/
def top (s : Stack) (h : Nat) : Vertex := s.vertex (s.head h).vertex

/-- The state a reading is in. -/
def state (s : Stack) (h : Nat) : Nat := (s.top h).state

/-- The position a reading has reached. -/
def position (s : Stack) (h : Nat) : Extent := (s.top h).position

/-- Whether a reading goes on. -/
def isActive (s : Stack) (h : Nat) : Bool := match (s.head h).status with
  | .active => true
  | _ => false

/-- Whether a reading waits to be resumed. -/
def isPaused (s : Stack) (h : Nat) : Bool := match (s.head h).status with
  | .paused _ => true
  | _ => false

/-- Whether a reading has been given up. -/
def isHalted (s : Stack) (h : Nat) : Bool := match (s.head h).status with
  | .halted => true
  | _ => false

/-- Change a reading. -/
def modifyHead (s : Stack) (h : Nat) (f : Head → Head) : Stack :=
  { s with heads := s.heads.modify h f }

/-- Remove a reading; the later ones move up. -/
def remove (s : Stack) (h : Nat) : Stack := { s with heads := s.heads.eraseIdxIfInBounds h }

/-- Give a reading up. -/
def halt (s : Stack) (h : Nat) : Stack := s.modifyHead h fun x ↦ { x with status := .halted }

/-- Let a reading wait in front of a token. -/
def pause (s : Stack) (h : Nat) (token : Tree) : Stack :=
  let weight := (s.top h).weight
  s.modifyHead h fun x ↦ { x with status := .paused token, weightAtError := weight }

/-- Exchange two readings. -/
def swap (s : Stack) (i j : Nat) : Stack :=
  { s with heads := s.heads.swapIfInBounds i j }

/-- Put the reading `source` in the place of the reading `target`, which keeps its refuges if the
new one has none. -/
def replace (s : Stack) (source target : Nat) : Stack :=
  if source == target then s
  else
    let old := s.head target
    let new := s.head source
    let new := if new.refuges.isNone then { new with refuges := old.refuges } else new
    (s.modifyHead target fun _ ↦ new).remove source

/-- Add a copy of a reading, without its refuges. -/
def copy (s : Stack) (h : Nat) : Nat × Stack :=
  (s.size, { s with heads := s.heads.push { s.head h with refuges := none } })

/-- The progress of a reading since it last got into trouble. -/
def progress (s : Stack) (h : Nat) : Nat := (s.top h).weight - (s.head h).weightAtError

/-- Asking for the progress of a reading fixes its zero: the weight can have gone down. -/
def settle (s : Stack) (h : Nat) : Stack :=
  let weight := (s.top h).weight
  s.modifyHead h fun x ↦ { x with weightAtError := min x.weightAtError weight }

/-- The cost of a reading. -/
def cost (s : Stack) (h : Nat) : Nat :=
  let v := s.top h
  let lost := v.state == lostState && (match v.links.head? with
    | some l => l.tree.isNone
    | none => true)
  v.cost + (if s.isPaused h || lost then Cost.recovery else 0)

/-- Push a tree, or nothing where the parse loses its way, and enter a state. -/
def push (s : Stack) (h : Nat) (tree : Option Tree) (state : Nat) : Stack :=
  let hd := s.head h
  let below := s.vertex hd.vertex
  let number := s.vertices.size
  let v : Vertex := match tree with
    | none => { below with state, links := [⟨hd.vertex, none⟩] }
    | some t =>
      { state
        position := below.position + t.total
        links := [⟨hd.vertex, some t⟩]
        cost := below.cost + t.cost
        weight := below.weight + t.weight
        dynamic := below.dynamic + t.info.dynamic }
  { vertices := s.vertices.push v
    heads := s.heads.modify h fun x ↦
      { x with
        vertex := number
        weightAtError := if tree.isNone then v.weight else x.weightAtError } }

/-! ## Merging -/

/-- Whether two trees are interchangeable on a link. -/
private def sameLink (a b : Option Tree) : Bool :=
  match a, b with
  | none, none => true
  | some x, some y =>
    x.info.label == y.info.label &&
      ((0 < x.cost && 0 < y.cost) ||
        (x.info.padding.bytes == y.info.padding.bytes && x.info.size.bytes == y.info.size.bytes &&
          x.children.length == y.children.length && x.info.extra == y.info.extra))
  | _, _ => false

/-- The dynamic precedence of a link. -/
private def linkDynamic (l : Link) : Int := match l.tree with
  | some t => t.info.dynamic
  | none => 0

/-- The weight of a link. -/
private def linkWeight (l : Link) : Nat := match l.tree with
  | some t => t.weight
  | none => 0

/-- Whether two vertices can be joined. -/
private def joinable (a b : Vertex) : Bool :=
  a.state == b.state && a.position.bytes == b.position.bytes && a.cost == b.cost

/-- The first link of a vertex that can stand for a new one, and whether it leads to the same
vertex. -/
private def standIn (s : Stack) (links : List Link) (l : Link) : Option (Nat × Bool) :=
  let rec go : List Link → Nat → Option (Nat × Bool)
    | [], _ => none
    | x :: xs, i =>
      if sameLink x.tree l.tree then
        if x.below == l.below then some (i, true)
        else if joinable (s.vertex x.below) (s.vertex l.below) then some (i, false)
        else go xs (i + 1)
      else go xs (i + 1)
  go links 0

/-- Add a link to a vertex, joining the vertices below where that loses nothing. -/
private def addLink : Nat → Stack → Nat → Link → Stack
  | 0, s, _, _ => s
  | fuel + 1, s, v, l =>
    if l.below == v then s
    else
      let self := s.vertex v
      match standIn s self.links l with
      | some (i, true) =>
        match self.links[i]? with
        | none => s
        | some old =>
          if linkDynamic old < linkDynamic l then
            { s with vertices := s.vertices.modify v fun x ↦
                { x with
                  links := x.links.set i { old with tree := l.tree }
                  dynamic := (s.vertex l.below).dynamic + linkDynamic l } }
          else s
      | some (i, false) =>
        match self.links[i]? with
        | none => s
        | some old =>
          let s := (s.vertex l.below).links.foldl (fun s l' ↦ addLink fuel s old.below l') s
          let dynamic := (s.vertex l.below).dynamic + linkDynamic l
          { s with vertices := s.vertices.modify v fun x ↦
              { x with dynamic := max x.dynamic dynamic } }
      | none =>
        if self.links.length == maxLinks then s
        else
          let below := s.vertex l.below
          { s with vertices := s.vertices.modify v fun x ↦
              { x with
                links := x.links ++ [l]
                weight := max x.weight (below.weight + linkWeight l)
                dynamic := max x.dynamic (below.dynamic + linkDynamic l) } }

/-- Whether two readings can be merged. -/
def canMerge (s : Stack) (i j : Nat) : Bool :=
  s.isActive i && s.isActive j && joinable (s.top i) (s.top j)

/-- Merge the second reading into the first. They must fit, as `canMerge` tells. -/
def merge (s : Stack) (i j : Nat) : Stack :=
  let v := (s.head i).vertex
  let s := (s.top j).links.foldl (fun s l ↦ addLink (s.vertices.size + 1) s v l) s
  let weight := (s.vertex v).weight
  let s := if (s.vertex v).state == lostState
    then s.modifyHead i fun x ↦ { x with weightAtError := weight } else s
  s.remove j

/-! ## Popping -/

/-- A way down the stack: the vertex reached, the trees passed (lowest first), and how many of
them count. -/
structure Path where
  vertex : Nat
  trees : List Tree
  count : Nat

/-- What to do with a way down the stack. -/
structure Verdict where
  pop : Bool
  stop : Bool

/-- A result of popping: the trees popped, and the reading that remains. -/
structure Slice where
  trees : List Tree
  head : Nat

/-- Record a finished way down. Ways that end at the same vertex share a reading and stay
together. -/
private def addSlice (s : Stack) (slices : List Slice) (origin : Nat) (p : Path) :
    Stack × List Slice :=
  let hit := slices.reverse.find? fun sl ↦ (s.head sl.head).vertex == p.vertex
  match hit with
  | some sl =>
    let before := (slices.reverse.dropWhile fun x ↦ x.head != sl.head).reverse
    (s, before ++ [⟨p.trees, sl.head⟩] ++ slices.drop before.length)
  | none =>
    let new : Head := ⟨p.vertex, .active, (s.head origin).weightAtError, none⟩
    ({ s with heads := s.heads.push new }, slices ++ [⟨p.trees, s.size⟩])

/-- A way down the stack, one link further. -/
private def follow (p : Path) (l : Link) : Path :=
  match l.tree with
  | some t => ⟨l.below, t :: p.trees, if t.info.extra then p.count else p.count + 1⟩
  | none => ⟨l.below, p.trees, p.count + 1⟩

/-- One round over the ways down: `done` are the ways already advanced in this round, `new` the
branches that join in the next one. -/
private def walkRound {σ : Type} (judge : σ → Vertex → Path → σ × Verdict) (origin : Nat) :
    List Path → σ → Stack → List Slice → List Path → List Path →
    σ × Stack × List Slice × List Path
  | [], st, s, slices, done, new => (st, s, slices, done.reverse ++ new.reverse)
  | p :: ps, st, s, slices, done, new =>
    let v := s.vertex p.vertex
    let (st, verdict) := judge st v p
    let (s, slices) := if verdict.pop then addSlice s slices origin p else (s, slices)
    match verdict.stop, v.links with
    | false, l :: ls =>
      let total := 1 + ps.length + done.length + new.length
      let branches := (ls.take (maxPaths - total)).map (follow p)
      walkRound judge origin ps st s slices (follow p l :: done) (branches.reverse ++ new)
    | _, _ => walkRound judge origin ps st s slices done new

/-- Follow all ways down from a reading, round by round. -/
private def walk {σ : Type} (judge : σ → Vertex → Path → σ × Verdict) (origin : Nat) :
    Nat → List Path → σ → Stack → List Slice → σ × Stack × List Slice
  | 0, _, st, s, slices => (st, s, slices)
  | fuel + 1, paths, st, s, slices =>
    match paths with
    | [] => (st, s, slices)
    | _ =>
      let (st, s, slices, paths) := walkRound judge origin paths st s slices [] []
      walk judge origin fuel paths st s slices

/-- Follow all ways down from a reading. -/
private def walkFrom {σ : Type} (s : Stack) (h : Nat) (judge : σ → Vertex → Path → σ × Verdict)
    (st : σ) : σ × Stack × List Slice :=
  walk judge h (s.vertices.size + 2) [⟨(s.head h).vertex, [], 0⟩] st s []

/-- Pop a number of trees, extras not counted, along every way down. -/
def popCount (s : Stack) (h count : Nat) : Stack × List Slice :=
  let (_, s, slices) := walkFrom s h
    (fun () _ p ↦ ((), if p.count == count then ⟨true, true⟩ else ⟨false, false⟩)) ()
  (s, slices)

/-- Pop everything along every way down. -/
def popAll (s : Stack) (h : Nat) : Stack × List Slice :=
  let (_, s, slices) := walkFrom s h (fun () v _ ↦ ((), ⟨v.links.isEmpty, false⟩)) ()
  (s, slices)

/-- Pop the skipped text on top of a reading, if there is some. -/
def popError (s : Stack) (h : Nat) : Stack × Option (List Tree) :=
  let isError (t : Option Tree) : Bool := match t with
    | some t => t.isError
    | none => false
  if (s.top h).links.any fun l ↦ isError l.tree then
    let (_, s, slices) := walkFrom s h
      (fun found _ p ↦ match p.trees with
        | [] => (found, ⟨false, false⟩)
        | t :: _ => if !found && t.isError then (true, ⟨true, true⟩) else (found, ⟨false, true⟩))
      false
    match slices with
    | sl :: _ => (s.replace sl.head h, some sl.trees)
    | [] => (s, none)
  else (s, none)

/-- Note the states on the way down, to a depth, as refuges of a reading. -/
def recordRefuges (s : Stack) (h maxDepth : Nat) : Stack :=
  let judge (found : List Refuge) (v : Vertex) (p : Path) : List Refuge × Verdict :=
    if maxDepth < p.count then (found, ⟨false, true⟩)
    else if (found.takeWhile fun r ↦ p.count ≤ r.depth).any fun r ↦
        r.depth == p.count && r.state == v.state then (found, ⟨false, false⟩)
    else (⟨v.position, p.count, v.state⟩ :: found, ⟨false, false⟩)
  let (found, _, _) := walkFrom s h judge []
  s.modifyHead h fun x ↦ { x with refuges := some found.reverse }

end Stack

end BuiltinAtlas.Parser
