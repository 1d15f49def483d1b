/-!
# Lexical patterns

A `Pattern` describes the spellings of one kind of token: regular expressions over character
classes. `Positions` numbers the class occurrences of a pattern and records which occurrences
can begin a spelling, follow one another, and end one, so that a scanner can walk a pattern
without building an automaton first.
-/

namespace BuiltinAtlas.Grammar

/-- A set of characters: sorted disjoint inclusive ranges of code points, possibly complemented.
A complemented class also admits undecodable bytes, but never the null character. -/
structure CharClass where
  ranges : List (Nat × Nat)
  complement : Bool
  deriving BEq, Hashable

namespace CharClass

/-- The class of the characters of a string. -/
def ofString (s : String) : CharClass := ⟨s.toList.map fun c ↦ (c.toNat, c.toNat), false⟩

/-- The class of the characters between two given ones. -/
def range (lo hi : Char) : CharClass := ⟨[(lo.toNat, hi.toNat)], false⟩

/-- The union of two classes that are not complements. -/
def union (a b : CharClass) : CharClass := ⟨a.ranges ++ b.ranges, false⟩

/-- Every character outside a class. -/
def except (a : CharClass) : CharClass := ⟨a.ranges, true⟩

/-- Whether a scanned unit belongs to a class; `none` is an undecodable byte. -/
def admits (c : CharClass) : Option Nat → Bool
  | none => c.complement
  | some code =>
    let listed := c.ranges.any fun r ↦ r.1 ≤ code && code ≤ r.2
    if c.complement then code != 0 && !listed else listed

end CharClass

/-- A regular expression over character classes. -/
inductive Pattern where
  | empty
  | one (chars : CharClass)
  | seq (first second : Pattern)
  | alt (left right : Pattern)
  | many1 (body : Pattern)
  deriving BEq, Hashable

namespace Pattern

/-- The concatenation of several patterns. -/
def concat (ps : List Pattern) : Pattern := ps.foldr .seq .empty

/-- A choice between several patterns. -/
def oneOf : List Pattern → Pattern
  | [] => .empty
  | [p] => p
  | p :: ps => .alt p (oneOf ps)

/-- A pattern or nothing. -/
def optional (p : Pattern) : Pattern := .alt p .empty

/-- Any number of repetitions. -/
def many (p : Pattern) : Pattern := .alt (.many1 p) .empty

/-- One to `n` repetitions. -/
def upTo (p : Pattern) : Nat → Pattern
  | 0 => .empty
  | n + 1 => .alt (.seq p (upTo p n)) .empty

/-- Exactly `n` repetitions. -/
def times (p : Pattern) : Nat → Pattern
  | 0 => .empty
  | n + 1 => .seq p (times p n)

/-- A fixed text. -/
def text (s : String) : Pattern := concat (s.toList.map fun c ↦ .one (.ofString c.toString))

/-- One of several characters. -/
def anyOf (s : String) : Pattern := .one (.ofString s)

/-- Any character but some. -/
def noneOf (s : String) : Pattern := .one (CharClass.ofString s).except

end Pattern

/-- The class occurrences of a pattern, seen as a walk: `first` can begin a spelling, `last` can
end one, `follow` lists the ordered pairs that can stand next to each other. -/
structure Positions where
  chars : Array CharClass
  nullable : Bool
  first : List Nat
  last : List Nat
  follow : List (Nat × Nat)

namespace Positions

/-- Number the occurrences of a pattern from `base` on. -/
def ofPattern : Pattern → Nat → Positions
  | .empty, _ => ⟨#[], true, [], [], []⟩
  | .one c, base => ⟨#[c], false, [base], [base], []⟩
  | .seq p q, base =>
    let a := ofPattern p base
    let b := ofPattern q (base + a.chars.size)
    { chars := a.chars ++ b.chars
      nullable := a.nullable && b.nullable
      first := if a.nullable then a.first ++ b.first else a.first
      last := if b.nullable then a.last ++ b.last else b.last
      follow := a.follow ++ b.follow ++ a.last.flatMap fun i ↦ b.first.map fun j ↦ (i, j) }
  | .alt p q, base =>
    let a := ofPattern p base
    let b := ofPattern q (base + a.chars.size)
    { chars := a.chars ++ b.chars
      nullable := a.nullable || b.nullable
      first := a.first ++ b.first
      last := a.last ++ b.last
      follow := a.follow ++ b.follow }
  | .many1 p, base =>
    let a := ofPattern p base
    { a with follow := a.follow ++ a.last.flatMap fun i ↦ a.first.map fun j ↦ (i, j) }

end Positions

end BuiltinAtlas.Grammar
