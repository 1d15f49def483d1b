import BuiltinAtlas.Grammar.Rule

/-!
# Productions

The normal form of a grammar: numbered symbols and productions that are plain sequences of steps.
Symbol 0 is the end of input and symbol 1 the word token; the other tokens follow in the order in
which the rules mention them, then the defined symbols in order, then one auxiliary symbol for
each distinct repeated body. An auxiliary symbol derives a balanced chain of its body, so that
`x+` becomes `X → X X | x`.
-/

namespace BuiltinAtlas.Grammar

/-- One symbol on the right-hand side of a production, with its annotations. -/
structure Step where
  symbol : Nat
  prec : Option Int
  assoc : Option Assoc
  shownAs : Option Alias
  field : Option Field
  deriving BEq, Hashable

/-- A right-hand side: its steps and its dynamic precedence. -/
structure Expansion where
  steps : List Step
  dynamic : Int
  deriving BEq, Hashable

/-- How a symbol is shown in trees. -/
structure Appearance where
  name : String
  visibility : Visibility
  deriving BEq

/-- A grammar in normal form. `rules` holds, for each symbol beyond the tokens, its right-hand
sides; the first of these symbols is the start symbol. -/
structure Normal where
  tokens : Array Token
  appearances : Array Appearance
  rules : Array (Array Expansion)
  /-- The symbols from this one on are auxiliary. -/
  firstAuxiliary : Nat
  supertypes : List Nat
  extra : Nat
  aliased : List Nat

namespace Normal

/-- The number of tokens, which is also the number of the first defined symbol. -/
def tokenCount (g : Normal) : Nat := g.tokens.size

/-- The number of symbols. -/
def symbolCount (g : Normal) : Nat := g.tokens.size + g.rules.size

/-- How a symbol is shown in trees. -/
def appearance (g : Normal) (symbol : Nat) : Appearance :=
  (g.appearances[symbol]?).getD ⟨"", .hidden⟩

/-- Whether a symbol stands for a repetition. -/
def isAuxiliary (g : Normal) (symbol : Nat) : Bool := g.firstAuxiliary ≤ symbol

end Normal

/-! ## Collecting the tokens -/

/-- The tokens a rule mentions, from left to right. -/
def Rule.tokens : Rule → List Token
  | .blank | .symbol _ => []
  | .token t => [t]
  | .seq a b | .choice a b => a.tokens ++ b.tokens
  | .repeat1 b | .field _ b | .shownAs _ b | .prec _ _ b | .dynamic _ b => b.tokens

/-- The distinct elements of a list, in order of first appearance. -/
private def distinct {α : Type} [BEq α] (xs : List α) : List α :=
  (xs.foldl (fun seen x ↦ if seen.contains x then seen else x :: seen) []).reverse

/-- The token a definition consists of, when nothing else mentions that token. -/
private def soleToken (mentions : List Token) (d : Definition) : Option Token :=
  match d.rule with
  | .token t => if mentions.count t == 1 then some t else none
  | _ => none

/-! ## Expanding the rules -/

/-- Where the symbols of a description are found by name and token. -/
private structure Index where
  tokens : List Token
  names : List (String × Nat)

/-- The annotations in force at a point of a rule. -/
private structure Context where
  prec : Option Int
  assoc : Option Assoc
  shownAs : Option Alias
  field : Option Field

/-- No annotations. -/
private def Context.top : Context := ⟨none, none, none, none⟩

/-- A step with the annotations in force. -/
private def Context.step (c : Context) (symbol : Nat) : Step :=
  ⟨symbol, c.prec, c.assoc, c.shownAs, c.field⟩

/-- The repeated bodies met so far and the expansions of their auxiliary symbols. -/
private structure Repeats where
  next : Nat
  known : List (Rule × Nat)
  expansions : Array (Array Expansion)

/-- Of two dynamic precedences the larger in magnitude counts. -/
private def stronger (a b : Int) : Int := if a.natAbs < b.natAbs then b else a

/-- One right-hand side behind another one. -/
private def Expansion.append (a b : Expansion) : Expansion :=
  ⟨a.steps ++ b.steps, stronger a.dynamic b.dynamic⟩

/-- On leaving an annotated part before the end of its rule, the last step falls back to the
annotations outside. -/
private def Expansion.leave (outer : Context) (setsPrec setsAssoc : Bool) (e : Expansion) :
    Expansion :=
  match e.steps.reverse with
  | [] => e
  | last :: rest =>
    let last := if setsPrec then { last with prec := outer.prec } else last
    let last := if setsAssoc then { last with assoc := outer.assoc } else last
    { e with steps := (last :: rest).reverse }

/-- All right-hand sides a rule stands for. -/
private def expand (ix : Index) : Rule → Context → Bool → StateM Repeats (List Expansion)
  | .blank, _, _ => pure [⟨[], 0⟩]
  | .token t, c, _ => pure [⟨[c.step ((ix.tokens.findIdx? (· == t)).getD 0 + 1)], 0⟩]
  | .symbol n, c, _ => pure [⟨[c.step ((ix.names.lookup n).getD 0)], 0⟩]
  | .seq a b, c, atEnd => do
    let xs ← expand ix a c false
    let ys ← expand ix b c atEnd
    pure (xs.flatMap fun x ↦ ys.map x.append)
  | .choice a b, c, atEnd => do
    let xs ← expand ix a c atEnd
    let ys ← expand ix b c atEnd
    pure (xs ++ ys)
  | .field f b, c, atEnd => expand ix b { c with field := some f } atEnd
  | .shownAs a b, c, atEnd => expand ix b { c with shownAs := some a } atEnd
  | .dynamic n b, c, atEnd => do
    let xs ← expand ix b c atEnd
    pure (xs.map fun x ↦ { x with dynamic := stronger n x.dynamic })
  | .prec level assoc b, c, atEnd => do
    let inner := { c with prec := level <|> c.prec, assoc := assoc <|> c.assoc }
    let xs ← expand ix b inner atEnd
    pure (if atEnd then xs else xs.map (·.leave c level.isSome assoc.isSome))
  | .repeat1 body, c, _ => do
    match (← get).known.lookup body with
    | some s => pure [⟨[c.step s], 0⟩]
    | none =>
      let xs ← expand ix body .top true
      let st ← get
      let self := Context.top.step st.next
      set { st with
        next := st.next + 1
        known := (body, st.next) :: st.known
        expansions := st.expansions.push (Expansion.mk [self, self] 0 :: xs).toArray }
      pure [⟨[c.step st.next], 0⟩]

/-! ## Default aliases -/

/-- The alias a symbol is shown under when every mention of it is aliased: the most frequent one,
the earlier on a tie. -/
private def defaultAlias (mentions : List (Option Alias)) : Option Alias :=
  if mentions.isEmpty || mentions.any Option.isNone then none
  else
    let all := mentions.filterMap id
    (distinct all).foldl (fun best a ↦ match best with
      | none => some a
      | some b => if all.count b < all.count a then some a else some b) none

/-- Remove the aliases that say no more than the default alias of their symbol. An alias stays
when another right-hand side of the same symbol needs it at the same place. -/
private def dropDefaults (defaults : Array (Option Alias)) (es : Array Expansion) :
    Array Expansion :=
  let default (s : Step) : Option Alias := (defaults[s.symbol]?).getD none
  es.map fun e ↦ { e with
    steps := e.steps.zipIdx.map fun (s, j) ↦
      if s.shownAs.isSome && s.shownAs == default s then
        let needed := es.any fun o ↦ match o.steps[j]? with
          | some t => t.shownAs == s.shownAs && default t != s.shownAs
          | none => false
        if needed then s else { s with shownAs := none }
      else s }

/-! ## Inlining -/

/-- Replace the step at `j` by the steps of `part`, which inherit its annotations. -/
private def splice (e : Expansion) (j : Nat) (removed : Step) (part : Expansion) : Expansion :=
  let inherited := part.steps.map fun s ↦
    { s with shownAs := removed.shownAs <|> s.shownAs, field := removed.field <|> s.field }
  let inherited := match inherited.reverse with
    | [] => []
    | last :: rest =>
      ({ last with
          prec := last.prec <|> removed.prec
          assoc := last.assoc <|> removed.assoc } :: rest).reverse
  ⟨e.steps.take j ++ inherited ++ e.steps.drop (j + 1), stronger e.dynamic part.dynamic⟩

/-- Splice every inlined symbol of a right-hand side, at most `depth` times in a row. -/
private def inlineSteps (rules : Array (Array Expansion)) (base : Nat) (inlined : List Nat) :
    Nat → Expansion → List Expansion
  | 0, e => [e]
  | depth + 1, e =>
    match e.steps.findIdx? fun s ↦ inlined.contains s.symbol with
    | none => [e]
    | some j =>
      match e.steps[j]? with
      | none => [e]
      | some removed =>
        ((rules[removed.symbol - base]?).getD #[]).toList.flatMap fun part ↦
          inlineSteps rules base inlined depth (splice e j removed part)

/-- The normal form of a description. -/
def Description.normal (d : Description) : Normal :=
  let mentions := d.definitions.flatMap (·.rule.tokens)
  let wordToken := ((d.definitions.find? (·.name == d.word)).bind (soleToken mentions)).getD
    (.ofPattern .empty)
  let tokens := wordToken :: (distinct mentions).filter (· != wordToken)
  let tokenCount := tokens.length + 1
  let (tokenDefs, symbolDefs) :=
    d.definitions.partition fun x ↦ (soleToken mentions x).isSome
  let tokenNames := tokenDefs.filterMap fun x ↦
    (soleToken mentions x).map fun t ↦ (x.name, (tokens.findIdx? (· == t)).getD 0 + 1)
  let symbolNames := symbolDefs.zipIdx.map fun (x, i) ↦ (x.name, tokenCount + i)
  let names := tokenNames ++ symbolNames
  let ix : Index := ⟨tokens, names⟩
  let firstAuxiliary := tokenCount + symbolDefs.length
  let (written, repeats) :=
    ((symbolDefs.mapM fun x ↦ expand ix x.rule .top true) : StateM Repeats _).run
      ⟨firstAuxiliary, [], #[]⟩
  let rules := (written.map fun es ↦ (distinct es).toArray).toArray ++ repeats.expansions
  let lookup (n : String) : Nat := (names.lookup n).getD 0
  let inlined := d.inline.map lookup
  let supertypes := d.supertypes.map lookup
  let extra := lookup d.extra
  let steps := rules.toList.flatMap fun es ↦ es.toList.flatMap (·.steps)
  let symbolCount := tokenCount + rules.size
  let mentionsOf : Array (List (Option Alias)) := steps.foldl
    (fun acc s ↦ acc.modify s.symbol (s.shownAs :: ·)) (Array.replicate symbolCount [])
  let defaults := mentionsOf.mapIdx fun s ms ↦
    if inlined.contains s || s == extra then none else defaultAlias ms.reverse
  let rules := rules.map (dropDefaults defaults)
  let aliased := distinct ((rules.toList.flatMap fun es ↦ es.toList.flatMap (·.steps)).filterMap
    fun s ↦ s.shownAs.map fun _ ↦ s.symbol)
  let rules := rules.map fun es ↦
    (es.toList.flatMap (inlineSteps rules tokenCount inlined 8)).toArray
  let ownAppearance (name : String) (supertype : Bool) : Appearance :=
    ⟨name, if supertype || name.startsWith "_" then .hidden else .named⟩
  let tokenAppearance (t : Token) (i : Nat) : Appearance :=
    match tokenNames.find? (·.2 == i) with
    | some (n, _) => ownAppearance n false
    | none => match t.literal with
      | some text => ⟨text, .anonymous⟩
      | none => ⟨"", .hidden⟩
  let own : List Appearance :=
    [⟨"end", .hidden⟩] ++
    tokens.zipIdx.map (fun (t, i) ↦ tokenAppearance t (i + 1)) ++
    symbolDefs.zipIdx.map (fun (x, i) ↦
      ownAppearance x.name (supertypes.contains (tokenCount + i))) ++
    repeats.expansions.toList.map (fun _ ↦ ⟨"", .hidden⟩)
  { tokens := (Token.ofPattern .empty :: tokens).toArray
    appearances := own.toArray.mapIdx fun s a ↦ match (defaults[s]?).getD none with
      | some x => ⟨x.name, if x.named then .named else .anonymous⟩
      | none => a
    rules
    firstAuxiliary
    supertypes
    extra
    aliased }

end BuiltinAtlas.Grammar
