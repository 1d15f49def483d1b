import BuiltinAtlas.Syntax.Node
import BuiltinAtlas.Parser.Parse
import BuiltinAtlas.Grammar.CLanguage

/-!
# From parse trees to syntax trees

Hidden nodes disappear and their children move up. A child has the role that the innermost
production around it gives it.
-/

namespace BuiltinAtlas.Syntax

open BuiltinAtlas.Grammar BuiltinAtlas.Parser

/-- The kind and namedness a symbol is shown with. -/
private def shownAs (name : String) (named : Bool) : Kind × Bool :=
  if named then (.ofName name, true) else (.ofSpelling name, false)

/-- How a node is shown, if it is. -/
private def shown? (g : Normal) (i : Info) (given : Option Alias) : Option (Kind × Bool) :=
  match given, i.label with
  | some a, _ => some (shownAs a.name a.named)
  | none, .error => some (.error, true)
  | none, .skipping => none
  | none, .symbol s =>
    let a := g.appearance s
    match a.visibility with
    | .named => some (shownAs a.name true)
    | .anonymous => some (shownAs a.name false)
    | .hidden => none

mutual

/-- The visible nodes of a tree that begins, padding included, at an offset. -/
def nodesOf (g : Normal) (given : Option Alias) (role : Option Field) (offset : Nat) :
    Tree → List (Option Field × Node)
  | .node i cs =>
    let start := offset + i.padding.bytes
    match shown? g i given with
    | some (kind, named) =>
      [(role, .mk kind named i.missing start (start + i.size.bytes)
        (nodesOfAll g i.layout.aliases i.layout.fields none offset cs))]
    | none => nodesOfAll g i.layout.aliases i.layout.fields role offset cs

/-- The visible nodes of a sequence of siblings, laid out by aliases and fields that pass over
extras. -/
def nodesOfAll (g : Normal) (aliases : List (Option Alias)) (fields : List (Option Field))
    (outer : Option Field) (offset : Nat) : List Tree → List (Option Field × Node)
  | [] => []
  | c :: cs =>
    let rest := offset + c.total.bytes
    if c.info.extra then
      nodesOf g none none offset c ++ nodesOfAll g aliases fields outer rest cs
    else
      nodesOf g aliases.head?.join (fields.head?.join <|> outer) offset c ++
        nodesOfAll g aliases.tail fields.tail outer rest cs

end

/-- Tokens that are not looked for in skipped text, by the names they are shown under: those that
could swallow separators, and those that begin with a token which they never stand beside. The
unnamed one is the line end behind a directive. -/
def unsearchedTokens : List String :=
  ["", "\n", "preproc_arg", "character", "string_content", "escape_sequence",
   "system_lib_string", "]]", "::"]

/-- The parser for C source files. -/
def cMachine : Machine := .ofDescription cLanguage unsearchedTokens 100000

/-- The syntax tree of a C source file. -/
def parse? (text : ByteArray) : Option Node := do
  let tree ← cMachine.parse? text
  ((nodesOf cMachine.grammar none none 0 tree).head?).map (·.2)

end BuiltinAtlas.Syntax
