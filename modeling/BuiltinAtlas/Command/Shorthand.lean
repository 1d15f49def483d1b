/-!
# The shorthand for looking a symbol up

`withSourceCommand` puts the word `source` before a symbol that stands where a command should, so
that a mere symbol asks for its source.
-/

namespace BuiltinAtlas.Command

/-- The words that stand for themselves where a command should be. -/
def commandWords : List String :=
  ["index", "source", "file", "inspect", "stats", "download", "help"]

/-- Put `source` before a word that is no command. -/
def markSymbol : List String → List String
  | [] => []
  | word :: rest => if word ∈ commandWords then word :: rest else "source" :: word :: rest

/-- Pass over options until a command or symbol comes, or the escape `--`, and mark a symbol. -/
def markFirst : List String → List String
  | [] => []
  | "--" :: rest => "--" :: markSymbol rest
  | ["--index"] => ["--index"]
  | "--index" :: file :: rest => "--index" :: file :: markFirst rest
  | word :: rest =>
    if word.toList.head? = some '-' then word :: markFirst rest else markSymbol (word :: rest)

/-- The arguments, after the name of the program, with `source` before a mere symbol. -/
def withSourceCommand : List String → List String
  | [] => []
  | program :: arguments => program :: markFirst arguments

end BuiltinAtlas.Command
