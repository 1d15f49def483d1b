import BuiltinAtlas.Construct.Lowering
import BuiltinAtlas.Source.File
import BuiltinAtlas.Source.HeadMacro
import BuiltinAtlas.Syntax.Parse

/-!
# Reading source files

A `FileReader` turns a source file into constructs, or says why it cannot. `tolerantReader` parses
the file as C and accepts it when it has at most a given number of faults.
-/

namespace BuiltinAtlas

/-- Why a file could not be read as C. -/
inductive ReadFailure where
  | tooManyFaults (count limit : Nat)
  /-- The parser gave no answer. -/
  | noTree
  /-- Some other reason of the reader. -/
  | other (reason : String)
  deriving BEq, DecidableEq

/-- What is said about a file that could not be read. -/
def ReadFailure.message (path : String) (f : ReadFailure) : String :=
  let reason := match f with
    | .tooManyFaults count limit => s!"{count} syntax errors (limit {limit})"
    | .noTree => "parser returned no tree"
    | .other reason => reason
  s!"Could not parse {path}: {reason}"

/-- A way to read source files. -/
abbrev FileReader := SourceFile → Except ReadFailure Construct

/-- Judge a syntax tree by its faults, and lower it. -/
def judge (limit : Nat) (path : String) (source : ByteArray) (root : Option Syntax.Node) :
    Except ReadFailure Construct :=
  match root with
  | none => .error .noTree
  | some root =>
    if limit < root.faults then .error (.tooManyFaults root.faults limit)
    else .ok (.ofSyntax path source root)

/-- Read files with a parser, with at most `limit` faults. -/
def limitedReader (parse? : ByteArray → Option Syntax.Node) (limit : Nat) : FileReader := fun f ↦
  let source := Source.expandHeadMacros f.bytes
  judge limit f.path source (parse? source)

/-- Read files as C, with at most `limit` faults. -/
def tolerantReader : Nat → FileReader := limitedReader Syntax.parse?

end BuiltinAtlas
