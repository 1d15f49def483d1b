import BuiltinAtlas.Command.Arguments
import BuiltinAtlas.Command.Settings
import BuiltinAtlas.Job.Basic

/-!
# What is logged

Events are logged with a level and a topic. A `LogFilter` is a list of directives, each of which
sets the level for the topics that begin in some way. The most specific directive for a topic
decides, and of equally specific ones the last one.
-/

namespace BuiltinAtlas.Command

/-- How much is logged, from nothing to everything. -/
inductive LogLevel where
  | off
  | error
  | warn
  | info
  | debug
  | trace
  deriving DecidableEq

namespace LogLevel

/-- The levels in order. -/
def all : List LogLevel := [off, error, warn, info, debug, trace]

/-- The position of a level. -/
def rank : LogLevel → Nat
  | off => 0
  | error => 1
  | warn => 2
  | info => 3
  | debug => 4
  | trace => 5

/-- The name of a level. -/
def name : LogLevel → String
  | off => "OFF"
  | error => "ERROR"
  | warn => "WARN"
  | info => "INFO"
  | debug => "DEBUG"
  | trace => "TRACE"

/-- The level with a position or a name, in either case. -/
def ofWord? (word : String) : Option LogLevel :=
  match count? word with
  | some n => all[n]?
  | none => all.find? fun level ↦ word.toList.map Char.toUpper == level.name.toList

end LogLevel

/-- The level of some topics. -/
structure LogDirective where
  /-- What the topics begin with. -/
  topic : List Char
  level : LogLevel

/-- Read a directive: a level for all topics, a topic that is logged in full, or a topic, an equals
sign and a level, which may be missing. -/
def LogDirective.parse? (s : String) : Option LogDirective :=
  let cs := s.toList
  let topic := cs.takeWhile (· != '=')
  if !(cs.head?.any fun c ↦ c.isAlphanum || c ∈ ['-', ':', '_']) then none
  else match cs.drop topic.length with
    | [] => match LogLevel.ofWord? s with
      | some level => some ⟨[], level⟩
      | none => some ⟨topic, .trace⟩
    | [_] => some ⟨topic, .trace⟩
    | _ :: level => (LogLevel.ofWord? (String.ofList level)).map (⟨topic, ·⟩)

/-- Directives, later ones of which may change earlier ones. -/
abbrev LogFilter := List LogDirective

namespace LogFilter

/-- Everything up to a level. -/
def upTo (level : LogLevel) : LogFilter := [⟨[], level⟩]

/-- Read directives between commas. If there are none, errors are logged. -/
def parse? (s : String) : Option LogFilter :=
  match (s.splitOn ",").filter (!·.isEmpty) with
  | [] => some (upTo .error)
  | directives => directives.mapM LogDirective.parse?

/-- Of two directives the more specific one, or the second one. -/
def moreSpecific (best : Option LogDirective) (d : LogDirective) : Option LogDirective :=
  match best with
  | none => some d
  | some b => if b.topic.length ≤ d.topic.length then some d else some b

/-- The level of a topic. -/
def levelOf (f : LogFilter) (topic : String) : LogLevel :=
  let best := (f.filter (·.topic.isPrefixOf topic.toList)).foldl moreSpecific none
  (best.map (·.level)).getD .off

/-- The filter that the environment asks for, else one that depends on whether the command is
verbose. -/
def ofEnvironment (env : Environment) (verbose : Bool) : LogFilter :=
  ((Dictionary.find? env "RUST_LOG").bind parse?).getD (upTo (if verbose then .debug else .warn))

end LogFilter

/-- Something to log. -/
structure LogEntry where
  level : LogLevel
  topic : String
  text : String
  deriving DecidableEq

/-- Whether an entry passes a filter. -/
def LogEntry.passes (f : LogFilter) (e : LogEntry) : Bool := e.level.rank ≤ (f.levelOf e.topic).rank

/-- What is logged about an event. Skipped files are a warning if the command is verbose. -/
def logged? (verbose : Bool) : Event → Option LogEntry
  | .skipped reason => some ⟨if verbose then .warn else .debug, "cinspect::indexer", reason⟩
  | .updated r => some ⟨.info, "cinspect::indexer",
    s!"index updated root={r.root} scanned={r.scanned} indexed={r.indexed} " ++
      s!"unchanged={r.unchanged} failed={r.failed}"⟩
  | .asked _ => none
  | .kept path => some ⟨.info, "cinspect::download", s!"kept existing index path={path.text}"⟩
  | .installed path => some ⟨.info, "cinspect::download", s!"installed index path={path.text}"⟩

end BuiltinAtlas.Command
