import BuiltinAtlas.Symbol.Basic

/-!
# Arguments

`parseArguments` reads the arguments of the program. Options may be long, with their values behind
`=` or in the next argument, or short, several in one argument, with their values attached or in the
next argument. Only values that are attached may begin with a dash. What stands behind `--` is no
option. An option may occur once, except that `--index` may stand before and behind the command,
where the later one counts.
-/

namespace BuiltinAtlas.Command

/-- An option. -/
inductive Flag where
  | index
  | maxErrors
  | verbose
  | kind
  | moduleName
  | typeName
  | onlyFile
  | url
  | yes
  | help
  deriving DecidableEq

/-- A command word. -/
inductive Verb where
  | index
  | source
  | file
  | inspect
  | stats
  | download
  deriving DecidableEq

/-- Why there is nothing to do. -/
inductive Refusal where
  /-- The arguments make no sense. -/
  | usage
  /-- Only help was asked for. -/
  | help
  deriving DecidableEq

/-- The exit code of a refusal. -/
def Refusal.code : Refusal → Nat
  | .usage => 2
  | .help => 0

/-- The verb of a word. -/
def Verb.ofWord? : String → Option Verb
  | "index" => some .index
  | "source" => some .source
  | "file" => some .file
  | "inspect" => some .inspect
  | "stats" => some .stats
  | "download" => some .download
  | _ => none

namespace Flag

/-- The name of a long option. -/
def longName : Flag → String
  | index => "index"
  | maxErrors => "max-errors"
  | verbose => "verbose"
  | kind => "kind"
  | moduleName => "module"
  | typeName => "type"
  | onlyFile => "file"
  | url => "url"
  | yes => "yes"
  | help => "help"

/-- The letter of a short option. -/
def letter? : Flag → Option Char
  | verbose => some 'v'
  | kind => some 'k'
  | moduleName => some 'm'
  | typeName => some 't'
  | yes => some 'y'
  | help => some 'h'
  | index | maxErrors | onlyFile | url => none

/-- Whether an option has a value. -/
def takesValue : Flag → Bool
  | index | maxErrors | kind | moduleName | typeName | url => true
  | verbose | onlyFile | yes | help => false

end Flag

/-- The options behind a command word. -/
def Verb.flags : Verb → List Flag
  | index => [.index, .help, .maxErrors, .verbose]
  | source | file => [.index, .help, .kind, .moduleName, .typeName]
  | inspect => [.index, .help, .onlyFile]
  | stats => [.index, .help]
  | download => [.index, .help, .url, .yes]

/-- How many arguments that are no options a command may have. -/
def Verb.maximalOperands? : Verb → Option Nat
  | index => none
  | source | file | inspect => some 1
  | stats | download => some 0

/-- Whether the arguments of a command that are no options are paths, which are not empty. -/
def Verb.takesPaths : Verb → Bool
  | index | inspect => true
  | source | file | stats | download => false

/-- What kind of symbol is looked up. -/
inductive SymbolKind where
  | type
  | module
  | function
  | method
  | descriptor
  deriving DecidableEq

/-- The kind with a name. -/
def SymbolKind.ofWord? : String → Option SymbolKind
  | "type" => some .type
  | "module" => some .module
  | "function" => some .function
  | "method" => some .method
  | "descriptor" => some .descriptor
  | _ => none

/-- A count of at most 64 bits: decimal digits, perhaps after a plus sign. -/
def count? (s : String) : Option Nat :=
  let digits := match s.toList with
    | '+' :: rest => rest
    | cs => cs
  if digits.isEmpty || !digits.all Char.isDigit then none
  else
    let n := digits.foldl (fun n c ↦ 10 * n + (c.toNat - '0'.toNat)) 0
    if n < UInt64.size then some n else none

/-- Whether an option can have a value. -/
def Flag.accepts : Flag → String → Bool
  | .index, value => !value.isEmpty
  | .maxErrors, value => (count? value).isSome
  | .kind, value => (SymbolKind.ofWord? value).isSome
  | _, _ => true

/-- What has been read: the options with their values, and the other arguments, the last ones first.
-/
structure Matches where
  options : List (Flag × String) := []
  operands : List String := []

namespace Matches

/-- The value of an option. -/
def value? (m : Matches) (flag : Flag) : Option String := m.options.lookup flag

/-- Whether an option was given. -/
def has (m : Matches) (flag : Flag) : Bool := (m.value? flag).isSome

/-- Take in an option, unless it was given before or cannot have its value. -/
def addOption (m : Matches) (flag : Flag) (value : String) : Except Refusal Matches :=
  if flag = .help then .error .help
  else if m.has flag || !flag.accepts value then .error .usage
  else .ok { m with options := (flag, value) :: m.options }

/-- Take in an argument that is no option. -/
def addOperand (m : Matches) (verb : Verb) (operand : String) : Except Refusal Matches :=
  if verb.maximalOperands?.any (· ≤ m.operands.length) ∨ (verb.takesPaths ∧ operand.isEmpty) then
    .error .usage
  else .ok { m with operands := operand :: m.operands }

end Matches

/-- The forms of an argument. -/
inductive Shape where
  /-- `--` -/
  | escape
  /-- A long option, perhaps with a value. -/
  | long (name : String) (value : Option String)
  /-- Short options. -/
  | short (letters : List Char)
  /-- Anything else, such as a single dash. -/
  | operand

/-- The form of an argument. -/
def Shape.of (argument : String) : Shape :=
  match argument.toList with
  | ['-', '-'] => .escape
  | '-' :: '-' :: rest =>
    let name := rest.takeWhile (· != '=')
    .long (String.ofList name) (if name.length = rest.length then none
      else some (String.ofList (rest.drop (name.length + 1))))
  | '-' :: c :: rest => .short (c :: rest)
  | _ => .operand

/-- Whether an argument can be the value of the option before it. -/
def isValue (argument : String) : Bool :=
  match Shape.of argument with
  | .operand => true
  | .escape | .long .. | .short _ => false

/-- What the short options in an argument lead to. -/
inductive Cluster where
  | complete (m : Matches)
  /-- The last option has its value in the next argument. -/
  | open (m : Matches) (flag : Flag)

/-- Read short options. -/
def readLetters (flags : List Flag) (m : Matches) : List Char → Except Refusal Cluster
  | [] => .ok (.complete m)
  | c :: rest =>
    match flags.find? (·.letter? == some c) with
    | none => .error .usage
    | some flag =>
      if flag.takesValue then
        match rest with
        | [] => .ok (.open m flag)
        | '=' :: value => (m.addOption flag (String.ofList value)).map .complete
        | value => (m.addOption flag (String.ofList value)).map .complete
      else do readLetters flags (← m.addOption flag "") rest

/-- Read the arguments behind a command word. `waiting` is an option whose value comes next. -/
def readArguments (verb : Verb) (m : Matches) (waiting : Option Flag) :
    List String → Except Refusal Matches
  | [] => if waiting.isSome then .error .usage else .ok m
  | argument :: rest =>
    match waiting with
    | some flag =>
      if isValue argument then do readArguments verb (← m.addOption flag argument) none rest
      else .error .usage
    | none =>
      match Shape.of argument with
      | .escape => rest.foldlM (fun m operand ↦ m.addOperand verb operand) m
      | .operand => do readArguments verb (← m.addOperand verb argument) none rest
      | .short letters => do
        match ← readLetters verb.flags m letters with
        | .complete m => readArguments verb m none rest
        | .open m flag => readArguments verb m (some flag) rest
      | .long name value =>
        match verb.flags.find? (·.longName == name), value with
        | none, _ => .error .usage
        | some flag, some value =>
          if flag.takesValue then do
            readArguments verb (← m.addOption flag value) none rest
          else .error .usage
        | some flag, none =>
          if flag.takesValue then readArguments verb m (some flag) rest
          else do readArguments verb (← m.addOption flag "") none rest

/-- What is to be done. -/
inductive Request where
  | index (paths : List String) (maxErrors : Nat) (verbose : Bool)
  | source (s : Symbol)
  | file (s : Symbol)
  | inspect (snapshot : String) (onlyFile : Bool)
  | stats
  | download (url : String) (yes : Bool)

/-- Where indexes are downloaded from unless something else is said. -/
def defaultUrl : String := "https://github.com/punchagan/cinspect-data/archive/master.zip"

/-- The symbol with a name and a kind, in a module and of a type if those are given. -/
def symbolOfKind (name : String) (kind : SymbolKind) (moduleName typeName : Option String) :
    Symbol :=
  match kind with
  | .type => .type name moduleName
  | .module => .module name
  | .function => .function name moduleName
  | .method => .method name moduleName (typeName.map .object)
  | .descriptor => .descriptor name typeName

/-- The symbol that is asked for. -/
def Matches.symbol (m : Matches) (name : String) : Symbol :=
  let kind := ((m.value? .kind).bind SymbolKind.ofWord?).getD .function
  symbolOfKind name kind (m.value? .moduleName) (m.value? .typeName)

/-- The command of what has been read, if nothing is missing. -/
def Matches.command? (m : Matches) (verb : Verb) : Option Request :=
  match verb, m.operands.reverse with
  | .index, p :: ps =>
    some (.index (p :: ps) (((m.value? .maxErrors).bind count?).getD 0) (m.has .verbose))
  | .source, name :: _ => some (.source (m.symbol name))
  | .file, name :: _ => some (.file (m.symbol name))
  | .inspect, snapshot :: _ => some (.inspect snapshot (m.has .onlyFile))
  | .stats, _ => some .stats
  | .download, _ => some (.download ((m.value? .url).getD defaultUrl) (m.has .yes))
  | _, [] => none

/-- A command, and the value of the option `--index`. -/
structure Invocation where
  index : Option String
  command : Request

/-- Read what follows a command word. -/
def readCommand (verb : Verb) (arguments : List String) :
    Except Refusal (Option String × Request) := do
  let m ← readArguments verb {} none arguments
  match m.command? verb with
  | some c => .ok (m.value? .index, c)
  | none => .error .usage

/-- Help is available about commands. -/
def readHelp : List String → Refusal
  | [] => .help
  | [word] => if (Verb.ofWord? word).isSome ∨ word = "help" then .help else .usage
  | _ :: _ :: _ => .usage

/-- How far the options before the command word have been read: `--index` may have been given, may
wait for its value, and may have a value that nobody has looked at yet. -/
inductive Lead where
  | nothing
  | waiting
  | pending (index : String)
  | given (index : String)

/-- Look at a value of `--index`. -/
def Lead.resolve : Lead → Except Refusal Lead
  | .pending index => if Flag.index.accepts index then .ok (.given index) else .error .usage
  | .waiting => .error .usage
  | lead => .ok lead

/-- Read the options before the command word, and then the command. -/
def readLead (lead : Lead) : List String → Except Refusal Invocation
  | [] => .error .usage
  | argument :: rest =>
    match lead, Shape.of argument with
    | .waiting, .operand => readLead (.pending argument) rest
    | .waiting, _ => .error .usage
    | lead, .operand =>
      if argument = "help" then .error (readHelp rest)
      else match Verb.ofWord? argument with
        | none => .error .usage
        | some verb => do
          let (index, command) ← readCommand verb rest
          match ← lead.resolve with
          | .given first => .ok ⟨index.or (some first), command⟩
          | _ => .ok ⟨index, command⟩
    | lead, .long "index" none => do
      match ← lead.resolve with
      | .nothing => readLead .waiting rest
      | _ => .error .usage
    | lead, .long "index" (some value) => do
      match ← lead.resolve with
      | .nothing => readLead (← (Lead.pending value).resolve) rest
      | _ => .error .usage
    | lead, .long "help" none => do
      let _ ← lead.resolve
      .error .help
    | lead, .short ('h' :: _) => do
      let _ ← lead.resolve
      .error .help
    | _, _ => .error .usage

/-- Read the arguments after the name of the program. -/
def parseArguments : List String → Except Refusal Invocation
  | [] => .error .usage
  | _ :: arguments => readLead .nothing arguments

end BuiltinAtlas.Command
