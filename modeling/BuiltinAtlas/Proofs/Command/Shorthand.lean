import BuiltinAtlas.Proofs.Command.Completion
import BuiltinAtlas.Proofs.Command.Line

/-!
# What the shorthand for a symbol means

A symbol that stands where a command should means the command `source` with that symbol
(`parseArguments_shorthand`): the option `--index` in front of it and the options behind it are
kept, whichever way they are written. Behind the escape `--` the shorthand fails. The word `source`
is put there as well, but nothing behind the escape is read as a command, so that such a line is
refused.
-/

namespace BuiltinAtlas.Command

/-! ### Options behind the symbol -/

/-- The ways of writing an option with a value. -/
inductive Spelling where
  /-- As in `--kind=type`. -/
  | longAttached
  /-- As in `--kind type`. -/
  | longApart
  /-- As in `-ktype`. -/
  | letterAttached
  /-- As in `-k=type`. -/
  | letterEquals
  /-- As in `-k type`. -/
  | letterApart

/-- An option as it is written behind a symbol. -/
structure SpelledOption where
  flag : Flag
  value : String
  spelling : Spelling

/-- The letter of an option, and what is attached to it. -/
def letterText (flag : Flag) (attached : List Char) : String :=
  String.ofList ('-' :: (flag.letter?.toList ++ attached))

namespace SpelledOption

/-- The arguments that an option consists of. -/
def words (o : SpelledOption) : List String :=
  match o.spelling with
  | .longAttached => [optionText (o.flag, o.value)]
  | .longApart => ["--" ++ o.flag.longName, o.value]
  | .letterAttached => [letterText o.flag o.value.toList]
  | .letterEquals => [letterText o.flag ('=' :: o.value.toList)]
  | .letterApart => [letterText o.flag [], o.value]

/-- The option and its value. -/
def meaning (o : SpelledOption) : Flag × String := (o.flag, o.value)

/-- A value can be written in the way that is chosen: in an argument of its own unless it begins
with a dash and is more than that, and right behind the letter unless it is empty or begins with an
equals sign. -/
def Spells (o : SpelledOption) : Prop :=
  match o.spelling with
  | .longAttached | .letterEquals => True
  | .longApart | .letterApart => o.value = "-" ∨ o.value.toList.head? ≠ some '-'
  | .letterAttached => o.value ≠ "" ∧ o.value.toList.head? ≠ some '='

/-- An option of a symbol, with a value that it can have. -/
structure Valid (o : SpelledOption) : Prop where
  known : o.flag ∈ [.kind, .moduleName, .typeName]
  accepted : o.flag.accepts o.value = true
  spells : o.Spells

end SpelledOption

private theorem Shape.of_of_head? {argument : String}
    (h : argument = "-" ∨ argument.toList.head? ≠ some '-') : Shape.of argument = .operand := by
  obtain rfl | undashed := h
  · rfl
  · unfold Shape.of
    split
    case h_1 chars => exact absurd (by rw [chars]; rfl) undashed
    case h_2 chars => exact absurd (by rw [chars]; rfl) undashed
    case h_3 chars => exact absurd (by rw [chars]; rfl) undashed
    case h_4 => rfl

private theorem Shape.of_longName (flag : Flag) :
    Shape.of ("--" ++ flag.longName) = .long flag.longName none := by
  cases flag <;> rfl

private theorem Shape.of_letterText {flag : Flag} {c : Char} (letter : flag.letter? = some c)
    (attached : List Char) : Shape.of (letterText flag attached) = .short (c :: attached) := by
  have undashed : c ≠ '-' := by
    rintro rfl
    cases flag <;> cases letter
  rw [Shape.of, letterText, letter, String.toList_ofList]
  simp [undashed]

private theorem Verb.find?_letter {verb : Verb} {flag : Flag} {c : Char} (among : flag ∈ verb.flags)
    (letter : flag.letter? = some c) :
    verb.flags.find? (·.letter? == some c) = some flag := by
  have lettered : flag.letter?.isSome = true := by
    rw [letter]
    rfl
  rw [← letter]
  clear letter
  revert among lettered
  cases verb <;> cases flag <;> decide

private theorem readArguments_words {o : SpelledOption} (valid : o.Valid) {m : Matches}
    (fresh : m.value? o.flag = none) (rest : List String) :
    readArguments .source m none (o.words ++ rest) =
      readArguments .source { m with options := o.meaning :: m.options } none rest := by
  obtain ⟨known, accepted, spells⟩ := valid
  obtain ⟨flag, value, spelling⟩ := o
  obtain ⟨among, takes, c, letter⟩ : flag ∈ Verb.source.flags ∧ flag.takesValue = true ∧
      ∃ c, flag.letter? = some c := by
    simp only [List.mem_cons, List.not_mem_nil, or_false] at known
    obtain rfl | rfl | rfl := known <;> exact ⟨by decide, rfl, _, rfl⟩
  have taken := Matches.addOption_eq_ok takes accepted fresh
  have byName := Verb.find?_longName among
  have byLetter := Verb.find?_letter among letter
  -- The value in the next argument is taken in once the option waits for it.
  have apart (spells : value = "-" ∨ value.toList.head? ≠ some '-') :
      readArguments .source m (some flag) (value :: rest) =
        readArguments .source { m with options := (flag, value) :: m.options } none rest := by
    have isValue : isValue value = true := by rw [isValue, Shape.of_of_head? spells]
    rw [readArguments, if_pos isValue, taken]
    rfl
  cases spelling with
  | longAttached =>
    rw [SpelledOption.words, List.singleton_append, readArguments, Shape.of_optionText]
    simp only [byName, takes, if_true, taken]
    rfl
  | longApart =>
    rw [SpelledOption.words, List.cons_append, readArguments, Shape.of_longName]
    simp only [byName, takes, if_true]
    exact apart spells
  | letterAttached =>
    obtain ⟨nonempty, noEquals⟩ := spells
    obtain ⟨d, ds, chars⟩ : ∃ d ds, value.toList = d :: ds := by
      refine List.exists_cons_of_ne_nil fun empty ↦ nonempty ?_
      exact String.toList_eq_nil_iff.mp empty
    have other : d ≠ '=' := fun same ↦ noEquals (by rw [chars, same]; rfl)
    have whole : String.ofList (d :: ds) = value := by rw [← chars, String.ofList_toList]
    rw [SpelledOption.words, List.singleton_append, readArguments, Shape.of_letterText letter]
    simp [readLetters, byLetter, takes, chars, other, whole, taken, bind, Except.bind, Except.map,
      SpelledOption.meaning]
  | letterEquals =>
    rw [SpelledOption.words, List.singleton_append, readArguments, Shape.of_letterText letter]
    simp [readLetters, byLetter, takes, taken, bind, Except.bind, Except.map,
      SpelledOption.meaning]
  | letterApart =>
    rw [SpelledOption.words, List.cons_append, readArguments, Shape.of_letterText letter]
    simp only [readLetters, byLetter, takes, if_true]
    exact apart spells

/-! ### The option in front of the command -/

/-- What stands in front of the command: nothing, or `--index` with a file. -/
inductive Front where
  | nothing
  /-- As in `--index FILE`. -/
  | apart (file : String)
  /-- As in `--index=FILE`. -/
  | attached (file : String)

namespace Front

/-- The arguments in front of the command. -/
def words : Front → List String
  | nothing => []
  | apart file => ["--index", file]
  | attached file => [optionText (.index, file)]

/-- The index file that is given. -/
def file? : Front → Option String
  | nothing => none
  | apart file | attached file => some file

/-- The index file is not empty and begins with no dash. -/
def Valid (front : Front) : Prop := ∀ file ∈ front.file?, file ≠ "" ∧ file.toList.head? ≠ some '-'

end Front

private theorem markFirst_front (front : Front) (rest : List String) :
    markFirst (front.words ++ rest) = front.words ++ markFirst rest := by
  cases front with
  | nothing => rfl
  | apart file => simp [Front.words, markFirst]
  | attached file =>
    have chars : (optionText (.index, file)).toList =
        '-' :: '-' :: 'i' :: 'n' :: 'd' :: 'e' :: 'x' :: '=' :: file.toList := by
      simp [optionText, Flag.longName]
    rw [Front.words, List.singleton_append, markFirst, if_pos (by rw [chars]; rfl)]
    · rfl
    · intro same
      rw [same] at chars
      cases chars
    · intro same
      rw [same] at chars
      cases chars
    · intro _ _ same
      rw [same] at chars
      cases chars

private theorem markFirst_symbol {name : String} (undashed : name.toList.head? ≠ some '-')
    (unknown : name ∉ commandWords) (rest : List String) :
    markFirst (name :: rest) = "source" :: name :: rest := by
  rw [markFirst_plain undashed, markSymbol, if_neg unknown]

private theorem exists_lead_of_front {front : Front} (valid : front.Valid) : ∃ lead : Lead,
    lead ≠ .waiting ∧
      lead.resolve = .ok (front.file?.elim .nothing .given) ∧
      ∀ rest, readLead .nothing (front.words ++ rest) = readLead lead rest := by
  cases front with
  | nothing => exact ⟨.nothing, by simp, rfl, fun _ ↦ rfl⟩
  | apart file =>
    obtain ⟨nonempty, undashed⟩ := valid file rfl
    have accepted : Flag.index.accepts file = true := by simpa [Flag.accepts] using nonempty
    have operand := Shape.of_of_head? (.inr undashed)
    refine ⟨.pending file, by simp, by rw [Lead.resolve, if_pos accepted]; rfl, fun rest ↦ ?_⟩
    have shape : Shape.of "--index" = .long "index" none := rfl
    simp [Front.words, readLead, shape, operand, Lead.resolve, bind, Except.bind]
  | attached file =>
    obtain ⟨nonempty, -⟩ := valid file rfl
    have accepted : Flag.index.accepts file = true := by simpa [Flag.accepts] using nonempty
    refine ⟨.given file, by simp, rfl, fun rest ↦ ?_⟩
    simp [Front.words, readLead, Shape.of_optionText, Flag.longName, Lead.resolve, accepted, bind,
      Except.bind]

private theorem parseArguments_front (program : String) {front : Front} (valid : front.Valid)
    {word : String} {verb : Verb} (known : Verb.ofWord? word = some verb) {arguments : List String}
    {request : Request} (read : readCommand verb arguments = .ok (none, request)) :
    parseArguments (program :: (front.words ++ word :: arguments)) =
      .ok ⟨front.file?, request⟩ := by
  obtain ⟨lead, ready, resolved, reads⟩ := exists_lead_of_front valid
  obtain ⟨-, operand, notHelp, -⟩ := commandWord_of_ofWord? known
  rw [parseArguments, reads]
  -- All that the stage of reading matters for is the file that it leaves.
  cases lead with
  | waiting => exact absurd rfl ready
  | nothing | pending | given =>
    simp only [readLead, operand, notHelp, known, read, resolved, if_false, bind, Except.bind]
    cases front.file? <;> rfl

private theorem parseArguments_front_escape (program : String) {front : Front} (valid : front.Valid)
    (arguments : List String) :
    parseArguments (program :: (front.words ++ "--" :: arguments)) = .error .usage := by
  obtain ⟨lead, -, -, reads⟩ := exists_lead_of_front valid
  have escape : Shape.of "--" = .escape := rfl
  rw [parseArguments, reads]
  cases lead <;> simp [readLead, escape]

/-! ### The shorthand -/

/-- The value of an option, if it is given. -/
def givenValue? (options : List SpelledOption) (flag : Flag) : Option String :=
  (options.map SpelledOption.meaning).lookup flag

/-- The symbol that a name and the options behind it ask for: a function unless a kind is given. -/
def requestedSymbol (name : String) (options : List SpelledOption) : Symbol :=
  symbolOfKind name (((givenValue? options .kind).bind SymbolKind.ofWord?).getD .function)
    (givenValue? options .moduleName) (givenValue? options .typeName)

private theorem lookup_reverse_of_nodup {entries : List (Flag × String)}
    (distinct : (entries.map Prod.fst).Nodup) (flag : Flag) :
    entries.reverse.lookup flag = entries.lookup flag := by
  induction entries with
  | nil => rfl
  | cons entry entries ih =>
    obtain ⟨key, value⟩ := entry
    obtain ⟨notAgain, distinct⟩ := List.nodup_cons.mp distinct
    rw [List.reverse_cons, List.lookup_append, ih distinct]
    by_cases same : flag = key
    · subst same
      have absent : entries.lookup flag = none := by
        rw [List.lookup_eq_none_iff]
        intro other mem
        simpa using fun equal ↦ notAgain (List.mem_map.mpr ⟨other, mem, equal.symm⟩)
      simp [absent]
    · simp [List.lookup_cons, beq_false_of_ne same]

private theorem readCommand_source {name : String} (undashed : name.toList.head? ≠ some '-')
    {options : List SpelledOption} (valid : ∀ o ∈ options, o.Valid)
    (once : (options.map SpelledOption.flag).Nodup) :
    readCommand .source (name :: options.flatMap SpelledOption.words) =
      .ok (none, .source (requestedSymbol name options)) := by
  have operand := Shape.of_of_head? (.inr undashed)
  have taken := readArguments_flatMap SpelledOption.meaning (m := ⟨[], [name]⟩)
    (fun o mem m rest fresh ↦ readArguments_words (valid o mem) fresh rest) once
    (fun _ _ ↦ rfl) []
  have distinct : ((options.map SpelledOption.meaning).map Prod.fst).Nodup := by
    rw [List.map_map]
    exact once
  have value (flag : Flag) : Matches.value?
      ⟨(options.map SpelledOption.meaning).reverse, [name]⟩ flag = givenValue? options flag := by
    exact lookup_reverse_of_nodup distinct flag
  have noIndex : givenValue? options .index = none := by
    rw [givenValue?, List.lookup_eq_none_iff]
    intro entry mem
    obtain ⟨o, among, rfl⟩ := List.mem_map.mp mem
    have known := (valid o among).known
    simp only [List.mem_cons, List.not_mem_nil, or_false] at known
    obtain same | same | same := known <;> simp [SpelledOption.meaning, same]
  rw [List.append_nil, List.append_nil] at taken
  have name' : Matches.addOperand {} .source name = .ok ⟨[], [name]⟩ := by
    simp [Matches.addOperand, Verb.maximalOperands?, Verb.takesPaths]
  rw [readCommand, readArguments, operand]
  simp only [name', bind, Except.bind, taken, readArguments]
  simp [Matches.command?, Matches.symbol, value, noIndex, requestedSymbol]

/-- Where a symbol stands in the place of a command, with `--index` in front of it or not, the line
is completed to one with the command `source`, and both mean that command with that symbol, whatever
options stand behind it. Behind the escape the line is completed too, but refused, although the
command `source` takes an escaped symbol. -/
theorem parseArguments_shorthand (program : String) {front : Front} (valid : front.Valid)
    {name : String} (unknown : name ∉ commandWords) :
    (name.toList.head? ≠ some '-' → ∀ options : List SpelledOption, (∀ o ∈ options, o.Valid) →
      (options.map SpelledOption.flag).Nodup →
        let behind := name :: options.flatMap SpelledOption.words
        let asked := Except.ok ⟨front.file?, .source (requestedSymbol name options)⟩
        withSourceCommand (program :: (front.words ++ behind)) =
            program :: (front.words ++ "source" :: behind) ∧
          parseArguments (withSourceCommand (program :: (front.words ++ behind))) = asked ∧
          parseArguments (withSourceCommand (program :: (front.words ++ "source" :: behind))) =
            asked) ∧
      withSourceCommand (program :: (front.words ++ ["--", name])) =
        program :: (front.words ++ ["--", "source", name]) ∧
      parseArguments (withSourceCommand (program :: (front.words ++ ["--", name]))) =
        .error .usage ∧
      parseArguments (withSourceCommand (program :: (front.words ++ ["source", "--", name]))) =
        .ok ⟨front.file?, .source (.function name none)⟩ := by
  have source : Verb.ofWord? "source" = some .source := rfl
  have explicit (rest : List String) :
      withSourceCommand (program :: (front.words ++ "source" :: rest)) =
        program :: (front.words ++ "source" :: rest) := by
    rw [withSourceCommand, markFirst_front, (commandWord_of_ofWord? source).2.2.2]
  have escaped : withSourceCommand (program :: (front.words ++ ["--", name])) =
      program :: (front.words ++ ["--", "source", name]) := by
    rw [withSourceCommand, markFirst_front, markFirst, markSymbol, if_neg unknown]
  refine ⟨fun undashed options valids once ↦ ?_, escaped, ?_, ?_⟩
  · have completed : withSourceCommand
        (program :: (front.words ++ name :: options.flatMap SpelledOption.words)) =
          program :: (front.words ++ "source" :: name ::
            options.flatMap SpelledOption.words) := by
      rw [withSourceCommand, markFirst_front, markFirst_symbol undashed unknown]
    have read := parseArguments_front program valid source (readCommand_source undashed valids once)
    refine ⟨completed, ?_, ?_⟩
    · rw [completed, read]
    · rw [explicit, read]
  · rw [escaped]
    exact parseArguments_front_escape program valid _
  · rw [explicit]
    exact parseArguments_front program valid source rfl

/-! The options behind a symbol can be written in three different ways at once. -/

namespace Abbreviated

/-- An index file, a kind, a type and a module that begins with a dash are kept. -/
theorem parseArguments_shorthand_method :
    parseArguments (withSourceCommand ["cinspect", "--index", "/i.json", "append", "-kmethod",
        "--type", "list", "-m=-x"]) =
      .ok ⟨some "/i.json", .source (.method "append" (some "-x") (some (.object "list")))⟩ := by
  have front : Front.Valid (.apart "/i.json") := by
    rintro _ ⟨⟩
    exact ⟨by decide, by decide⟩
  have options : ∀ o ∈ [SpelledOption.mk .kind "method" .letterAttached,
      ⟨.typeName, "list", .longApart⟩, ⟨.moduleName, "-x", .letterEquals⟩], o.Valid := by
    simp only [List.forall_mem_cons, List.not_mem_nil, false_implies, implies_true, and_true]
    exact ⟨⟨by decide, rfl, by decide, by decide⟩, ⟨by decide, rfl, .inr (by decide)⟩,
      ⟨by decide, rfl, trivial⟩⟩
  have unknown : "append" ∉ commandWords := by decide
  exact ((parseArguments_shorthand "cinspect" front unknown).1 (by decide) _ options
    (by decide)).2.1

end Abbreviated

/-! What stands behind the escape is never a command. -/

namespace Escaped

/-- The escaped shorthand for a function is refused, and the command it is meant for is not. -/
theorem not_parseArguments_shorthand :
    "f" ∉ commandWords ∧
      withSourceCommand ["cinspect", "--", "f"] = ["cinspect", "--", "source", "f"] ∧
      parseArguments (withSourceCommand ["cinspect", "--", "f"]) = .error .usage ∧
      parseArguments (withSourceCommand ["cinspect", "source", "--", "f"]) =
        .ok ⟨none, .source (.function "f" none)⟩ :=
  ⟨by decide, rfl, rfl, rfl⟩

end Escaped

end BuiltinAtlas.Command
