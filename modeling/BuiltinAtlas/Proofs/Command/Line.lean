import BuiltinAtlas.Command.Run

/-!
# Writing down a command

Every lookup can be asked for on a command line (`parseArguments_lookupLine`), whatever the names in
it are: options have their values behind an equals sign, so that these may begin with a dash or be
empty, and the name of the symbol stands behind `--`. Asking for the object in the input is
`inspectLine`.
-/

namespace BuiltinAtlas.Command

/-! ### Arguments -/

/-- A long option with its value. -/
def optionText (option : Flag × String) : String :=
  "--" ++ option.1.longName ++ "=" ++ option.2

/-- A long option with a value is read as such, whatever the value is. -/
theorem Shape.of_optionText (option : Flag × String) :
    Shape.of (optionText option) = .long option.1.longName (some option.2) := by
  obtain ⟨flag, value⟩ := option
  have begins : ∃ c cs, flag.longName.toList = c :: cs ∧ '=' ∉ c :: cs := by
    cases flag <;> exact ⟨_, _, rfl, by decide⟩
  obtain ⟨c, cs, name, plain⟩ := begins
  have chars : (optionText (flag, value)).toList =
      '-' :: '-' :: c :: (cs ++ '=' :: value.toList) := by
    simp [optionText, name]
  have taken : (c :: (cs ++ '=' :: value.toList)).takeWhile (· != '=') = c :: cs := by
    rw [← List.cons_append, List.takeWhile_append_of_pos]
    · simp
    · intro d mem
      simp only [bne_iff_ne, ne_eq]
      rintro rfl
      exact plain mem
  have same : String.ofList (c :: cs) = flag.longName := by rw [← name, String.ofList_toList]
  rw [Shape.of, chars]
  simp only [taken, same]
  simp

/-- A long option of a command is known. -/
theorem Verb.find?_longName {verb : Verb} {flag : Flag} (h : flag ∈ verb.flags) :
    verb.flags.find? (·.longName == flag.longName) = some flag := by
  revert h
  cases verb <;> cases flag <;> decide

/-- Options are taken in one after the other, however each of them is written, if none of them comes
twice. -/
theorem readArguments_flatMap {α : Type} {verb : Verb} {words : α → List String}
    (option : α → Flag × String) {xs : List α}
    (step : ∀ x ∈ xs, ∀ (m : Matches) (rest : List String), m.value? (option x).1 = none →
      readArguments verb m none (words x ++ rest) =
        readArguments verb { m with options := option x :: m.options } none rest)
    {m : Matches} (distinct : (xs.map fun x ↦ (option x).1).Nodup)
    (fresh : ∀ x ∈ xs, m.value? (option x).1 = none) (rest : List String) :
    readArguments verb m none (xs.flatMap words ++ rest) =
      readArguments verb { m with options := (xs.map option).reverse ++ m.options } none rest := by
  induction xs generalizing m with
  | nil => rfl
  | cons x xs ih =>
    obtain ⟨first, step⟩ := List.forall_mem_cons.mp step
    obtain ⟨notGiven, fresh⟩ := List.forall_mem_cons.mp fresh
    obtain ⟨notAgain, distinct⟩ := List.nodup_cons.mp distinct
    have freshAfter : ∀ y ∈ xs,
        ({ m with options := option x :: m.options } : Matches).value? (option y).1 = none := by
      intro y mem
      have different : ((option y).1 == (option x).1) = false := by
        rw [beq_eq_false_iff_ne]
        exact fun same ↦ notAgain (List.mem_map.mpr ⟨y, mem, same⟩)
      change List.lookup (option y).1 (((option x).1, (option x).2) :: m.options) = none
      rw [List.lookup_cons, different]
      exact fresh y mem
    rw [List.flatMap_cons, List.append_assoc, first m _ notGiven, ih step distinct freshAfter,
      List.map_cons, List.reverse_cons, List.append_assoc]
    rfl

/-- An option that was not given before is taken in with a value that it accepts. -/
theorem Matches.addOption_eq_ok {m : Matches} {flag : Flag} {value : String}
    (takes : flag.takesValue = true) (accepted : flag.accepts value = true)
    (fresh : m.value? flag = none) :
    m.addOption flag value = .ok { m with options := (flag, value) :: m.options } := by
  have notHelp : flag ≠ .help := by
    rintro rfl
    cases takes
  simp [Matches.addOption, notHelp, Matches.has, fresh, accepted]

private theorem readArguments_options {verb : Verb} {options : List (Flag × String)}
    (known : ∀ o ∈ options, o.1 ∈ verb.flags ∧ o.1.takesValue = true ∧ o.1.accepts o.2 = true)
    {m : Matches} (distinct : (options.map Prod.fst).Nodup)
    (fresh : ∀ o ∈ options, m.value? o.1 = none) (rest : List String) :
    readArguments verb m none (options.map optionText ++ rest) =
      readArguments verb { m with options := options.reverse ++ m.options } none rest := by
  have step : ∀ o ∈ options, ∀ (m : Matches) (rest : List String), m.value? o.1 = none →
      readArguments verb m none ([optionText o] ++ rest) =
        readArguments verb { m with options := o :: m.options } none rest := by
    intro o mem m rest fresh
    obtain ⟨among, takes, accepted⟩ := known o mem
    rw [List.singleton_append, readArguments, Shape.of_optionText]
    simp only [Verb.find?_longName among, takes, if_true,
      Matches.addOption_eq_ok takes accepted fresh]
    rfl
  rw [List.map_eq_flatMap]
  simpa using readArguments_flatMap id step distinct fresh rest

/-! ### Lines -/

/-- An option, if it has a value. -/
def given (flag : Flag) (value : Option String) : List (Flag × String) :=
  value.toList.map fun v ↦ (flag, v)

/-- The name of a kind. -/
def SymbolKind.word : SymbolKind → String
  | type => "type"
  | module => "module"
  | function => "function"
  | method => "method"
  | descriptor => "descriptor"

private theorem SymbolKind.ofWord?_word (kind : SymbolKind) : ofWord? kind.word = some kind := by
  cases kind <;> rfl

/-- The options for looking a symbol up. -/
def lookupOptions (index : Option String) (kind : SymbolKind)
    (moduleName typeName : Option String) : List (Flag × String) :=
  given .index index ++ ((.kind, kind.word) ::
    (given .moduleName moduleName ++ given .typeName typeName))

/-- The arguments that ask for a symbol of a kind, or for its file. -/
def lookupLine (program : String) (onlyFile : Bool) (index : Option String) (name : String)
    (kind : SymbolKind) (moduleName typeName : Option String) : List String :=
  program :: (if onlyFile then "file" else "source") ::
    ((lookupOptions index kind moduleName typeName).map optionText ++ ["--", name])

/-- The arguments that ask for the object in the input, or for its file. -/
def inspectLine (program : String) (onlyFile : Bool) (index : Option String) : List String :=
  program :: "inspect" ::
    ((given .index index).map optionText ++ ((if onlyFile then ["--file"] else []) ++ ["-"]))

/-- Asking for a symbol, or for its file. -/
def lookupRequest (onlyFile : Bool) (symbol : Symbol) : Request :=
  if onlyFile then .file symbol else .source symbol

variable {index : Option String}

private theorem accepts_of_mem_given {verb : Verb} {flag : Flag} {value : Option String}
    (among : flag ∈ verb.flags) (takes : flag.takesValue = true)
    (accepted : ∀ v, value = some v → flag.accepts v = true) :
    ∀ o ∈ given flag value, o.1 ∈ verb.flags ∧ o.1.takesValue = true ∧ o.1.accepts o.2 = true := by
  intro o mem
  cases value with
  | none => cases mem
  | some v =>
    rw [List.mem_singleton.mp mem]
    exact ⟨among, takes, accepted v rfl⟩

/-- A command word is no option and not the word for help. -/
theorem commandWord_of_ofWord? {word : String} {verb : Verb}
    (known : Verb.ofWord? word = some verb) :
    word ∈ commandWords ∧ Shape.of word = .operand ∧ word ≠ "help" ∧
      ∀ rest, markFirst (word :: rest) = word :: rest := by
  have plain : word ∈ commandWords ∧ Shape.of word = .operand ∧ word ≠ "help" ∧ word ≠ "--" ∧
      word ≠ "--index" ∧ word.toList.head? ≠ some '-' := by
    unfold Verb.ofWord? at known
    split at known
    all_goals first
      | exact ⟨by decide, rfl, by decide, by decide, by decide, by decide⟩
      | cases known
  obtain ⟨isCommand, operand, notHelp, notEscape, notIndex, noDash⟩ := plain
  refine ⟨isCommand, operand, notHelp, fun rest ↦ ?_⟩
  rw [markFirst, if_neg noDash, markSymbol, if_pos isCommand]
  · exact notEscape
  · exact fun same _ ↦ notIndex same
  · exact fun _ _ same _ ↦ notIndex same

private theorem parseArguments_word (program : String) {word : String} {verb : Verb}
    (known : Verb.ofWord? word = some verb) {arguments : List String} {request : Request}
    (read : readCommand verb arguments = .ok (index, request)) :
    parseArguments (withSourceCommand (program :: word :: arguments)) = .ok ⟨index, request⟩ := by
  obtain ⟨-, operand, notHelp, unmarked⟩ := commandWord_of_ofWord? known
  rw [withSourceCommand, unmarked]
  simp [parseArguments, readLead, operand, notHelp, known, read, Lead.resolve, bind, Except.bind]

/-- The verb that asks for a symbol, or for its file. -/
def lookupVerb (onlyFile : Bool) : Verb := if onlyFile then .file else .source

private theorem accepts_of_mem_lookupOptions (onlyFile : Bool)
    (nonempty : ∀ i, index = some i → i ≠ "") (kind : SymbolKind)
    (moduleName typeName : Option String) :
    ∀ o ∈ lookupOptions index kind moduleName typeName,
      o.1 ∈ (lookupVerb onlyFile).flags ∧ o.1.takesValue = true ∧ o.1.accepts o.2 = true := by
  have among : ∀ flag ∈ [.index, .kind, .moduleName, .typeName],
      flag ∈ (lookupVerb onlyFile).flags := by
    cases onlyFile <;> decide
  have isKind : Flag.kind.accepts kind.word = true := by
    rw [Flag.accepts, SymbolKind.ofWord?_word]
    rfl
  refine List.forall_mem_append.mpr ⟨?_, List.forall_mem_cons.mpr
    ⟨⟨among .kind (by decide), rfl, isKind⟩, List.forall_mem_append.mpr ⟨?_, ?_⟩⟩⟩
  · exact accepts_of_mem_given (among _ (by decide)) rfl fun i same ↦ by
      simpa [Flag.accepts] using nonempty i same
  · exact accepts_of_mem_given (among _ (by decide)) rfl fun _ _ ↦ rfl
  · exact accepts_of_mem_given (among _ (by decide)) rfl fun _ _ ↦ rfl

private theorem value?_lookupOptions (index : Option String) (kind : SymbolKind)
    (moduleName typeName : Option String) (operands : List String) :
    let m : Matches := ⟨(lookupOptions index kind moduleName typeName).reverse, operands⟩
    m.value? .index = index ∧ m.value? .kind = some kind.word ∧ m.value? .moduleName = moduleName ∧
      m.value? .typeName = typeName := by
  cases index <;> cases moduleName <;> cases typeName <;> exact ⟨rfl, rfl, rfl, rfl⟩

/-- Every lookup can be asked for. -/
theorem parseArguments_lookupLine (program : String) (onlyFile : Bool)
    (nonempty : ∀ i, index = some i → i ≠ "") (name : String) (kind : SymbolKind)
    (moduleName typeName : Option String) :
    parseArguments (withSourceCommand
        (lookupLine program onlyFile index name kind moduleName typeName)) =
      .ok ⟨index, lookupRequest onlyFile (symbolOfKind name kind moduleName typeName)⟩ := by
  have distinct : ((lookupOptions index kind moduleName typeName).map Prod.fst).Nodup := by
    cases index <;> cases moduleName <;> cases typeName <;> simp [lookupOptions, given]
  have read := readArguments_options
    (accepts_of_mem_lookupOptions onlyFile nonempty kind moduleName typeName) (m := {}) distinct
    (fun _ _ ↦ rfl) ["--", name]
  have word : Verb.ofWord? (if onlyFile then "file" else "source") =
      some (lookupVerb onlyFile) := by
    cases onlyFile <;> rfl
  obtain ⟨hasIndex, hasKind, hasModule, hasType⟩ :=
    value?_lookupOptions index kind moduleName typeName [name]
  have symbol :
      Matches.symbol ⟨(lookupOptions index kind moduleName typeName).reverse, [name]⟩ name =
        symbolOfKind name kind moduleName typeName := by
    rw [Matches.symbol, hasKind, hasModule, hasType, Option.bind_some, SymbolKind.ofWord?_word]
    rfl
  refine parseArguments_word program word ?_
  rw [readCommand, read, readArguments]
  cases onlyFile <;>
    simp [Shape.of, Matches.addOperand, lookupVerb, Verb.maximalOperands?, Verb.takesPaths, bind,
      Except.bind, Matches.command?, pure, Except.pure, hasIndex, symbol, lookupRequest]

/-- The object in the input can be asked for. -/
theorem parseArguments_inspectLine (program : String) (onlyFile : Bool)
    (nonempty : ∀ i, index = some i → i ≠ "") :
    parseArguments (withSourceCommand (inspectLine program onlyFile index)) =
      .ok ⟨index, .inspect "-" onlyFile⟩ := by
  have distinct : ((given .index index).map Prod.fst).Nodup := by
    cases index <;> simp [given]
  have known : ∀ o ∈ given .index index,
      o.1 ∈ Verb.inspect.flags ∧ o.1.takesValue = true ∧ o.1.accepts o.2 = true :=
    accepts_of_mem_given (by decide) rfl fun i same ↦ by
      simpa [Flag.accepts] using nonempty i same
  have read := readArguments_options known (m := {}) distinct (fun _ _ ↦ rfl)
    ((if onlyFile then ["--file"] else []) ++ ["-"])
  have last (m : Matches) (operands : m.operands = []) : readArguments .inspect m none ["-"] =
      .ok { m with operands := ["-"] } := by
    simp [readArguments, Shape.of, Matches.addOperand, Verb.maximalOperands?, Verb.takesPaths, bind,
      Except.bind, operands]
  have flag (m : Matches) (fresh : m.value? .onlyFile = none) (rest : List String) :
      readArguments .inspect m none ("--file" :: rest) =
        readArguments .inspect { m with options := (.onlyFile, "") :: m.options } none rest := by
    have shape : Shape.of "--file" = .long "file" none := rfl
    simp [readArguments, shape, Verb.flags, Flag.longName, Flag.takesValue, Matches.addOption,
      Flag.accepts, Matches.has, fresh, bind, Except.bind]
  have ungiven : (given .index index).reverse.lookup .onlyFile = none := by
    cases index <;> rfl
  have word : Verb.ofWord? "inspect" = some .inspect := rfl
  refine parseArguments_word program word ?_
  rw [readCommand, read]
  cases onlyFile with
  | false =>
    rw [if_neg Bool.false_ne_true, List.nil_append, last _ rfl]
    cases index <;> rfl
  | true =>
    rw [if_pos rfl, List.singleton_append, flag _ (by simpa [Matches.value?] using ungiven),
      last _ rfl]
    cases index <;> rfl

end BuiltinAtlas.Command
