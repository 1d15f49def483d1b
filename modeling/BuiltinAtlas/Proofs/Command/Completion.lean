import BuiltinAtlas.Command.Shorthand

/-!
# Where a line is completed

The search for a command passes over options, and over the file behind `--index`, until it reaches
a word. `withSourceCommand_insertion`: the word `source` is put in front of the word that is
reached, unless that is a command, and a line that has been completed is left alone.
-/

namespace BuiltinAtlas.Command

/-- The search for a command comes to an offset. It begins behind the name of the program. -/
inductive Searches (args : List String) : Nat → Prop
  | first : Searches args 1
  /-- What stands behind `--index` is its file, if anything does. -/
  | file {i : Nat} : Searches args i → args[i]? = some "--index" → Searches args (i + 2)
  | option {i : Nat} {word : String} : Searches args i → args[i]? = some word →
      word.toList.head? = some '-' → word ≠ "--" → word ≠ "--index" → Searches args (i + 1)

/-- The search for a command ends at an offset with a word: the first one that begins with no dash,
or the one behind the escape. -/
inductive Reaches (args : List String) : Nat → String → Prop
  | plain {i : Nat} {word : String} : Searches args i → args[i]? = some word →
      word.toList.head? ≠ some '-' → Reaches args i word
  | escaped {i : Nat} {word : String} : Searches args i → args[i]? = some "--" →
      args[i + 1]? = some word → Reaches args (i + 1) word

variable {args args' : List String} {i : Nat} {word : String}

/-! ### What the search passes over -/

private theorem markFirst_index (rest : List String) :
    markFirst ("--index" :: rest) = "--index" :: (rest.take 1 ++ markFirst (rest.drop 1)) := by
  cases rest with
  | nil => rfl
  | cons file rest => simp [markFirst]

private theorem markFirst_option (dash : word.toList.head? = some '-') (notEscape : word ≠ "--")
    (notIndex : word ≠ "--index") (rest : List String) :
    markFirst (word :: rest) = word :: markFirst rest := by
  rw [markFirst, if_pos dash]
  · exact notEscape
  · exact fun same _ ↦ notIndex same
  · exact fun _ _ same _ ↦ notIndex same

/-- A word that begins with no dash ends the search. -/
theorem markFirst_plain (undashed : word.toList.head? ≠ some '-') (rest : List String) :
    markFirst (word :: rest) = markSymbol (word :: rest) := by
  rw [markFirst, if_neg undashed]
  · rintro rfl
    exact undashed rfl
  · rintro rfl
    exact fun _ ↦ undashed rfl
  · rintro _ _ rfl
    exact fun _ ↦ undashed rfl

private theorem drop_eq_cons_iff {rest : List String} :
    args.drop i = word :: rest ↔ args[i]? = some word ∧ args.drop (i + 1) = rest := by
  rw [← List.head?_drop, ← List.tail_drop]
  constructor
  · intro same
    rw [same]
    exact ⟨rfl, rfl⟩
  · rintro ⟨head, rfl⟩
    obtain ⟨rest, same⟩ := List.head?_eq_some_iff.mp head
    rw [same, List.tail_cons]

private theorem drop_eq_cons (here : args[i]? = some word) :
    args.drop i = word :: args.drop (i + 1) :=
  drop_eq_cons_iff.mpr ⟨here, rfl⟩

private theorem Searches.withSourceCommand_eq (h : Searches args i) :
    withSourceCommand args = args.take i ++ markFirst (args.drop i) := by
  induction h with
  | first => cases args <;> rfl
  | @file i _ index ih =>
    rw [ih, drop_eq_cons index, markFirst_index, List.drop_drop, List.take_add (j := 2),
      drop_eq_cons index, List.take_succ_cons, List.append_assoc, List.cons_append]
  | @option i word _ here dash notEscape notIndex ih =>
    rw [ih, drop_eq_cons here, markFirst_option dash notEscape notIndex, List.take_add_one, here,
      List.append_assoc, Option.toList_some, List.singleton_append]

private theorem Reaches.withSourceCommand_eq (h : Reaches args i word) :
    withSourceCommand args = args.take i ++ markSymbol (word :: args.drop (i + 1)) := by
  cases h with
  | plain searches here undashed =>
    rw [searches.withSourceCommand_eq, drop_eq_cons here, markFirst_plain undashed]
  | @escaped i _ searches escape here =>
    rw [searches.withSourceCommand_eq, drop_eq_cons escape, markFirst, drop_eq_cons here,
      List.take_add_one, escape, List.append_assoc, Option.toList_some, List.singleton_append]

/-! ### Insertion -/

private theorem Searches.one_le (h : Searches args i) : 1 ≤ i := by
  cases h with
  | first => exact Nat.le_refl 1
  | file => exact Nat.le_add_left 1 _
  | option => exact Nat.le_add_left 1 _

/-- The word that is reached is an argument. -/
theorem Reaches.bounds (h : Reaches args i word) : 1 ≤ i ∧ args[i]? = some word := by
  cases h with
  | plain searches here => exact ⟨searches.one_le, here⟩
  | escaped searches _ here => exact ⟨Nat.le_add_left 1 _, here⟩

private theorem insertIdx_eq_take_append (inside : i ≤ args.length) :
    args.insertIdx i word = args.take i ++ word :: args.drop i := by
  induction args generalizing i with
  | nil =>
    obtain rfl := Nat.le_zero.mp inside
    rfl
  | cons first args ih =>
    cases i with
    | zero => rfl
    | succ i =>
      rw [List.insertIdx_succ_cons, ih (Nat.le_of_succ_le_succ inside)]
      rfl

private theorem Reaches.insertion (h : Reaches args i word) (unknown : word ∉ commandWords) :
    withSourceCommand args = args.insertIdx i "source" := by
  obtain ⟨-, here⟩ := h.bounds
  obtain ⟨inside, -⟩ := List.getElem?_eq_some_iff.mp here
  rw [h.withSourceCommand_eq, markSymbol, if_neg unknown,
    insertIdx_eq_take_append (Nat.le_of_lt inside), drop_eq_cons here]

private theorem Searches.exists_reaches {rest : List String} (h : Searches args i)
    (behind : args.drop i = rest) (changed : markFirst rest ≠ rest) :
    ∃ j word, Reaches args j word ∧ word ∉ commandWords := by
  fun_induction markFirst rest generalizing i with
  | case1 => exact absurd rfl changed
  | case2 rest =>
    obtain ⟨escape, behind⟩ := drop_eq_cons_iff.mp behind
    cases rest with
    | nil => exact absurd rfl changed
    | cons word rest =>
      refine ⟨i + 1, word, .escaped h escape (drop_eq_cons_iff.mp behind).1, fun known ↦ ?_⟩
      rw [markSymbol, if_pos known] at changed
      exact changed rfl
  | case3 => exact absurd rfl changed
  | case4 file rest ih =>
    obtain ⟨index, behind⟩ := drop_eq_cons_iff.mp behind
    exact ih (h.file index) (drop_eq_cons_iff.mp behind).2 fun same ↦ changed (by rw [same])
  | case5 word rest notEscape notIndex notIndex' dash ih =>
    obtain ⟨here, behind⟩ := drop_eq_cons_iff.mp behind
    refine ih (h.option here dash notEscape ?_) behind fun same ↦ changed (by rw [same])
    rintro rfl
    cases rest with
    | nil => exact notIndex rfl rfl
    | cons file rest => exact notIndex' file rest rfl rfl
  | case6 word rest _ _ _ undashed =>
    refine ⟨i, word, .plain h (drop_eq_cons_iff.mp behind).1 undashed, fun known ↦ ?_⟩
    rw [markSymbol, if_pos known] at changed
    exact changed rfl

/-! ### Completing a line again -/

/-- The search comes to the same offsets of lines that are the same in front of them. -/
theorem Searches.congr (h : Searches args i) (same : ∀ k < i, args'[k]? = args[k]?) :
    Searches args' i := by
  induction h with
  | first => exact .first
  | @file i _ index ih =>
    exact .file (ih fun k before ↦ same k (by omega)) ((same i (by omega)).trans index)
  | @option i word _ here dash notEscape notIndex ih =>
    exact .option (ih fun k before ↦ same k (by omega)) ((same i (by omega)).trans here) dash
      notEscape notIndex

private theorem Reaches.insertIdx (h : Reaches args i word) {fresh : String}
    (undashed : fresh.toList.head? ≠ some '-') : Reaches (args.insertIdx i fresh) i fresh := by
  obtain ⟨-, here⟩ := h.bounds
  obtain ⟨inside, -⟩ := List.getElem?_eq_some_iff.mp here
  have before (k : Nat) (less : k < i) : (args.insertIdx i fresh)[k]? = args[k]? :=
    List.getElem?_insertIdx_of_lt less
  have inserted : (args.insertIdx i fresh)[i]? = some fresh := by
    rw [List.getElem?_insertIdx_self, if_pos (Nat.le_of_lt inside)]
  cases h with
  | plain searches => exact .plain (searches.congr before) inserted undashed
  | escaped searches escape =>
    exact .escaped (searches.congr fun k less ↦ before k (Nat.lt_succ_of_lt less))
      ((before _ (Nat.lt_succ_self _)).trans escape) inserted

/-- A line is left alone or completed by one word `source` behind the name of the program: right in
front of the word at which the search for a command ends, if that is no command. Completing it again
changes nothing. -/
theorem withSourceCommand_insertion (args : List String) :
    (withSourceCommand args = args ∨
      ∃ i, 1 ≤ i ∧ i < args.length ∧ withSourceCommand args = args.insertIdx i "source") ∧
    (withSourceCommand args ≠ args ↔ ∃ i word, Reaches args i word ∧ word ∉ commandWords) ∧
    (∀ i word, Reaches args i word → word ∉ commandWords →
      withSourceCommand args = args.insertIdx i "source") ∧
    withSourceCommand (withSourceCommand args) = withSourceCommand args := by
  have reached (changed : withSourceCommand args ≠ args) :
      ∃ i word, Reaches args i word ∧ word ∉ commandWords := by
    refine Searches.first.exists_reaches rfl fun same ↦ changed ?_
    rw [Searches.first.withSourceCommand_eq, same, List.take_append_drop]
  refine ⟨?_, ⟨reached, ?_⟩, fun _ _ ↦ Reaches.insertion, ?_⟩
  · refine Decidable.or_iff_not_imp_left.mpr fun changed ↦ ?_
    obtain ⟨i, word, reaches, unknown⟩ := reached changed
    obtain ⟨behind, here⟩ := reaches.bounds
    exact ⟨i, behind, (List.getElem?_eq_some_iff.mp here).1, reaches.insertion unknown⟩
  · rintro ⟨i, word, reaches, unknown⟩ same
    obtain ⟨inside, -⟩ := List.getElem?_eq_some_iff.mp reaches.bounds.2
    have longer := List.length_insertIdx_of_le_length (Nat.le_of_lt inside) "source"
    rw [← reaches.insertion unknown, same] at longer
    omega
  · by_cases same : withSourceCommand args = args
    · rw [same, same]
    · obtain ⟨i, word, reaches, unknown⟩ := reached same
      have again : Reaches (withSourceCommand args) i "source" := by
        rw [reaches.insertion unknown]
        exact reaches.insertIdx (by decide)
      rw [again.withSourceCommand_eq, markSymbol, if_pos (by decide),
        ← drop_eq_cons again.bounds.2, List.take_append_drop]

/-! A file is passed over although it has the name of a command, and a word behind the escape is
reached although it begins with a dash. -/

namespace Mixed

/-- Options, an index file and the escape stand in front of a symbol. -/
def escapedLine : List String := ["cinspect", "-q", "--index", "stats", "--", "--index"]

/-- The symbol behind the escape is reached, and the line is completed there once. -/
theorem withSourceCommand_insertion_escaped :
    Reaches escapedLine 5 "--index" ∧ "--index" ∉ commandWords ∧
      withSourceCommand escapedLine = escapedLine.insertIdx 5 "source" ∧
      withSourceCommand (withSourceCommand escapedLine) = withSourceCommand escapedLine := by
  have here : escapedLine[1]? = some "-q" := rfl
  have option : Searches escapedLine 2 := .option .first here rfl (by decide) (by decide)
  have reaches : Reaches escapedLine 5 "--index" := .escaped (.file option rfl) rfl rfl
  have unknown : "--index" ∉ commandWords := by decide
  obtain ⟨-, -, insertion, again⟩ := withSourceCommand_insertion escapedLine
  exact ⟨reaches, unknown, insertion 5 "--index" reaches unknown, again⟩

end Mixed

end BuiltinAtlas.Command
