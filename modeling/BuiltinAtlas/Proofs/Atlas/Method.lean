import BuiltinAtlas.Atlas.Lookup
import BuiltinAtlas.Proofs.Index.Replacing

/-!
# Which table decides

Of the tables that list a method under a C name which fits the type and the module around it, the
one with the least name decides: the answer is the function of its C name, if there is one
(`Atlas.findMethod_iff`). No other table has a say, so that files which neither list the method nor
take over the deciding names can be indexed again without a change of the answer
(`Atlas.findMethod_replaceFile`).
-/

namespace BuiltinAtlas

namespace Atlas

/-- A C name begins with the name of a module, not counting all underscores in front of it. -/
def BeginsWithModule (cName moduleName : String) : Prop :=
  ∃ underscores rest, moduleName.toList = underscores ++ rest ∧ (∀ x ∈ underscores, x = '_') ∧
    rest.head? ≠ some '_' ∧ rest <+: cName.toList

/-- A table lists a method under a C name that fits the type and the module, as far as these are
given. -/
structure Accepts (a : Atlas) (name : String) (typeName moduleName : Option String)
    (key cName : String) : Prop where
  listed : ∃ table, a.tables.find? key = some table ∧ table.find? name = some cName
  ofType : ∀ t, typeName = some t → t.toList <+: cName.toList
  ofModule : ∀ m, moduleName = some m → BeginsWithModule cName m

/-- A table is the least one, in the order of code points, that accepts a method. -/
structure Decides (a : Atlas) (name : String) (typeName moduleName : Option String)
    (key cName : String) : Prop where
  accepted : a.Accepts name typeName moduleName key cName
  least : ∀ other cName', a.Accepts name typeName moduleName other cName' → key ≤ other

private theorem beginsWithModule_iff {cName moduleName : String} :
    BeginsWithModule cName moduleName ↔
      moduleName.toList.dropWhile (· == '_') <+: cName.toList := by
  constructor
  · rintro ⟨underscores, rest, split, all, first, begins⟩
    have dropped : moduleName.toList.dropWhile (· == '_') = rest := by
      rw [split, List.dropWhile_append_of_pos (by simpa using all)]
      cases rest with
      | nil => rfl
      | cons x rest => exact List.dropWhile_cons_of_neg (by simpa using first)
    rwa [dropped]
  · intro begins
    refine ⟨moduleName.toList.takeWhile (· == '_'), _, List.takeWhile_append_dropWhile.symm,
      ?_, ?_, begins⟩
    · intro x mem
      simpa using List.all_eq_true.mp List.all_takeWhile x mem
    · intro first
      have other := List.head?_dropWhile_not (· == '_') moduleName.toList
      rw [first] at other
      simp at other

variable {a : Atlas} {name : String} {typeName moduleName : Option String}

private theorem accepts_iff {key cName : String} :
    a.Accepts name typeName moduleName key cName ↔
      ∃ table, a.tables.find? key = some table ∧
        acceptedName? table name typeName moduleName = some cName := by
  -- The two filters of the search say what the two conditions on the C name say.
  have fits : (fitsType cName typeName && fitsModule cName moduleName) = true ↔
      (∀ t, typeName = some t → t.toList <+: cName.toList) ∧
        ∀ m, moduleName = some m → BeginsWithModule cName m := by
    simp [fitsType, fitsModule, beginsWithModule_iff, Option.all_eq_true]
  simp only [acceptedName?, Option.filter_eq_some_iff, fits]
  constructor
  · rintro ⟨⟨table, there, listed⟩, ofType, ofModule⟩
    exact ⟨table, there, listed, ofType, ofModule⟩
  · rintro ⟨table, there, listed, ofType, ofModule⟩
    exact ⟨⟨table, there, listed⟩, ofType, ofModule⟩

/-- A table accepts a method under one C name. -/
theorem Accepts.eq {key c c' : String} (h : a.Accepts name typeName moduleName key c)
    (h' : a.Accepts name typeName moduleName key c') : c = c' := by
  obtain ⟨table, there, listed⟩ := h.listed
  obtain ⟨table', there', listed'⟩ := h'.listed
  cases there.symm.trans there'
  exact Option.some.inj (listed.symm.trans listed')

private theorem decides_iff {key cName : String} :
    a.Decides name typeName moduleName key cName ↔
      (a.tables.find? key).bind (acceptedName? · name typeName moduleName) = some cName ∧
        ∀ e ∈ a.tables.entries, acceptedName? e.2 name typeName moduleName ≠ none → key ≤ e.1 := by
  rw [Option.bind_eq_some_iff, ← accepts_iff]
  constructor
  · intro h
    refine ⟨h.accepted, fun e mem accepted ↦ ?_⟩
    obtain ⟨c, accepted⟩ := Option.ne_none_iff_exists'.mp accepted
    exact h.least e.1 c (accepts_iff.mpr ⟨e.2, Dictionary.mem_entries_iff.mp mem, accepted⟩)
  · rintro ⟨accepted, least⟩
    refine ⟨accepted, fun other c also ↦ ?_⟩
    obtain ⟨table, there, accepted⟩ := accepts_iff.mp also
    exact least (other, table) (Dictionary.mem_entries_iff.mpr there)
      (Option.ne_none_iff_exists'.mpr ⟨c, accepted⟩)

/-- Whether a table decides can be seen from the entries. -/
instance (key cName : String) : Decidable (a.Decides name typeName moduleName key cName) :=
  decidable_of_iff _ decides_iff.symm

/-- One table decides. -/
theorem Decides.eq {key key' c c' : String} (h : a.Decides name typeName moduleName key c)
    (h' : a.Decides name typeName moduleName key' c') : key = key' ∧ c = c' := by
  have same : key = key' :=
    String.le_antisymm (h.least _ _ h'.accepted) (h'.least _ _ h.accepted)
  subst same
  exact ⟨rfl, h.accepted.eq h'.accepted⟩

private theorem exists_decides {key cName : String}
    (h : a.Accepts name typeName moduleName key cName) :
    ∃ key cName, a.Decides name typeName moduleName key cName ∧
      a.findMethod name typeName moduleName = a.functions.find? cName := by
  obtain ⟨table, there, accepted⟩ := accepts_iff.mp h
  have fits : ∃ key table, a.tables.find? key = some table ∧
      acceptedName? table name typeName moduleName ≠ none :=
    ⟨key, table, there, Option.ne_none_iff_exists'.mpr ⟨cName, accepted⟩⟩
  obtain ⟨first, table', c, there', accepted', search, least⟩ := Dictionary.findSome?_values fits
  refine ⟨first, c, ⟨accepts_iff.mpr ⟨table', there', accepted'⟩, ?_⟩, ?_⟩
  · intro other c' also
    obtain ⟨table'', there'', accepted''⟩ := accepts_iff.mp also
    exact least other table'' there'' (Option.ne_none_iff_exists'.mpr ⟨c', accepted''⟩)
  · rw [findMethod, search, Option.bind_some]

/-- The function of the C name in the deciding table is the answer. -/
theorem Decides.findMethod {key cName : String}
    (h : a.Decides name typeName moduleName key cName) :
    a.findMethod name typeName moduleName = a.functions.find? cName := by
  obtain ⟨key', c', decides, answer⟩ := exists_decides h.accepted
  obtain ⟨-, rfl⟩ := h.eq decides
  exact answer

private theorem findMethod_of_not_accepts
    (h : ∀ key cName, ¬ a.Accepts name typeName moduleName key cName) :
    a.findMethod name typeName moduleName = none := by
  have search : (a.tables.values.findSome? fun t ↦
      acceptedName? t name typeName moduleName) = none := by
    rw [List.findSome?_eq_none_iff]
    intro table mem
    obtain ⟨⟨key, table⟩, there, rfl⟩ := List.mem_map.mp mem
    rw [Option.eq_none_iff_forall_ne_some]
    intro cName accepted
    exact h key cName (accepts_iff.mpr ⟨table, Dictionary.mem_entries_iff.mp there, accepted⟩)
  rw [findMethod, search, Option.bind_none]

/-- The answer is the function of the C name in the deciding table, if there is one. An unknown C
name there ends the search, and tables that do not accept the method have no say. -/
theorem findMethod_iff (a : Atlas) (name : String) (typeName moduleName : Option String) :
    (∀ e, a.findMethod name typeName moduleName = some e ↔
      ∃ key cName, a.Decides name typeName moduleName key cName ∧
        a.functions.find? cName = some e) ∧
    ((∃ key cName, a.Accepts name typeName moduleName key cName) →
      ∃ key cName, a.Decides name typeName moduleName key cName) ∧
    (∀ key cName, a.Decides name typeName moduleName key cName →
      a.functions.find? cName = none → a.findMethod name typeName moduleName = none) ∧
    ∀ b : Atlas, b.functions = a.functions →
      (∀ key cName, b.Accepts name typeName moduleName key cName ↔
        a.Accepts name typeName moduleName key cName) →
      b.findMethod name typeName moduleName = a.findMethod name typeName moduleName := by
  refine ⟨fun e ↦ ⟨fun found ↦ ?_, ?_⟩, ?_, ?_, fun b functions same ↦ ?_⟩
  · by_cases some : ∃ key cName, a.Accepts name typeName moduleName key cName
    · obtain ⟨key, cName, accepted⟩ := some
      obtain ⟨key, cName, decides, answer⟩ := exists_decides accepted
      exact ⟨key, cName, decides, answer.symm.trans found⟩
    · rw [findMethod_of_not_accepts fun key cName h ↦ some ⟨key, cName, h⟩] at found
      cases found
  · rintro ⟨key, cName, decides, known⟩
    exact decides.findMethod.trans known
  · rintro ⟨key, cName, accepted⟩
    obtain ⟨key, cName, decides, -⟩ := exists_decides accepted
    exact ⟨key, cName, decides⟩
  · intro key cName decides unknown
    exact decides.findMethod.trans unknown
  · by_cases some : ∃ key cName, a.Accepts name typeName moduleName key cName
    · obtain ⟨key, cName, accepted⟩ := some
      obtain ⟨key, cName, decides, answer⟩ := exists_decides accepted
      have also : b.Decides name typeName moduleName key cName :=
        ⟨(same _ _).mpr decides.accepted, fun _ _ h ↦ decides.least _ _ ((same _ _).mp h)⟩
      rw [answer, also.findMethod, functions]
    · have none (key cName : String) : ¬ a.Accepts name typeName moduleName key cName :=
        fun h ↦ some ⟨key, cName, h⟩
      rw [findMethod_of_not_accepts none,
        findMethod_of_not_accepts fun key cName h ↦ none key cName ((same _ _).mp h)]

end Atlas

/-! Three tables list the same method. The function in the first one is not known, those in the
others are from two files. -/

namespace Contested

/-- The tables and the known functions. -/
def before : Atlas where
  functions := .ofList [("listappend", ⟨"listappend() \x7b\x7d", "list.c"⟩),
    ("list_add", ⟨"list_add() \x7b\x7d", "more.c"⟩)]
  tables := .ofList [("bytes_methods", .ofList [("append", "bytes_append")]),
    ("list_methods", .ofList [("append", "listappend"), ("pop", "list_pop")]),
    ("more_methods", .ofList [("append", "list_add")])]

/-- Without a type the first table decides, and there is no answer. With one, the second table
decides. -/
theorem findMethod_iff_before :
    before.findMethod "append" none none = none ∧
    before.findMethod "append" (some "list") (some "__list") =
      some ⟨"listappend() \x7b\x7d", "list.c"⟩ := by
  obtain ⟨-, -, unknown, -⟩ := before.findMethod_iff "append" none none
  obtain ⟨known, -⟩ := before.findMethod_iff "append" (some "list") (some "__list")
  exact ⟨unknown "bytes_methods" "bytes_append" (by decide) rfl,
    (known _).mpr ⟨"list_methods", "listappend", by decide, rfl⟩⟩

end Contested

namespace Atlas

variable {a : Atlas} {name path key cName : String} {typeName moduleName : Option String}
  {fresh : Findings}

/-- A table stays if it lists a function from another file and no fresh table has its name. -/
theorem Accepts.replaceFile (h : a.Accepts name typeName moduleName key cName)
    {e : Excerpt} (known : a.functions.find? cName = some e) (elsewhere : e.path ≠ path)
    (unnamed : fresh.tables.find? key = none) (digest : String) :
    (a.replaceFile path fresh digest).Accepts name typeName moduleName key cName := by
  obtain ⟨table, there, listed⟩ := h.listed
  have kept : a.tableBelongsTo path table = false :=
    tableBelongsTo_eq_false_iff.mpr (.inr ⟨name, cName, listed, .inr ⟨e, known, elsewhere⟩⟩)
  refine ⟨⟨table, ?_, listed⟩, h.ofType, h.ofModule⟩
  rw [find?_tables_replaceFile, unnamed, there, Option.none_or, Option.filter_some, kept]
  rfl

private theorem accepts_of_replaceFile {digest : String}
    (unlisted : ∀ other table, fresh.tables.find? other = some table → table.find? name = none)
    (h : (a.replaceFile path fresh digest).Accepts name typeName moduleName key cName) :
    a.Accepts name typeName moduleName key cName := by
  obtain ⟨table, there, listed⟩ := h.listed
  rw [find?_tables_replaceFile, Option.or_eq_some_iff] at there
  rcases there with new | ⟨-, old⟩
  · rw [unlisted key table new] at listed
    cases listed
  · exact ⟨⟨table, (Option.filter_eq_some_iff.mp old).1, listed⟩, h.ofType, h.ofModule⟩

/-- An answer stays the same when another file is indexed again, if that neither lists the method
nor has a table or a function with one of the names that led to the answer. -/
theorem findMethod_replaceFile {e : Excerpt}
    (decides : a.Decides name typeName moduleName key cName)
    (found : a.findMethod name typeName moduleName = some e) (elsewhere : path ≠ e.path)
    (unlisted : ∀ other table, fresh.tables.find? other = some table → table.find? name = none)
    (unnamed : fresh.tables.find? key = none) (undefined : fresh.functions.find? cName = none)
    (digest : String) :
    (a.replaceFile path fresh digest).findMethod name typeName moduleName = some e := by
  have known : a.functions.find? cName = some e := decides.findMethod.symm.trans found
  have still : (a.replaceFile path fresh digest).Decides name typeName moduleName key cName := by
    refine ⟨decides.accepted.replaceFile known elsewhere.symm unnamed digest, ?_⟩
    intro other c' accepted
    exact decides.least other c' (accepts_of_replaceFile unlisted accepted)
  have kept : (a.replaceFile path fresh digest).functions.find? cName = some e := by
    have rule := Part.functions.find?_replaceFile a path fresh digest cName
    simp only [Part.functions] at rule
    rw [rule, undefined, known, Option.none_or, Option.filter_some,
      if_pos (bne_iff_ne.mpr elsewhere.symm)]
  exact still.findMethod.trans kept

end Atlas

/-! The second of the two files is indexed again. -/

namespace Contested

/-- What is found in the second file later: a table in front of all others, which lists another
method. -/
def fresh : Findings where
  functions := .ofList [("add_pop", ⟨"add_pop() \x7b\x7d", "more.c"⟩)]
  tables := .ofList [("add_methods", .ofList [("pop", "add_pop")])]

/-- The answer stays the same although the last table is gone and another one is now the first. -/
theorem findMethod_replaceFile_before :
    (before.replaceFile "more.c" fresh "2").findMethod "append" (some "list") (some "__list") =
      some ⟨"listappend() \x7b\x7d", "list.c"⟩ ∧
    (before.replaceFile "more.c" fresh "2").tables.keys =
      ["add_methods", "bytes_methods", "list_methods"] := by
  have decides : before.Decides "append" (some "list") (some "__list") "list_methods"
      "listappend" := by decide
  refine ⟨Atlas.findMethod_replaceFile decides rfl (by decide) ?_ rfl rfl "2", by decide⟩
  intro other table found
  have mem := Dictionary.mem_entries_iff.mpr found
  have entries : fresh.tables.entries = [("add_methods", .ofList [("pop", "add_pop")])] := rfl
  rw [entries, List.mem_singleton] at mem
  cases mem
  rfl

end Contested

end BuiltinAtlas
