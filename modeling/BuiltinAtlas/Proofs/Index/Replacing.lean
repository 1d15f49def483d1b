import BuiltinAtlas.Proofs.Index.Log

/-!
# Replacing what a file contributed

What an atlas holds once fresh findings have taken the place of what a file contributed before
(`Atlas.replaced_replaceFile`), for any atlas and any findings. In the parts that record files, the
entries of that file give way and those of other files stay, unless their names are used anew. A
table gives way if all functions that it lists were recorded for that file before anything was
dropped.
-/

namespace BuiltinAtlas

/-- Fresh entries have taken the place of those from the file at a path. -/
structure Replaced {β : Type} (file : β → String) (path : String)
    (before fresh after : Dictionary β) : Prop where
  /-- The entries are the fresh ones, and under other keys those from other files. -/
  find?_iff (key : String) (e : β) : after.find? key = some e ↔
    fresh.find? key = some e ∨
      fresh.find? key = none ∧ before.find? key = some e ∧ file e ≠ path
  /-- If all fresh entries are from the file, they are all that there is from it. -/
  own : (∀ key e, fresh.find? key = some e → file e = path) → ∀ key e,
    (after.find? key = some e ∧ file e = path ↔ fresh.find? key = some e)
  /-- An entry from another file is untouched, unless a fresh one has its key. -/
  other (key : String) (e : β) : before.find? key = some e → file e ≠ path →
    fresh.find? key = none → after.find? key = some e

/-- A table lists a C name that is unknown, or is that of a function in another file. -/
def Atlas.ListsForeign (a : Atlas) (path : String) (table : MethodTable) : Prop :=
  ∃ name c, table.find? name = some c ∧
    (a.functions.find? c = none ∨ ∃ e, a.functions.find? c = some e ∧ e.path ≠ path)

private theorem Replaced.of_find?_eq {β : Type} {file : β → String} {path : String}
    {before fresh after : Dictionary β}
    (h : ∀ key, after.find? key =
      (fresh.find? key).or ((before.find? key).filter fun e ↦ file e != path)) :
    Replaced file path before fresh after := by
  have holds (key : String) (e : β) : after.find? key = some e ↔
      fresh.find? key = some e ∨
        fresh.find? key = none ∧ before.find? key = some e ∧ file e ≠ path := by
    simp [h, Option.or_eq_some_iff, Option.filter_eq_some_iff]
  refine ⟨holds, fun all key e ↦ ?_, fun key e known elsewhere unused ↦ ?_⟩
  · constructor
    · rintro ⟨now, here⟩
      rcases (holds key e).mp now with new | ⟨-, -, elsewhere⟩
      · exact new
      · exact absurd here elsewhere
    · intro new
      exact ⟨(holds key e).mpr (.inl new), all key e new⟩
  · exact (holds key e).mpr (.inr ⟨unused, known, elsewhere⟩)

namespace Atlas

/-- A table does not belong to a file if it is empty or lists a foreign function. -/
theorem tableBelongsTo_eq_false_iff {a : Atlas} {path : String} {table : MethodTable} :
    a.tableBelongsTo path table = false ↔ table = .empty ∨ a.ListsForeign path table := by
  have empty : table.isEmpty = true ↔ table = .empty := by
    rw [Dictionary.isEmpty, List.isEmpty_iff]
    exact ⟨fun h ↦ Dictionary.ext h, congrArg Dictionary.entries⟩
  have listed (c : String) : c ∈ table.values ↔ ∃ name, table.find? name = some c := by
    simp [Dictionary.values, ← Dictionary.mem_entries_iff]
  have foreign (c : String) : (a.functions.find? c).any (·.path == path) = false ↔
      a.functions.find? c = none ∨ ∃ e, a.functions.find? c = some e ∧ e.path ≠ path := by
    cases a.functions.find? c <;> simp
  rw [tableBelongsTo, Bool.and_eq_false_iff, Bool.not_eq_false', empty, List.all_eq_false,
    ListsForeign]
  simp only [Bool.not_eq_true, foreign, listed]
  constructor
  · rintro (none | ⟨c, ⟨name, found⟩, unknown⟩)
    · exact .inl none
    · exact .inr ⟨name, c, found, unknown⟩
  · rintro (none | ⟨name, c, found, unknown⟩)
    · exact .inl none
    · exact .inr ⟨c, ⟨name, found⟩, unknown⟩

/-- Fresh findings take the place of what a file contributed to each part, its digest is the fresh
one, and the tables are the fresh ones, and under other names those that are empty or list a foreign
function. -/
theorem replaced_replaceFile (a : Atlas) (path : String) (fresh : Findings) (digest : String) :
    Replaced (·.path) path a.types fresh.types (a.replaceFile path fresh digest).types ∧
    Replaced (·.path) path a.modules fresh.modules (a.replaceFile path fresh digest).modules ∧
    Replaced (·.path) path a.functions fresh.functions
      (a.replaceFile path fresh digest).functions ∧
    (∀ file, (a.replaceFile path fresh digest).digests.find? file =
      if file = path then some digest else a.digests.find? file) ∧
    ∀ name table, (a.replaceFile path fresh digest).tables.find? name = some table ↔
      fresh.tables.find? name = some table ∨
        fresh.tables.find? name = none ∧ a.tables.find? name = some table ∧
          (table = .empty ∨ a.ListsForeign path table) := by
  refine ⟨.of_find?_eq ?_, .of_find?_eq ?_, .of_find?_eq ?_, ?_, fun name table ↦ ?_⟩
  · exact Part.types.find?_replaceFile a path fresh digest
  · exact Part.modules.find?_replaceFile a path fresh digest
  · exact Part.functions.find?_replaceFile a path fresh digest
  · exact fun file ↦ digest?_replaceFile a path file fresh digest
  · rw [find?_tables_replaceFile, Option.or_eq_some_iff, Option.filter_eq_some_iff,
      ← tableBelongsTo_eq_false_iff, Bool.not_eq_true']

end Atlas

/-! Two files have a function each, which three tables list: one of them each function alone, the
third both. When the first file is indexed again it has another function. -/

namespace Succession

/-- The functions of the two files, with the tables. -/
def before : Atlas where
  functions := .ofList [("f", ⟨"int f();", "a.c"⟩), ("g", ⟨"int g();", "b.c"⟩)]
  tables := .ofList [("F", .ofList [("f", "f")]), ("G", .ofList [("g", "g")]),
    ("Both", .ofList [("f", "f"), ("g", "g")])]
  digests := .ofList [("a.c", "1"), ("b.c", "2")]

/-- The new function of the first file. -/
def fresh : Findings where
  functions := .ofList [("h", ⟨"int h();", "a.c"⟩)]

/-- Only the new function is from the first file then, and only the table of its former function is
gone. -/
theorem replaced_replaceFile_fresh :
    (∀ key e, (before.replaceFile "a.c" fresh "3").functions.find? key = some e ∧
      e.path = "a.c" ↔ fresh.functions.find? key = some e) ∧
    (before.replaceFile "a.c" fresh "3").functions.find? "g" = some ⟨"int g();", "b.c"⟩ ∧
    (before.replaceFile "a.c" fresh "3").tables.find? "F" = none ∧
    ∃ table, (before.replaceFile "a.c" fresh "3").tables.find? "Both" = some table := by
  obtain ⟨-, -, functions, -, tables⟩ := before.replaced_replaceFile "a.c" fresh "3"
  refine ⟨functions.own ?_, functions.other _ _ rfl (by decide) rfl, ?_, _,
    (tables "Both" _).mpr (.inr ⟨rfl, rfl, .inr ⟨"g", "g", rfl, .inr ⟨_, rfl, by decide⟩⟩⟩)⟩
  · intro key e new
    rw [← Dictionary.mem_entries_iff] at new
    have all : ∀ entry ∈ fresh.functions.entries, entry.2.path = "a.c" := by decide
    exact all _ new
  · rw [Option.eq_none_iff_forall_ne_some]
    intro table still
    rcases (tables "F" table).mp still with no | ⟨-, listed, kept⟩
    · cases no
    · have belongs : before.tableBelongsTo "a.c" table = true := by
        cases listed
        decide
      rw [Atlas.tableBelongsTo_eq_false_iff.mpr kept] at belongs
      cases belongs

end Succession

end BuiltinAtlas
