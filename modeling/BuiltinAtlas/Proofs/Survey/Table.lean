import BuiltinAtlas.Proofs.Dictionary.Lookup
import BuiltinAtlas.Proofs.Survey.Rearrangement

/-!
# What a method table lists

An entry of a method table counts if it lists exactly four fields, of which the first is a literal
in plain quotes and the second some leaf (`Construct.Pairs`). Of the entries that count for one
method the last one decides. All others, such as the one that marks the end, have no say wherever
they stand (`Construct.lastPair_of_namedTable?`).
-/

namespace BuiltinAtlas

namespace Construct

/-- An entry pairs a method with a text: it lists exactly four fields, of which the first comes down
to the name of the method in plain quotes, and the second to a leaf with that text. -/
def Pairs (entry : Construct) (method text : String) : Prop :=
  ∃ a b c d, entry.Lists [a, b, c, d] ∧ a.Quotes method ∧ b.Spells text

/-- What an entry of a table is read as is what it pairs. -/
theorem tableEntry?_value_iff {entry : Construct} {method text : String} :
    tableEntry? entry.value = some (method, text) ↔ entry.Pairs method text := by
  constructor
  · intro h
    unfold tableEntry? at h
    split at h
    · next items =>
      obtain ⟨fields, lists, same⟩ := exists_lists_of_items items
      simp only [List.map_eq_cons_iff, List.map_eq_nil_iff] at same
      obtain ⟨a, _, rfl, rfl, b, _, rfl, rfl, c, _, rfl, rfl, d, _, rfl, rfl, rfl⟩ := same
      simp only [Option.bind_eq_bind, Option.bind_eq_some_iff] at h
      obtain ⟨_, quotes, _, spells, same⟩ := h
      cases same
      exact ⟨a, b, c, d, lists, unquoted?_value_iff.mp quotes, spelling?_value_iff.mp spells⟩
    · cases h
  · rintro ⟨a, b, c, d, lists, quotes, spells⟩
    unfold tableEntry?
    rw [lists.value_eq]
    simp only [Value.items, List.map_cons, List.map_nil, unquoted?_value_iff.mpr quotes,
      spelling?_value_iff.mpr spells]
    rfl

variable {c initializer : Construct}

/-- A table in braces is read entry by entry. -/
theorem namedTable?_eq (first : c.parts.head? = some initializer)
    (braces : initializer.kind = .initializerList) :
    c.namedTable? = some (c.spelling,
      .ofList (initializer.parts.filterMap fun entry ↦ tableEntry? entry.value)) := by
  rw [namedTable?, first, Option.map_some, IsList.value_eq (.inl braces), Value.items,
    List.filterMap_map]
  rfl

/-- A table in braces has the text that the last entry for a method pairs with it. It stays the same
when entries that pair nothing are put anywhere between the others. -/
theorem lastPair_of_namedTable? (first : c.parts.head? = some initializer)
    (braces : initializer.kind = .initializerList) :
    ∃ table, c.namedTable? = some (c.spelling, table) ∧
      (∀ method text, table.find? method = some text ↔
        ∃ before entry after, initializer.parts = before ++ entry :: after ∧
          entry.Pairs method text ∧ ∀ later ∈ after, ∀ other, ¬ later.Pairs method other) ∧
      ∀ (c' initializer' : Construct) (kept added : List Construct),
        c'.parts.head? = some initializer' → initializer'.kind = .initializerList →
        kept.map bare = initializer.parts.map bare →
        Interleaving kept added initializer'.parts →
        (∀ entry ∈ added, ∀ method text, ¬ entry.Pairs method text) →
        c'.namedTable? = some (c'.spelling, table) := by
  refine ⟨_, namedTable?_eq first braces, fun method text ↦ ?_, ?_⟩
  · simp only [Dictionary.find?_ofList_filterMap_iff, LastGives, ne_eq, tableEntry?_value_iff]
  · intro c' initializer' kept added first' braces' same interleaving none
    have anywhere (e : Construct) : tableEntry? e.bare.value = tableEntry? e.value := by
      rw [value_bare]
    have entries := interleaving.filterMap fun entry ↦ tableEntry? entry.value
    have nothing : added.filterMap (fun entry ↦ tableEntry? entry.value) = [] := by
      rw [List.filterMap_eq_nil_iff]
      intro entry mem
      rw [Option.eq_none_iff_forall_ne_some]
      rintro ⟨method, text⟩ paired
      exact none entry mem method text (tableEntry?_value_iff.mp paired)
    rw [nothing, filterMap_eq_of_map_bare anywhere same] at entries
    rw [namedTable?_eq first' braces', entries.eq_left]

end Construct

/-! A method is listed twice, and between and behind these entries are some that have too few
fields, are nested too deep, or begin with a literal in other quotes. -/

namespace Crowded

open Reordered (leaf)
open Construct (tableEntry?_value_iff tableEntry?)

/-- Four fields in braces: a literal, something else, and two zeros. -/
def four (literal : String) (second : Construct) (start : Nat) : Construct :=
  .mk .initializerList "" none start (second.stop + 7) [leaf .stringLiteral literal (start + 1),
    second, leaf .literal "0" (second.stop + 2), leaf .literal "0" (second.stop + 5)]

/-- The entries up to the second one that lists the method. -/
def before : List Construct := [four "\"f\"" (leaf .reference "a" 25) 19,
  .mk .initializerList "" none 35 38 [leaf .literal "0" 36]]

/-- The entry that decides. -/
def deciding : Construct :=
  four "\"f\"" (.mk .cast "" none 46 50 [leaf .reference "b" 49]) 40

/-- The entries behind it. -/
def after : List Construct :=
  [.mk .initializerList "" none 59 75 [four "\"f\"" (leaf .reference "c" 66) 60],
    four "u8\"f\"" (leaf .reference "c" 85) 77]

/-- The table in braces. -/
def entries : Construct := .mk .initializerList "" none 18 94 (before ++ deciding :: after)

/-- The table. -/
def methods : Construct := .mk .variable "M" (some "PyMethodDef") 0 95 [entries]

/-- The second entry for the method decides. -/
theorem lastPair_of_namedTable?_methods :
    ∃ table, methods.namedTable? = some ("M", table) ∧ table.find? "f" = some "b" := by
  have first : methods.parts.head? = some entries := rfl
  obtain ⟨table, read, lists, -⟩ := Construct.lastPair_of_namedTable? first rfl
  refine ⟨table, read, (lists "f" "b").mpr ⟨before, deciding, after, rfl, ?_, ?_⟩⟩
  · rw [← tableEntry?_value_iff]
    rfl
  · intro later mem other paired
    have nothing : ∀ entry ∈ after, tableEntry? entry.value = none := by decide +kernel
    rw [← tableEntry?_value_iff, nothing later mem] at paired
    cases paired

end Crowded

end BuiltinAtlas
