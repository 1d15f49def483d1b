import BuiltinAtlas.Proofs.Survey.Table
import BuiltinAtlas.Survey.Landmark

/-!
# Designated fields of method tables

An entry of a method table declares a method by two of its fields, which are those with the
designators `ml_name` and `ml_meth`, or else the first two without designators. What is read are the
first two fields as they stand, with designators or not, and the second may be any leaf. So the
table is right about an entry if and only if its fields are in order (`Construct.InOrder`) and the
second one refers to a function (`Construct.declares_of_namedTable?`).
-/

namespace BuiltinAtlas

namespace Construct

/-- The designator of a field, if it has one. -/
def designator? (c : Construct) : Option String :=
  if c.kind = .designated then some c.spelling else none

/-- The first field with a designator, or else the one at a position among those without any. -/
def fieldOf? (fields : List Construct) (designator : String) (position : Nat) : Option Construct :=
  (fields.find? fun c ↦ c.designator? = some designator).or
    (fields.filter fun c ↦ c.designator? = none)[position]?

/-- An entry declares that a method is implemented by a function: the field for the name of the
method comes down to the name in plain quotes, and the field for the function refers to that. -/
def Declares (entry : Construct) (method function : String) : Prop :=
  ∃ fields, entry.Lists fields ∧
    (∃ a, fieldOf? fields "ml_name" 0 = some a ∧ a.Quotes method) ∧
    ∃ b, fieldOf? fields "ml_meth" 1 = some b ∧ b.RefersTo function

/-- By the designators of its fields, the first field of an entry is the one for the name, and the
second the one for the function. -/
def InOrder : List (Option String) → Prop
  | name :: function :: rest =>
    (name = some "ml_name" ∨ name = none ∧ some "ml_name" ∉ function :: rest) ∧
      (function = some "ml_meth" ∨ function = none ∧ name = none ∧ some "ml_meth" ∉ rest)
  | _ => False

variable {a b : Construct} {rest : List Construct} {designator : String}

private theorem fieldOf?_first (h : a.designator? = some designator ∨
    a.designator? = none ∧ some designator ∉ rest.map designator?) :
    fieldOf? (a :: rest) designator 0 = some a := by
  rcases h with named | ⟨positional, other⟩
  · rw [fieldOf?, List.find?_cons_of_pos (by simpa using named), Option.some_or]
  · have none : rest.find? (fun c ↦ c.designator? = some designator) = none := by simpa using other
    rw [fieldOf?, List.find?_cons_of_neg (by simp [positional]), none, Option.none_or,
      List.filter_cons_of_pos (by simpa using positional)]
    rfl

private theorem fieldOf?_second
    (h : a.designator? ≠ some designator ∧ b.designator? = some designator ∨
    a.designator? = none ∧ b.designator? = none ∧ some designator ∉ rest.map designator?) :
    fieldOf? (a :: b :: rest) designator 1 = some b := by
  rcases h with ⟨before, named⟩ | ⟨positional, positional', other⟩
  · rw [fieldOf?, List.find?_cons_of_neg (by simpa using before),
      List.find?_cons_of_pos (by simpa using named), Option.some_or]
  · have none : rest.find? (fun c ↦ c.designator? = some designator) = none := by simpa using other
    rw [fieldOf?, List.find?_cons_of_neg (by simp [positional]),
      List.find?_cons_of_neg (by simp [positional']), none, Option.none_or,
      List.filter_cons_of_pos (by simpa using positional),
      List.filter_cons_of_pos (by simpa using positional')]
    rfl

private theorem first_of_fieldOf? (found : fieldOf? (a :: rest) designator 0 = some a)
    (once : a ∉ rest) : a.designator? = some designator ∨
      a.designator? = none ∧ some designator ∉ rest.map designator? := by
  by_cases named : a.designator? = some designator
  · exact .inl named
  rw [fieldOf?, List.find?_cons_of_neg (by simpa using named), Option.or_eq_some_iff] at found
  rcases found with later | ⟨other, found⟩
  · exact absurd (List.mem_of_find?_eq_some later) once
  by_cases positional : a.designator? = none
  · exact .inr ⟨positional, by simpa using other⟩
  · rw [List.filter_cons_of_neg (by simpa using positional)] at found
    exact absurd (List.mem_filter.mp (List.mem_of_getElem? found)).1 once

private theorem second_of_fieldOf? (found : fieldOf? (a :: b :: rest) designator 1 = some b)
    (once : b ∉ a :: rest) : a.designator? ≠ some designator ∧ b.designator? = some designator ∨
      a.designator? = none ∧ b.designator? = none ∧ some designator ∉ rest.map designator? := by
  obtain ⟨different, once⟩ := not_or.mp (mt List.mem_cons.mpr once)
  by_cases before : a.designator? = some designator
  · rw [fieldOf?, List.find?_cons_of_pos (by simpa using before), Option.some_or] at found
    exact absurd (Option.some.inj found).symm different
  by_cases named : b.designator? = some designator
  · exact .inl ⟨before, named⟩
  rw [fieldOf?, List.find?_cons_of_neg (by simpa using before),
    List.find?_cons_of_neg (by simpa using named), Option.or_eq_some_iff] at found
  rcases found with later | ⟨other, found⟩
  · exact absurd (List.mem_of_find?_eq_some later) once
  have further (k : Nat) : (rest.filter fun c ↦ c.designator? = none)[k]? ≠ some b := fun later ↦
    once (List.mem_filter.mp (List.mem_of_getElem? later)).1
  -- Unless the first two fields both have a position, the second position is further behind.
  by_cases positional : a.designator? = none <;> by_cases positional' : b.designator? = none
  · exact .inr ⟨positional, positional', by simpa using other⟩
  · rw [List.filter_cons_of_pos (by simpa using positional),
      List.filter_cons_of_neg (by simpa using positional')] at found
    exact absurd found (further 0)
  · rw [List.filter_cons_of_neg (by simpa using positional),
      List.filter_cons_of_pos (by simpa using positional')] at found
    exact absurd found (further 0)
  · rw [List.filter_cons_of_neg (by simpa using positional),
      List.filter_cons_of_neg (by simpa using positional')] at found
    exact absurd found (further 1)

private theorem mem_of_fieldOf? {fields : List Construct} {position : Nat} {c : Construct}
    (found : fieldOf? fields designator position = some c) : c ∈ fields := by
  rw [fieldOf?, Option.or_eq_some_iff] at found
  rcases found with named | ⟨-, positional⟩
  · exact List.mem_of_find?_eq_some named
  · exact (List.mem_filter.mp (List.mem_of_getElem? positional)).1

private theorem fields_of_inOrder (h : InOrder ((a :: b :: rest).map designator?)) :
    fieldOf? (a :: b :: rest) "ml_name" 0 = some a ∧
      fieldOf? (a :: b :: rest) "ml_meth" 1 = some b := by
  obtain ⟨name, function⟩ := h
  refine ⟨fieldOf?_first name, fieldOf?_second ?_⟩
  rcases function with named | ⟨positional, positional', other⟩
  · refine .inl ⟨?_, named⟩
    rcases name with name | ⟨name, -⟩ <;> rw [name] <;> decide
  · exact .inr ⟨positional', positional, other⟩

private theorem declares_of_inOrder {entry : Construct} {method function : String}
    (lists : entry.Lists (a :: b :: rest)) (quotes : a.Quotes method)
    (order : InOrder ((a :: b :: rest).map designator?)) (refers : b.RefersTo function) :
    entry.Declares method function := by
  obtain ⟨first, second⟩ := fields_of_inOrder order
  exact ⟨_, lists, ⟨a, first, quotes⟩, b, second, refers⟩

private theorem inOrder_of_declares {entry : Construct} {method function : String}
    (lists : entry.Lists (a :: b :: rest)) (onlyFirst : ∀ c ∈ b :: rest, ¬ c.Quotes method)
    (onlySecond : ∀ c ∈ a :: rest, ¬ c.RefersTo function)
    (declares : entry.Declares method function) :
    InOrder ((a :: b :: rest).map designator?) ∧ b.RefersTo function := by
  obtain ⟨fields, lists', ⟨c, name, quotes⟩, d, implementation, refers⟩ := declares
  obtain rfl := lists.unique lists'
  obtain rfl : c = a := by
    rcases List.mem_cons.mp (mem_of_fieldOf? name) with same | other
    · exact same
    · exact absurd quotes (onlyFirst c other)
  obtain rfl : d = b := by
    rcases List.mem_cons.mp (mem_of_fieldOf? implementation) with rfl | later
    · exact absurd refers (onlySecond d List.mem_cons_self)
    · rcases List.mem_cons.mp later with same | other
      · exact same
      · exact absurd refers (onlySecond d (List.mem_cons_of_mem _ other))
  have once : c ∉ d :: rest := fun again ↦ onlyFirst c again quotes
  have once' : d ∉ c :: rest := fun again ↦ onlySecond d again refers
  refine ⟨⟨first_of_fieldOf? name once, ?_⟩, refers⟩
  rcases second_of_fieldOf? implementation once' with ⟨-, named⟩ | ⟨positional, positional', other⟩
  · exact .inl named
  · exact .inr ⟨positional', positional, other⟩

/-- Whatever a table in braces lists, some entry of exactly four fields has the name in plain quotes
as its first field and the text as its second one, which is a leaf. The entry declares the method
with this text if its fields are in order and the second one refers to a function, and only then
unless another field has the same content by chance. -/
theorem declares_of_namedTable? {c initializer : Construct}
    (first : c.parts.head? = some initializer) (braces : initializer.kind = .initializerList) :
    ∃ table, c.namedTable? = some (c.spelling, table) ∧
      ∀ method text, table.find? method = some text →
        ∃ entry ∈ initializer.parts, ∃ a b x y, entry.Lists [a, b, x, y] ∧ a.Quotes method ∧
          b.Spells text ∧
          (InOrder ([a, b, x, y].map designator?) → b.RefersTo text →
            entry.Declares method text) ∧
          ((∀ d ∈ [b, x, y], ¬ d.Quotes method) → (∀ d ∈ [a, x, y], ¬ d.RefersTo text) →
            entry.Declares method text →
              InOrder ([a, b, x, y].map designator?) ∧ b.RefersTo text) := by
  refine ⟨_, namedTable?_eq first braces, fun method text listed ↦ ?_⟩
  obtain ⟨before, entry, after, split, paired, -⟩ :=
    Dictionary.find?_ofList_filterMap_iff.mp listed
  obtain ⟨a, b, x, y, lists, quotes, spells⟩ := tableEntry?_value_iff.mp paired
  refine ⟨entry, by rw [split]; simp, a, b, x, y, lists, quotes, spells, ?_, ?_⟩
  · exact declares_of_inOrder lists quotes
  · exact inOrder_of_declares lists

end Construct

/-! An entry with designators in the order of the fields, and one with the documentation in front of
the function. -/

namespace Designated

open Reordered (leaf designated)

/-- The fields in their order. -/
def ordered : List Construct := [designated "ml_name" 20 (leaf .stringLiteral "\"f\"" 31),
  designated "ml_meth" 36 (.mk .cast "" none 47 53 [leaf .reference "m_f" 50]),
  designated "ml_doc" 55 (leaf .stringLiteral "\"d\"" 65),
  designated "ml_flags" 70 (leaf .literal "0" 82)]

/-- An entry with some fields, as the only one of a table. -/
def entries (fields : List Construct) (start stop : Nat) : Construct :=
  .mk .initializerList "" none (start - 1) (stop + 1)
    [.mk .initializerList "" none start stop fields]

/-- A table. -/
def table (entries : Construct) : Construct :=
  .mk .variable "M" (some "PyMethodDef") 0 (entries.stop + 1) [entries]

/-- The table lists what the entry declares. -/
theorem declares_of_namedTable?_ordered :
    ∃ t, (table (entries ordered 19 84)).namedTable? = some ("M", t) ∧
      t.find? "f" = some "m_f" ∧
      ∀ entry ∈ (entries ordered 19 84).parts, entry.Declares "f" "m_f" := by
  have first : (table (entries ordered 19 84)).parts.head? = some (entries ordered 19 84) := rfl
  obtain ⟨t, read, sound⟩ := Construct.declares_of_namedTable? first rfl
  have listed : t.find? "f" = some "m_f" := by
    have same : (table (entries ordered 19 84)).namedTable?.map (·.2.find? "f") =
        some (some "m_f") := rfl
    rw [read] at same
    exact Option.some.inj same
  refine ⟨t, read, listed, fun entry only ↦ ?_⟩
  obtain ⟨entry', mem, a, b, x, y, lists, quotes, spells, declares, -⟩ := sound "f" "m_f" listed
  rw [entries, Construct.parts, List.mem_singleton] at mem only
  subst mem only
  obtain ⟨⟩ := lists.unique ⟨_, .refl, .inl rfl, rfl⟩
  exact declares ⟨.inl rfl, .inl rfl⟩ (Construct.name?_value_iff.mp rfl)

/-- The fields with the one for the function at the end. -/
def misplaced : List Construct := [designated "ml_name" 20 (leaf .stringLiteral "\"f\"" 31),
  designated "ml_doc" 36 (leaf .stringLiteral "\"d\"" 46),
  designated "ml_flags" 51 (leaf .literal "0" 63),
  designated "ml_meth" 66 (leaf .reference "m_f" 77)]

/-- The table lists the documentation as the function, which no entry declares. -/
theorem not_declares_misplaced :
    (table (entries misplaced 19 81)).landmark? = some .methodTable ∧
      (∃ t, (table (entries misplaced 19 81)).namedTable? = some ("M", t) ∧
        t.find? "f" = some "\"d\"") ∧
      ∀ entry ∈ (entries misplaced 19 81).parts, ¬ entry.Declares "f" "\"d\"" := by
  refine ⟨rfl, ⟨_, rfl, rfl⟩, fun entry only ↦ ?_⟩
  rw [entries, Construct.parts, List.mem_singleton] at only
  subst only
  rintro ⟨fields, lists, -, b, found, refers⟩
  obtain rfl := lists.unique ⟨_, .refl, .inl rfl, rfl⟩
  have function : Construct.fieldOf? misplaced "ml_meth" 1 =
      some (designated "ml_meth" 66 (leaf .reference "m_f" 77)) := rfl
  cases function.symm.trans found
  have name := Construct.name?_value_iff.mpr refers
  exact absurd (Option.some.inj name) (by decide)

end Designated

end BuiltinAtlas
