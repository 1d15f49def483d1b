import BuiltinAtlas.Proofs.Survey.Value
import BuiltinAtlas.Survey.Findings

/-!
# Fields in another order

Fields with a designator take no position from those without. So what is read from an initializer
stays the same when its fields are interleaved in another way, and when fields with other
designators are put between them (`Rearranged`): the name and the references of a type, and the name
and the table of a module (`Construct.fields_of_rearranged`). It does not matter either where in a
file a field stands (`Construct.bare`).
-/

namespace BuiltinAtlas

/-- A list holds the items of two others, each in order. -/
inductive Interleaving {α : Type} : List α → List α → List α → Prop
  | nil : Interleaving [] [] []
  | left {x : α} {xs ys zs : List α} : Interleaving xs ys zs → Interleaving (x :: xs) ys (x :: zs)
  | right {y : α} {xs ys zs : List α} : Interleaving xs ys zs → Interleaving xs (y :: ys) (y :: zs)

namespace Interleaving

variable {α β : Type} {xs ys zs : List α}

/-- Some items of a list that holds two others are those of both of them. -/
theorem filterMap (h : Interleaving xs ys zs) (g : α → Option β) :
    Interleaving (xs.filterMap g) (ys.filterMap g) (zs.filterMap g) := by
  induction h with
  | nil => exact .nil
  | @left x _ _ _ _ ih =>
    simp only [List.filterMap_cons]
    cases g x with
    | none => exact ih
    | some y => exact .left ih
  | @right y _ _ _ _ ih =>
    simp only [List.filterMap_cons]
    cases g y with
    | none => exact ih
    | some z => exact .right ih

/-- Nothing is put between the items of a list. -/
theorem eq_left (h : Interleaving xs [] zs) : zs = xs := by
  generalize none : ([] : List α) = ys at h
  induction h with
  | nil => rfl
  | left _ ih => rw [ih none]
  | right => cases none

private theorem eq_right (h : Interleaving [] ys zs) : zs = ys := by
  generalize none : ([] : List α) = xs at h
  induction h with
  | nil => rfl
  | left => cases none
  | right _ ih => rw [ih none]

end Interleaving

private theorem filterMap_filter_of_none {α β : Type} {test : α → Bool} {read : α → Option β}
    (fail : ∀ x, test x = false → read x = none) (xs : List α) :
    (xs.filter test).filterMap read = xs.filterMap read := by
  rw [List.filterMap_filter]
  congr 1
  funext x
  split
  · rfl
  · next pass => exact (fail x (Bool.eq_false_iff.mpr pass)).symm

namespace Construct

mutual

/-- A construct without the offsets at which it stands. -/
def bare : Construct → Construct
  | .mk kind spelling typeName _ _ parts => .mk kind spelling typeName 0 0 (bares parts)

/-- Constructs without the offsets at which they stand. -/
def bares : List Construct → List Construct
  | [] => []
  | c :: cs => bare c :: bares cs

end

private theorem bares_eq_map (cs : List Construct) : bares cs = cs.map bare := by
  induction cs with
  | nil => rfl
  | cons c cs ih => rw [bares, ih, List.map_cons]

private theorem kind_bare (c : Construct) : c.bare.kind = c.kind := by
  obtain ⟨⟩ := c
  rfl

private theorem spelling_bare (c : Construct) : c.bare.spelling = c.spelling := by
  obtain ⟨⟩ := c
  rfl

/-- The value does not depend on the offsets. -/
theorem value_bare (c : Construct) : c.bare.value = c.value := by
  apply value_congr c.kind_bare c.spelling_bare
  obtain ⟨kind, spelling, typeName, start, stop, parts⟩ := c
  rw [bare, bares_eq_map, Construct.parts, Construct.parts, List.map_map]
  apply List.map_congr_left
  intro p mem
  have := List.sizeOf_lt_of_mem mem
  exact value_bare p
termination_by sizeOf c

/-- A list of fields has the same fields as another one wherever they stand, those without and those
with a designator each in order, and between them perhaps more fields with designators that are not
essential. -/
def Rearranged (essential : List String) (before after : List Construct) : Prop :=
  ∃ positional designated mixed added,
    positional.map bare = (before.filter (·.kind ≠ .designated)).map bare ∧
    designated.map bare = (before.filter (·.kind = .designated)).map bare ∧
    Interleaving positional designated mixed ∧ Interleaving mixed added after ∧
    ∀ d ∈ added, d.kind = .designated ∧ d.spelling ∉ essential

/-- What is read of constructs is the same wherever they stand, if it does not depend on offsets. -/
theorem filterMap_eq_of_map_bare {β : Type} {read : Construct → Option β}
    (anywhere : ∀ c, read c.bare = read c) {cs ds : List Construct}
    (same : cs.map bare = ds.map bare) : cs.filterMap read = ds.filterMap read := by
  have unplaced (es : List Construct) : (es.map bare).filterMap read = es.filterMap read := by
    rw [List.filterMap_map, show read ∘ bare = read from funext anywhere]
  rw [← unplaced cs, same, unplaced]

private theorem Rearranged.filterMap_eq {β : Type} {essential : List String}
    {before after : List Construct} (h : Rearranged essential before after)
    {read : Construct → Option β} (anywhere : ∀ c, read c.bare = read c)
    (inessential : ∀ d, d.kind = .designated → d.spelling ∉ essential → read d = none)
    (one : (∀ c, c.kind = .designated → read c = none) ∨
      ∀ c, c.kind ≠ .designated → read c = none) :
    after.filterMap read = before.filterMap read := by
  obtain ⟨positional, designated, mixed, added, same, same', interleaving, inserted, other⟩ := h
  have nothing (test : Construct → Bool) (fail : ∀ c, test c = true → read c = none) :
      (before.filter test).filterMap read = [] := by
    rw [List.filterMap_eq_nil_iff]
    exact fun c mem ↦ fail c (List.mem_filter.mp mem).2
  have none : added.filterMap read = [] := List.filterMap_eq_nil_iff.mpr fun d mem ↦
    inessential d (other d mem).1 (other d mem).2
  have kept := inserted.filterMap read
  rw [none] at kept
  have parts := interleaving.filterMap read
  rw [filterMap_eq_of_map_bare anywhere same, filterMap_eq_of_map_bare anywhere same'] at parts
  rw [kept.eq_left]
  rcases one with none | none
  · rw [nothing (·.kind = .designated) (by simpa using none),
      filterMap_filter_of_none (by simpa using none)] at parts
    exact parts.eq_left
  · rw [nothing (·.kind ≠ .designated) (by simpa using none),
      filterMap_filter_of_none (by simpa using none)] at parts
    exact parts.eq_right

variable {initializer initializer' : Construct}

/-- Fields without designators are read in order. -/
theorem positionalFields_eq_filterMap (braces : initializer.kind = .initializerList) :
    initializer.positionalFields =
      initializer.parts.filterMap fun c ↦ if c.kind = .designated then none else some c.value := by
  rw [positionalFields, if_pos braces, ← List.filterMap_eq_map, List.filterMap_filter]
  congr 1
  funext c
  by_cases designated : c.kind = .designated <;> simp [designated]

/-- The first field with a designator is read. -/
theorem designatedField?_eq_head? (initializer : Construct) (name : String) :
    initializer.designatedField? name = (initializer.parts.filterMap fun c ↦
      if c.kind = .designated ∧ c.spelling = name then some c.value else none).head? := by
  rw [designatedField?, ← List.head?_filter, ← List.head?_map, ← List.filterMap_eq_map,
    List.filterMap_filter]
  congr 2
  funext c
  by_cases fits : c.kind = .designated ∧ c.spelling = name <;> simp [fits]

/-- Rearranged fields without designators have the same values in the same order. -/
theorem Rearranged.positionalFields_eq {essential : List String}
    (h : Rearranged essential initializer.parts initializer'.parts)
    (braces : initializer.kind = .initializerList)
    (braces' : initializer'.kind = .initializerList) :
    initializer'.positionalFields = initializer.positionalFields := by
  rw [positionalFields_eq_filterMap braces, positionalFields_eq_filterMap braces']
  apply h.filterMap_eq
  · intro c
    rw [kind_bare, value_bare]
  · intro d designated _
    rw [if_pos designated]
  · exact .inl fun c designated ↦ if_pos designated

/-- The first field with an essential designator has the same value among rearranged fields. -/
theorem Rearranged.designatedField?_eq {essential : List String}
    (h : Rearranged essential initializer.parts initializer'.parts) {name : String}
    (mem : name ∈ essential) :
    initializer'.designatedField? name = initializer.designatedField? name := by
  rw [designatedField?_eq_head?, designatedField?_eq_head?]
  congr 1
  apply h.filterMap_eq
  · intro c
    rw [kind_bare, spelling_bare, value_bare]
  · intro d _ inessential
    rw [if_neg]
    rintro ⟨-, rfl⟩
    exact inessential mem
  · exact .inr fun c positional ↦ if_neg fun both ↦ positional both.1

/-- An essential field has the same value among rearranged fields, by designator or position. -/
theorem Rearranged.field?_eq {α : Type} {essential : List String}
    (h : Rearranged essential initializer.parts initializer'.parts)
    (braces : initializer.kind = .initializerList) (braces' : initializer'.kind = .initializerList)
    {designator : String} (mem : designator ∈ essential) (position : Nat)
    (read : Value → Option α) :
    initializer'.field? designator position read = initializer.field? designator position read := by
  rw [field?, field?, h.positionalFields_eq braces braces', h.designatedField?_eq mem]

private theorem field?_of_quotes {field : String} {position : Nat} {d : Construct}
    {content : String}
    (found : initializer.parts.find? (fun p ↦ p.kind = .designated ∧ p.spelling = field) = some d)
    (quotes : d.Quotes content) :
    initializer.field? field position (·.unquoted?) = some content := by
  rw [field?, designatedField?, found, Option.map_some, Option.bind_some,
    unquoted?_value_iff.mpr quotes, Option.some_or]

variable {c c' : Construct}

private theorem map_namedType? (first : c.parts.head? = some initializer) (f : SourceFile) :
    (c.namedType? f).map (fun (name, e) ↦ (name, e.references)) =
      (initializer.field? "tp_name" 3 (·.unquoted?)).map fun name ↦
        (name, initializer.typeReferences) := by
  simp only [namedType?, first, Option.bind_eq_bind, Option.bind_some]
  cases initializer.field? "tp_name" 3 (·.unquoted?) <;> rfl

private theorem map_structuredModule? (first : c.parts.head? = some initializer) (f : SourceFile) :
    (c.structuredModule? f).map (fun (name, e) ↦ (name, e.tables)) =
      (initializer.field? "m_name" 1 (·.unquoted?)).map fun name ↦
        (name, (initializer.field? "m_methods" 4 (·.name?)).toList) := by
  simp only [structuredModule?, first, Option.bind_eq_bind, Option.bind_some]
  cases initializer.field? "m_name" 1 (·.unquoted?) <;> rfl

/-- The name and the references of a type, and the name and the table of a module, stay the same
when the fields are rearranged, where the fields that are designated for these are essential. If the
first field that is designated for the name comes down to a literal in plain quotes, this is the
name. -/
theorem fields_of_rearranged (f f' : SourceFile)
    (first : c.parts.head? = some initializer) (first' : c'.parts.head? = some initializer')
    (braces : initializer.kind = .initializerList)
    (braces' : initializer'.kind = .initializerList) :
    (Rearranged ["tp_name", "tp_base"] initializer.parts initializer'.parts →
      (c'.namedType? f').map (fun (name, e) ↦ (name, e.references)) =
        (c.namedType? f).map fun (name, e) ↦ (name, e.references)) ∧
    (Rearranged ["m_name", "m_methods"] initializer.parts initializer'.parts →
      (c'.structuredModule? f').map (fun (name, e) ↦ (name, e.tables)) =
        (c.structuredModule? f).map fun (name, e) ↦ (name, e.tables)) ∧
    (∀ d name, initializer.parts.find?
        (fun p ↦ p.kind = .designated ∧ p.spelling = "tp_name") = some d → d.Quotes name →
      ∃ references, (c.namedType? f).map (fun (name, e) ↦ (name, e.references)) =
        some (name, references)) ∧
    ∀ d name, initializer.parts.find?
        (fun p ↦ p.kind = .designated ∧ p.spelling = "m_name") = some d → d.Quotes name →
      ∃ tables, (c.structuredModule? f).map (fun (name, e) ↦ (name, e.tables)) =
        some (name, tables) := by
  rw [map_namedType? first, map_namedType? first', map_structuredModule? first,
    map_structuredModule? first']
  refine ⟨fun rearranged ↦ ?_, fun rearranged ↦ ?_, fun d name found quotes ↦ ?_,
    fun d name found quotes ↦ ?_⟩
  · have references : initializer'.typeReferences = initializer.typeReferences := by
      rw [typeReferences, typeReferences, rearranged.positionalFields_eq braces braces',
        rearranged.designatedField?_eq (by simp)]
    rw [rearranged.field?_eq braces braces' (by simp), references]
  · rw [rearranged.field?_eq braces braces' (by simp),
      rearranged.field?_eq braces braces' (by simp)]
  · exact ⟨_, by rw [field?_of_quotes found quotes, Option.map_some]⟩
  · exact ⟨_, by rw [field?_of_quotes found quotes, Option.map_some]⟩

end Construct

/-! A type with five fields by position and two by designator. They are mixed in another way, and
one more is put between them. -/

namespace Reordered

/-- A construct without parts at an offset. -/
def leaf (kind : ConstructKind) (text : String) (start : Nat) : Construct :=
  .mk kind text none start (start + text.length) []

/-- The address of what a name stands for. -/
def address (name : String) (start : Nat) : Construct :=
  .mk .wrapper "" none start (start + 1 + name.length) [leaf .reference name (start + 1)]

/-- A value for a field. -/
def designated (field : String) (start : Nat) (value : Construct) : Construct :=
  .mk .designated field none start value.stop [value]

/-- A type with some fields. -/
def declaration (fields : List Construct) (stop : Nat) : Construct :=
  .mk .variable "T" (some "PyTypeObject") 0 (stop + 1) [.mk .initializerList "" none 17 stop fields]

/-- The file before. -/
def file : SourceFile :=
  ⟨"/t.c", ("PyTypeObject T = \x7b1, &M, 0, \"m.T\", .tp_doc = \"t\", repr, " ++
    ".tp_base = &B\x7d;").toUTF8⟩

/-- The fields before. -/
def fields : List Construct := [leaf .literal "1" 18, address "M" 21, leaf .literal "0" 25,
  leaf .stringLiteral "\"m.T\"" 28, designated "tp_doc" 35 (leaf .stringLiteral "\"t\"" 45),
  leaf .reference "repr" 50, designated "tp_base" 56 (address "B" 67)]

/-- The file after. -/
def file' : SourceFile :=
  ⟨"/t.c", ("PyTypeObject T = \x7b.tp_doc = \"t\", 1, .tp_flags = 0, &M, 0, .tp_base = &B, " ++
    "\"m.T\", repr\x7d;").toUTF8⟩

/-- The fields after. -/
def fields' : List Construct := [designated "tp_doc" 18 (leaf .stringLiteral "\"t\"" 28),
  leaf .literal "1" 33, designated "tp_flags" 36 (leaf .literal "0" 48), address "M" 51,
  leaf .literal "0" 55, designated "tp_base" 58 (address "B" 69),
  leaf .stringLiteral "\"m.T\"" 73, leaf .reference "repr" 80]

private theorem rearranged : Construct.Rearranged ["tp_name", "tp_base"] fields fields' := by
  refine ⟨[leaf .literal "1" 33, address "M" 51, leaf .literal "0" 55,
      leaf .stringLiteral "\"m.T\"" 73, leaf .reference "repr" 80],
    [designated "tp_doc" 18 (leaf .stringLiteral "\"t\"" 28),
      designated "tp_base" 58 (address "B" 69)],
    [designated "tp_doc" 18 (leaf .stringLiteral "\"t\"" 28), leaf .literal "1" 33, address "M" 51,
      leaf .literal "0" 55, designated "tp_base" 58 (address "B" 69),
      leaf .stringLiteral "\"m.T\"" 73, leaf .reference "repr" 80],
    [designated "tp_flags" 36 (leaf .literal "0" 48)], rfl, rfl, ?_, ?_, ?_⟩
  · exact .right (.left (.left (.left (.right (.left (.left .nil))))))
  · exact .left (.left (.right (.left (.left (.left (.left (.left .nil)))))))
  · intro d mem
    cases List.mem_singleton.mp mem
    exact ⟨rfl, by decide⟩

/-- The name is still the fourth field by position, and the references are the same. -/
theorem fields_of_rearranged_type :
    ((declaration fields' 84).namedType? file').map (fun (name, e) ↦ (name, e.references)) =
      some ("m.T", ["repr", "B"]) := by
  have first : (declaration fields 69).parts.head? =
      some (.mk .initializerList "" none 17 69 fields) := rfl
  have first' : (declaration fields' 84).parts.head? =
      some (.mk .initializerList "" none 17 84 fields') := rfl
  obtain ⟨types, -⟩ := Construct.fields_of_rearranged file file' first first' rfl rfl
  rw [types rearranged, Construct.map_namedType? first]
  rfl

end Reordered

end BuiltinAtlas
