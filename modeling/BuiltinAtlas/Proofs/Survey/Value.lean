import BuiltinAtlas.Survey.Value
import Mathlib.Logic.Relation

/-!
# What initializers come down to

Casts, designators and wrappers around one construct forward its value. Where no construct is left
that forwards, there is a list, a leaf, or something without a value (`exists_comesTo`). So a value
says what an initializer comes down to: a literal in plain quotes (`unquoted?_value_iff`), a name
(`name?_value_iff`), some leaf (`spelling?_value_iff`) or a list of fields
(`exists_lists_of_items`).
-/

namespace BuiltinAtlas

private theorem unquote?_eq_some_iff {literal content : String} :
    unquote? literal = some content ↔ literal = "\"" ++ content ++ "\"" := by
  have characters : ("\"" ++ content ++ "\"").toList = '"' :: (content.toList ++ ['"']) := by
    simp [String.toList_append]
  constructor
  · intro h
    rw [unquote?] at h
    split at h
    · next first =>
      split at h
      · next last =>
        obtain ⟨front, rfl⟩ := List.getLast?_eq_some_iff.mp last
        cases h
        apply String.toList_injective
        rw [characters, first, List.dropLast_concat, String.toList_ofList]
      · cases h
    · cases h
  · rintro rfl
    rw [unquote?, characters]
    simp [String.ofList_toList]

namespace Construct

/-- The value of a construct is that of a part: of the last one of a cast or of a designated field,
or of the only one of a wrapper. -/
inductive Forwards : Construct → Construct → Prop
  | last {c d : Construct} : c.kind = .cast ∨ c.kind = .designated →
    c.parts.getLast? = some d → Forwards c d
  | only {c d : Construct} : c.kind = .wrapper → c.parts = [d] → Forwards c d

/-- What is left of a construct when some that forward are seen through. -/
abbrev ComesTo : Construct → Construct → Prop := Relation.ReflTransGen Forwards

/-- A construct is a list of fields: it stands in braces, or is a wrapper around several others. -/
def IsList (c : Construct) : Prop :=
  c.kind = .initializerList ∨ c.kind = .wrapper ∧ 2 ≤ c.parts.length

/-- A construct is a token: a literal that is no string, or a wrapper around nothing. -/
def IsToken (c : Construct) : Prop := c.kind = .literal ∨ c.kind = .wrapper ∧ c.parts = []

/-- A construct is a leaf: a string literal, a name or a token. -/
def IsLeaf (c : Construct) : Prop := c.kind = .stringLiteral ∨ c.kind = .reference ∨ c.IsToken

/-- A construct comes down to a string literal in plain quotes. -/
def Quotes (c : Construct) (content : String) : Prop :=
  ∃ d, c.ComesTo d ∧ d.kind = .stringLiteral ∧ d.spelling = "\"" ++ content ++ "\""

/-- A construct comes down to a name. -/
def RefersTo (c : Construct) (name : String) : Prop :=
  ∃ d, c.ComesTo d ∧ d.kind = .reference ∧ d.spelling = name

/-- A construct comes down to a leaf with a given spelling. -/
def Spells (c : Construct) (text : String) : Prop :=
  ∃ d, c.ComesTo d ∧ d.IsLeaf ∧ d.spelling = text

/-- A construct comes down to a list of some fields. -/
def Lists (c : Construct) (fields : List Construct) : Prop :=
  ∃ d, c.ComesTo d ∧ d.IsList ∧ d.parts = fields

variable {c d : Construct}

private theorem Forwards.getLast?_eq (h : c.Forwards d) : c.parts.getLast? = some d := by
  cases h with
  | last _ last => exact last
  | only _ only => rw [only, List.getLast?_singleton]

private theorem IsList.not_forwards (h : c.IsList) : ¬ c.Forwards d := by
  intro forwards
  cases forwards with
  | last kind _ => rcases h with same | ⟨same, -⟩ <;> simp [same] at kind
  | only kind only =>
    rcases h with braces | ⟨-, several⟩
    · cases braces.symm.trans kind
    · rw [only] at several
      exact Nat.not_succ_le_self 1 several

/-- A construct lists its fields in one way. -/
theorem Lists.unique {fields fields' : List Construct} (h : c.Lists fields)
    (h' : c.Lists fields') : fields = fields' := by
  obtain ⟨d, down, list, rfl⟩ := h
  obtain ⟨e, down', list', rfl⟩ := h'
  have one : Relator.RightUnique Forwards := fun _ _ _ first second ↦
    Option.some.inj (first.getLast?_eq.symm.trans second.getLast?_eq)
  rcases Relation.ReflTransGen.total_of_right_unique one down down' with there | there
  · rw [(Relation.reflTransGen_iff_eq fun _ ↦ list.not_forwards).mp there]
  · rw [(Relation.reflTransGen_iff_eq fun _ ↦ list'.not_forwards).mp there]

private theorem values_eq_map (cs : List Construct) : values cs = cs.map value := by
  induction cs with
  | nil => rfl
  | cons c cs ih => rw [values, ih, List.map_cons]

private theorem lastValue_eq (cs : List Construct) :
    lastValue cs = cs.getLast?.elim .null value := by
  induction cs with
  | nil => rfl
  | cons c cs ih =>
    cases cs with
    | nil => rfl
    | cons d cs => rw [lastValue, ih, List.getLast?_cons_cons]

/-- The value depends on the kind, the spelling and the values of the parts. -/
theorem value_congr (kind : d.kind = c.kind) (spelling : d.spelling = c.spelling)
    (values : d.parts.map value = c.parts.map value) : d.value = c.value := by
  obtain ⟨k, s, typeName, start, stop, ps⟩ := c
  obtain ⟨k', s', typeName', start', stop', qs⟩ := d
  obtain rfl : k' = k := kind
  obtain rfl : s' = s := spelling
  have same : qs.map value = ps.map value := values
  have last : lastValue qs = lastValue ps := by
    have elim (o : Option Construct) : o.elim .null value = (o.map value).getD .null := by
      cases o <;> rfl
    rw [lastValue_eq, lastValue_eq, elim, elim, ← List.getLast?_map, ← List.getLast?_map, same]
  cases k' with
  | initializerList => rw [value, value, values_eq_map, values_eq_map, same]
  | cast | designated => rw [value, value, last]
  | wrapper =>
    rcases ps with - | ⟨p, - | ⟨p', ps⟩⟩ <;> rcases qs with - | ⟨q, - | ⟨q', qs⟩⟩ <;>
      simp only [List.map_cons, List.map_nil, List.cons.injEq, reduceCtorEq, and_false] at same
    · rfl
    · exact same.1
    · simp only [value, values_eq_map, same]
  | _ => rfl

/-- A construct that forwards has the value of the part. -/
theorem Forwards.value_eq (h : c.Forwards d) : c.value = d.value := by
  obtain ⟨kind, spelling, typeName, start, stop, parts⟩ := c
  cases h with
  | last same last =>
    have there : parts.getLast? = some d := last
    rcases same with same | same <;> obtain rfl := show kind = _ from same
    all_goals rw [value, lastValue_eq, there, Option.elim_some]
  | only same only =>
    obtain rfl : kind = .wrapper := same
    obtain rfl : parts = [d] := only
    rfl

/-- What a construct comes down to has its value. -/
theorem ComesTo.value_eq (h : c.ComesTo d) : c.value = d.value := by
  induction h with
  | refl => rfl
  | tail _ last ih => exact ih.trans last.value_eq

/-- A part is smaller. -/
theorem sizeOf_lt_of_mem_parts (h : d ∈ c.parts) : sizeOf d < sizeOf c := by
  obtain ⟨kind, spelling, typeName, start, stop, parts⟩ := c
  rw [mk.sizeOf_spec]
  exact Nat.lt_of_lt_of_le (List.sizeOf_lt_of_mem h) (Nat.le_add_left _ _)

/-- The value of a list is the list of the values. -/
theorem IsList.value_eq (h : c.IsList) : c.value = .list (c.parts.map value) := by
  obtain ⟨kind, spelling, typeName, start, stop, parts⟩ := c
  rcases h with braces | ⟨wrapper, several⟩
  · obtain rfl : kind = .initializerList := braces
    rw [value, values_eq_map]
    rfl
  · obtain rfl : kind = .wrapper := wrapper
    match parts, several with
    | first :: second :: rest, _ =>
      rw [value, values_eq_map]
      rfl

private theorem value_of_stringLiteral (h : c.kind = .stringLiteral) :
    c.value = .text c.spelling := by
  obtain ⟨kind, spelling, typeName, start, stop, parts⟩ := c
  obtain rfl : kind = .stringLiteral := h
  rfl

private theorem value_of_reference (h : c.kind = .reference) : c.value = .name c.spelling := by
  obtain ⟨kind, spelling, typeName, start, stop, parts⟩ := c
  obtain rfl : kind = .reference := h
  rfl

/-- The value of a token is its spelling. -/
theorem IsToken.value_eq (h : c.IsToken) : c.value = .token c.spelling := by
  obtain ⟨kind, spelling, typeName, start, stop, parts⟩ := c
  rcases h with literal | ⟨wrapper, empty⟩
  · obtain rfl : kind = .literal := literal
    rfl
  · obtain rfl : kind = .wrapper := wrapper
    obtain rfl : parts = [] := empty
    rfl

private theorem value_eq_null (kind : c.kind = .cast ∨ c.kind = .designated)
    (none : ¬ ∃ d, c.Forwards d) : c.value = .null := by
  obtain ⟨k, spelling, typeName, start, stop, parts⟩ := c
  have empty : parts.getLast? = .none :=
    Option.eq_none_iff_forall_ne_some.mpr fun d last ↦ none ⟨d, .last kind last⟩
  rcases kind with same | same <;> obtain rfl := show k = _ from same
  all_goals rw [value, lastValue_eq, empty, Option.elim_none]

private theorem exists_comesTo (c : Construct) :
    ∃ d, c.ComesTo d ∧ (d.IsList ∨ d.IsLeaf ∨ d.value = .null) := by
  by_cases forwards : ∃ d, c.Forwards d
  · obtain ⟨d, first⟩ := forwards
    have := sizeOf_lt_of_mem_parts (List.mem_of_getLast? first.getLast?_eq)
    obtain ⟨e, rest, last⟩ := exists_comesTo d
    exact ⟨e, .head first rest, last⟩
  · refine ⟨c, .refl, ?_⟩
    obtain ⟨kind, spelling, typeName, start, stop, parts⟩ := c
    -- Of the constructs that might forward, those are left that have too few or too many parts.
    cases kind with
    | initializerList => exact .inl (.inl rfl)
    | cast => exact .inr (.inr (value_eq_null (.inl rfl) forwards))
    | designated => exact .inr (.inr (value_eq_null (.inr rfl) forwards))
    | wrapper =>
      match parts with
      | [] => exact .inr (.inl (.inr (.inr (.inr ⟨rfl, rfl⟩))))
      | [only] => exact absurd ⟨only, .only rfl rfl⟩ forwards
      | first :: second :: rest => exact .inl (.inr ⟨rfl, Nat.le_add_left 2 rest.length⟩)
    | stringLiteral => exact .inr (.inl (.inl rfl))
    | reference => exact .inr (.inl (.inr (.inl rfl)))
    | literal => exact .inr (.inl (.inr (.inr (.inl rfl))))
    | wholeFile | function | «variable» | call | other => exact .inr (.inr rfl)
termination_by sizeOf c

private theorem value_cases (c : Construct) :
    (∃ fields, c.Lists fields ∧ c.value = .list (fields.map value)) ∨
      (∃ d, c.ComesTo d ∧ d.kind = .stringLiteral ∧ c.value = .text d.spelling) ∨
      (∃ d, c.ComesTo d ∧ d.kind = .reference ∧ c.value = .name d.spelling) ∨
      (∃ d, c.ComesTo d ∧ d.IsToken ∧ c.value = .token d.spelling) ∨ c.value = .null := by
  obtain ⟨d, down, list | (text | name | token) | null⟩ := c.exists_comesTo
  · exact .inl ⟨d.parts, ⟨d, down, list, rfl⟩, down.value_eq.trans list.value_eq⟩
  · exact .inr (.inl ⟨d, down, text, down.value_eq.trans (value_of_stringLiteral text)⟩)
  · exact .inr (.inr (.inl ⟨d, down, name, down.value_eq.trans (value_of_reference name)⟩))
  · exact .inr (.inr (.inr (.inl ⟨d, down, token, down.value_eq.trans token.value_eq⟩)))
  · exact .inr (.inr (.inr (.inr (down.value_eq.trans null))))

/-- A construct that lists fields has the list of their values. -/
theorem Lists.value_eq {fields : List Construct} (h : c.Lists fields) :
    c.value = .list (fields.map value) := by
  obtain ⟨d, down, list, rfl⟩ := h
  exact down.value_eq.trans list.value_eq

/-- The items of a value are those of the fields that the construct lists. -/
theorem exists_lists_of_items {first : Value} {rest : List Value}
    (h : c.value.items = first :: rest) :
    ∃ fields, c.Lists fields ∧ fields.map value = first :: rest := by
  rcases c.value_cases with ⟨fields, lists, same⟩ | ⟨_, -, -, same⟩ | ⟨_, -, -, same⟩ |
      ⟨_, -, -, same⟩ | same
  · rw [same] at h
    exact ⟨fields, lists, h⟩
  all_goals rw [same] at h; cases h

/-- A value has a content in plain quotes if the construct comes down to such a literal. -/
theorem unquoted?_value_iff {content : String} :
    c.value.unquoted? = some content ↔ c.Quotes content := by
  constructor
  · intro h
    rcases c.value_cases with ⟨_, -, same⟩ | ⟨d, down, text, same⟩ | ⟨_, -, -, same⟩ |
      ⟨_, -, -, same⟩ | same
    case inr.inl =>
      rw [same] at h
      exact ⟨d, down, text, unquote?_eq_some_iff.mp h⟩
    all_goals rw [same] at h; cases h
  · rintro ⟨d, down, text, plain⟩
    rw [down.value_eq, value_of_stringLiteral text]
    exact unquote?_eq_some_iff.mpr plain

/-- A value is a name if the construct comes down to the name. -/
theorem name?_value_iff {name : String} : c.value.name? = some name ↔ c.RefersTo name := by
  constructor
  · intro h
    rcases c.value_cases with ⟨_, -, same⟩ | ⟨_, -, -, same⟩ | ⟨d, down, reference, same⟩ |
      ⟨_, -, -, same⟩ | same
    case inr.inr.inl =>
      rw [same] at h
      cases h
      exact ⟨d, down, reference, rfl⟩
    all_goals rw [same] at h; cases h
  · rintro ⟨d, down, reference, rfl⟩
    rw [down.value_eq, value_of_reference reference]
    rfl

/-- A value has a spelling if the construct comes down to a leaf with it. -/
theorem spelling?_value_iff {text : String} : c.value.spelling? = some text ↔ c.Spells text := by
  constructor
  · intro h
    rcases c.value_cases with ⟨_, -, same⟩ | ⟨d, down, leaf, same⟩ | ⟨d, down, leaf, same⟩ |
      ⟨d, down, leaf, same⟩ | same
    all_goals rw [same] at h; cases h
    · exact ⟨d, down, .inl leaf, rfl⟩
    · exact ⟨d, down, .inr (.inl leaf), rfl⟩
    · exact ⟨d, down, .inr (.inr leaf), rfl⟩
  · rintro ⟨d, down, text | name | token, rfl⟩ <;> rw [down.value_eq]
    · rw [value_of_stringLiteral text]
      rfl
    · rw [value_of_reference name]
      rfl
    · rw [token.value_eq]
      rfl

end Construct

end BuiltinAtlas
