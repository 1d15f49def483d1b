import BuiltinAtlas.Dictionary.Basic
import BuiltinAtlas.Proofs.Json.Number

/-!
# Written values

The ways to write values, put together from the ways to write what is in them. White space may stand
around every item, key and value. In the object of a record the components stand in any order and
may be written with any escapes in their names; other members may stand between them, with any
values. In the object of a dictionary the last value of a key counts.
-/

namespace BuiltinAtlas.Json

variable {ι α σ : Type}

/-- Something with white space around it. -/
def Padded (form : Form) : Form := fun cs ↦
  ∃ before inner after, Blank before ∧ form inner ∧ Blank after ∧ cs = before ++ (inner ++ after)

/-- Slots in brackets, with commas between them. If there are none, there may be white space. -/
inductive Bracketed (opening closing : Char) (form : ι → Form) : List ι → Form
  | empty {cs : List Char} : Blank cs →
      Bracketed opening closing form [] (opening :: (cs ++ [closing]))
  | slots {x : ι} {xs : List ι} {cs : List Char} {css : List (List Char)} : Padded (form x) cs →
      List.Forall₂ (fun x ↦ Padded (form x)) xs css →
      Bracketed opening closing form (x :: xs)
        (opening :: (cs ++ (css.flatMap (',' :: ·) ++ [closing])))

/-- The ways to write an array. -/
def ArrayForm (form : ι → Form) (items : List ι) : Form := Bracketed '[' ']' form items

/-- The ways to write a member of an object: its key, a colon, and its value. -/
def MemberForm (key : String) (form : Form) : Form := fun cs ↦
  ∃ name blank value, TextForm key name ∧ Blank blank ∧ Padded form value ∧
    cs = name ++ (blank ++ ':' :: value)

/-- The ways to write an object. -/
def ObjectForm (form : ι → Form) (members : List (String × ι)) : Form :=
  Bracketed '{' '}' (fun m ↦ MemberForm m.1 (form m.2)) members

/-- The ways to write some value. -/
inductive ValueForm : Form
  | null : ValueForm "null".toList
  | true : ValueForm "true".toList
  | false : ValueForm "false".toList
  | number {cs : List Char} : NumberForm cs → ValueForm cs
  | text {s : String} {cs : List Char} : TextForm s cs → ValueForm cs
  | array {items : List (List Char)} {cs : List Char} : (∀ v ∈ items, ValueForm v) →
      ArrayForm Eq items cs → ValueForm cs
  | object {members : List (String × List Char)} {cs : List Char} :
      (∀ m ∈ members, ValueForm m.2) → ObjectForm Eq members cs → ValueForm cs

/-- The ways to write a truth value. -/
def BoolForm : Bool → Form
  | true => Eq "true".toList
  | false => Eq "false".toList

/-- The ways to write a value that may be missing. -/
def OptionForm (form : α → Form) : Option α → Form
  | none => Eq "null".toList
  | some a => form a

/-- The ways to write a dictionary. The last value of a key counts. -/
def DictionaryForm (form : α → Form) (d : Dictionary α) : Form := fun cs ↦
  ∃ es, (∀ key, d.find? key = es.reverse.lookup key) ∧ ObjectForm form es cs

/-- A component of records: its name, its value in a record, the ways to write that, and what it is
if it is left out. -/
structure Component (σ : Type) where
  name : String
  Value : Type
  value : σ → Value
  form : Value → Form
  default? : Option Value

/-- The ways to write a record as an object: every component once, unless it is left out for its
default, in any order and with other members between them. -/
def RecordForm (components : List (Component σ)) (s : σ) : Form := fun cs ↦
  ∃ members : List (String × List Char), ObjectForm Eq members cs ∧
    (∀ m ∈ members, (∀ c ∈ components, c.name = m.1 → c.form (c.value s) m.2) ∧
      ((∀ c ∈ components, c.name ≠ m.1) → ValueForm m.2)) ∧
    ∀ c ∈ components, (members.map Prod.fst).count c.name ≤ 1 ∧
      (c.name ∈ members.map Prod.fst ∨ c.default? = some (c.value s))

/-! ### Partners in lists -/

/-- What is in the right one of two related lists has a partner in the left one. -/
theorem exists_mem_left {β γ : Type _} {R : β → γ → Prop} {xs : List β} {ys : List γ}
    (h : List.Forall₂ R xs ys) : ∀ y ∈ ys, ∃ x ∈ xs, R x y := by
  induction h with
  | nil => exact fun y mem ↦ by cases mem
  | @cons x y xs ys first _ ih =>
    intro z mem
    rcases List.mem_cons.mp mem with rfl | mem
    · exact ⟨x, List.mem_cons_self, first⟩
    · obtain ⟨x', mem', related⟩ := ih z mem
      exact ⟨x', List.mem_cons_of_mem x mem', related⟩

/-- What is in the left one of two related lists has a partner in the right one. -/
theorem exists_mem_right {β γ : Type _} {R : β → γ → Prop} {xs : List β} {ys : List γ}
    (h : List.Forall₂ R xs ys) : ∀ x ∈ xs, ∃ y ∈ ys, R x y :=
  exists_mem_left (List.Forall₂.flip (R := flip R) h)

/-! ### Weaker forms -/

/-- A value in one form with white space around it is one in a weaker form. -/
theorem Padded.imp {form form' : Form} {cs : List Char} (h : Padded form cs)
    (sub : ∀ cs, form cs → form' cs) : Padded form' cs := by
  obtain ⟨before, inner, after, blankBefore, written, blankAfter, rfl⟩ := h
  exact ⟨before, inner, after, blankBefore, sub inner written, blankAfter, rfl⟩

/-- A member whose value is in one form has it in a weaker form. -/
theorem MemberForm.imp {key : String} {form form' : Form} {cs : List Char}
    (h : MemberForm key form cs) (sub : ∀ cs, form cs → form' cs) : MemberForm key form' cs := by
  obtain ⟨name, blank, value, isName, isBlank, written, rfl⟩ := h
  exact ⟨name, blank, value, isName, isBlank, written.imp sub, rfl⟩

/-- Slots in some forms are slots in weaker forms, one by one. -/
theorem Bracketed.of_forall₂ {form : ι → Form} {form' : α → Form} {opening closing : Char}
    {xs : List ι} {ys : List α} {cs : List Char}
    (sub : List.Forall₂ (fun x y ↦ ∀ cs, form x cs → form' y cs) xs ys)
    (h : Bracketed opening closing form xs cs) : Bracketed opening closing form' ys cs := by
  have slots {css : List (List Char)} (written : List.Forall₂ (fun x ↦ Padded (form x)) xs css) :
      List.Forall₂ (fun y ↦ Padded (form' y)) ys css := by
    clear h
    induction sub generalizing css with
    | nil =>
      cases written
      exact .nil
    | cons weaker _ ih =>
      cases written with
      | cons first others => exact .cons (first.imp weaker) (ih others)
  cases h with
  | empty blank =>
    cases sub
    exact .empty blank
  | slots first others =>
    have written := slots (.cons first others)
    cases sub with
    | cons =>
      obtain ⟨first, others⟩ := List.forall₂_cons.mp written
      exact .slots first others

end BuiltinAtlas.Json
