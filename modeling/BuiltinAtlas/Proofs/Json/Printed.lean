import BuiltinAtlas.Json.Printer
import BuiltinAtlas.Proofs.Dictionary.Lookup
import BuiltinAtlas.Proofs.Json.Form
import Mathlib.Data.List.Nodup

/-!
# Printed documents are written values

`Prints d form` says that the document `d` is printed in a form, at any depth. The break before an
item is white space before it, and the break before the closing bracket is white space behind the
last item; `inBrackets` lays items out in that way.
-/

namespace BuiltinAtlas.Json

variable {α σ : Type}

/-! ### Layouts -/

/-- Some texts in brackets, each behind a gap, and with a gap before the closing bracket. -/
def inBrackets (opening closing : Char) (gap ending : List Char) : List (List Char) → List Char
  | [] => [opening, closing]
  | cs :: css =>
    opening :: (gap ++ (cs ++ ((css.flatMap fun ds ↦ ',' :: (gap ++ ds)) ++ (ending ++ [closing]))))

/-- A member of an object with a blank behind the colon. -/
def memberText (m : String × List Char) : List Char := quote m.1 ++ ':' :: ' ' :: m.2

/-- An object with gaps before its members and before its closing brace. -/
def inBraces (gap ending : List Char) (members : List (String × List Char)) : List Char :=
  inBrackets '{' '}' gap ending (members.map memberText)

/-- Texts are laid out as slots. The induction is on the texts behind the first one, since the last
of them takes in the white space before the closing bracket. -/
private theorem bracketed_inBrackets {gap ending : List Char} (blankGap : Blank gap)
    (blankEnding : Blank ending) (opening closing : Char) (css : List (List Char)) :
    Bracketed opening closing Eq css (inBrackets opening closing gap ending css) := by
  cases css with
  | nil => exact .empty blank_nil
  | cons cs css =>
    have slots : ∃ ds dss, Padded (Eq cs) ds ∧ List.Forall₂ (fun cs ↦ Padded (Eq cs)) css dss ∧
        gap ++ (cs ++ ((css.flatMap fun ds ↦ ',' :: (gap ++ ds)) ++ ending)) =
          ds ++ dss.flatMap (',' :: ·) := by
      induction css generalizing cs with
      | nil =>
        refine ⟨_, [], ⟨gap, cs, ending, blankGap, rfl, blankEnding, rfl⟩, .nil, ?_⟩
        simp
      | cons next others ih =>
        obtain ⟨ds, dss, first, written, same⟩ := ih next
        refine ⟨_, ds :: dss, ⟨gap, cs, [], blankGap, rfl, blank_nil, rfl⟩, .cons first written, ?_⟩
        simp [← same]
    obtain ⟨ds, dss, first, others, same⟩ := slots
    have brackets : Bracketed opening closing Eq (cs :: css) _ := .slots first others
    rw [← List.append_assoc ds, ← same] at brackets
    simpa [inBrackets] using brackets

/-- Members are laid out as an object. -/
theorem objectForm_inBraces {gap ending : List Char} (blankGap : Blank gap)
    (blankEnding : Blank ending) (members : List (String × List Char)) :
    ObjectForm Eq members (inBraces gap ending members) := by
  refine (bracketed_inBrackets blankGap blankEnding '{' '}' (members.map memberText)).of_forall₂ ?_
  rw [List.forall₂_map_left_iff]
  refine List.forall₂_same.mpr ?_
  rintro m - _ rfl
  exact ⟨quote m.1, [], ' ' :: m.2, textForm_quote m.1, blank_nil,
    ⟨[' '], m.2, [], by decide, rfl, blank_nil, by simp⟩, rfl⟩

/-- An object with values in some forms is one with those values. -/
theorem ObjectForm.of_texts {form : α → Form} {es : List (String × α)}
    {texts : List (String × List Char)} {cs : List Char}
    (h : List.Forall₂ (fun m e ↦ m.1 = e.1 ∧ form e.2 m.2) texts es)
    (written : ObjectForm Eq texts cs) : ObjectForm form es cs := by
  refine written.of_forall₂ (h.imp ?_)
  rintro ⟨key, text⟩ ⟨_, a⟩ ⟨rfl, value⟩ cs member
  exact member.imp fun cs same ↦ same ▸ value

/-! ### Documents -/

private theorem print_array (depth : Nat) (ds : List Document) :
    (Document.array ds).print depth =
      inBrackets '[' ']' (newline (depth + 1)) (newline depth) (ds.map (·.print (depth + 1))) := by
  have others (depth : Nat) (ds : List Document) : printItems depth ds =
      (ds.map (·.print depth)).flatMap fun cs ↦ ',' :: (newline depth ++ cs) := by
    induction ds with
    | nil => rfl
    | cons d ds ih => simp [printItems, ih]
  cases ds with
  | nil => rfl
  | cons d ds => simp [Document.print, inBrackets, others]

private theorem print_object (depth : Nat) (ms : List (String × Document)) :
    (Document.object ms).print depth =
      inBraces (newline (depth + 1)) (newline depth)
        (ms.map fun m ↦ (m.1, m.2.print (depth + 1))) := by
  have others (depth : Nat) (ms : List (String × Document)) : printMembers depth ms =
      ((ms.map fun m ↦ (m.1, m.2.print depth)).map memberText).flatMap fun cs ↦
        ',' :: (newline depth ++ cs) := by
    induction ms with
    | nil => rfl
    | cons m ms ih => simp [printMembers, memberText, ih]
  cases ms with
  | nil => rfl
  | cons m ms => simp [Document.print, inBraces, inBrackets, memberText, others]

/-- A document is printed in a form, at any depth. -/
def Prints (d : Document) (form : Form) : Prop := ∀ depth, form (d.print depth)

namespace Prints

/-- Texts are printed. -/
theorem text (s : String) : Prints (.text s) (TextForm s) := fun _ ↦ textForm_quote s

/-- Arrays are printed if their items are. -/
theorem array {form : α → Form} {f : α → Document} {items : List α}
    (h : ∀ x ∈ items, Prints (f x) (form x)) :
    Prints (.array (items.map f)) (ArrayForm form items) := by
  intro depth
  rw [print_array]
  refine (bracketed_inBrackets (blank_newline _) (blank_newline _) _ _ _).of_forall₂ ?_
  rw [List.map_map, List.forall₂_map_left_iff]
  refine List.forall₂_same.mpr ?_
  rintro x mem _ rfl
  exact h x mem (depth + 1)

/-- Dictionaries are printed if their values are. -/
theorem dictionary {form : α → Form} {f : α → Document} (h : ∀ a, Prints (f a) (form a))
    (d : Dictionary α) :
    Prints (.object (d.entries.map fun e ↦ (e.1, f e.2))) (DictionaryForm form d) := by
  intro depth
  rw [print_object]
  refine ⟨d.entries, fun key ↦ (d.lookup_reverse_entries key).symm,
    .of_texts ?_ (objectForm_inBraces (blank_newline _) (blank_newline _) _)⟩
  rw [List.map_map, List.forall₂_map_left_iff]
  exact List.forall₂_same.mpr fun e _ ↦ ⟨rfl, h e.2 (depth + 1)⟩

end Prints

private theorem recordForm_of_texts {components : List (Component σ)} {s : σ}
    {texts : List (String × List Char)} {cs : List Char}
    (distinct : (components.map Component.name).Nodup)
    (h : List.Forall₂ (fun m c ↦ m.1 = c.name ∧ c.form (c.value s) m.2) texts components)
    (written : ObjectForm Eq texts cs) : RecordForm components s cs := by
  have names : texts.map Prod.fst = components.map Component.name := by
    rw [← List.forall₂_eq_eq_eq, List.forall₂_map_left_iff, List.forall₂_map_right_iff]
    exact h.imp fun m c value ↦ value.1
  refine ⟨texts, written, fun m mem ↦ ?_, fun c mem ↦ ?_⟩
  · obtain ⟨c, hc, name, value⟩ := exists_mem_right h m mem
    refine ⟨fun other mem' same ↦ ?_, fun foreign ↦ absurd name.symm (foreign c hc)⟩
    cases List.inj_on_of_nodup_map distinct mem' hc (same.trans name)
    exact value
  · rw [names]
    exact ⟨List.nodup_iff_count_le_one.mp distinct c.name, .inl (List.mem_map_of_mem mem)⟩

/-- A record can be written if its components can. -/
theorem exists_recordForm {components : List (Component σ)} {s : σ}
    (distinct : (components.map Component.name).Nodup)
    (h : ∀ c ∈ components, ∃ cs, c.form (c.value s) cs) : ∃ cs, RecordForm components s cs := by
  have texts : ∃ texts : List (String × List Char),
      List.Forall₂ (fun m c ↦ m.1 = c.name ∧ c.form (c.value s) m.2) texts components := by
    clear distinct
    induction components with
    | nil => exact ⟨[], .nil⟩
    | cons c components ih =>
      obtain ⟨⟨cs, first⟩, others⟩ := List.forall_mem_cons.mp h
      obtain ⟨texts, written⟩ := ih others
      exact ⟨(c.name, cs) :: texts, .cons ⟨rfl, first⟩ written⟩
  obtain ⟨texts, written⟩ := texts
  exact ⟨_, recordForm_of_texts distinct written (objectForm_inBraces blank_nil blank_nil texts)⟩

/-- Records are printed if their components are, in their order. -/
theorem Prints.record {components : List (Component σ)} {s : σ} {members : List (String × Document)}
    (distinct : (components.map Component.name).Nodup)
    (h : List.Forall₂ (fun m c ↦ m.1 = c.name ∧ Prints m.2 (c.form (c.value s))) members
      components) :
    Prints (.object members) (RecordForm components s) := by
  intro depth
  rw [print_object]
  refine recordForm_of_texts distinct ?_ (objectForm_inBraces (blank_newline _) (blank_newline _) _)
  rw [List.forall₂_map_left_iff]
  exact h.imp fun m c ⟨name, printed⟩ ↦ ⟨name, printed (depth + 1)⟩

end BuiltinAtlas.Json
