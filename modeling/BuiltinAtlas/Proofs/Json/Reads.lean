import BuiltinAtlas.Json.Reader
import BuiltinAtlas.Proofs.Dictionary.Lookup
import BuiltinAtlas.Proofs.Json.Trees
import Mathlib.Data.List.Nodup

/-!
# Readers get what is written

`Reads r form v` says that the reader `r` gets the value `v` from whatever is written in a form.
There is one law for each way to make a reader from readers, so that a reader gets what is written
if it is made the way the forms are: lists from arrays, dictionaries and records from objects.
-/

namespace BuiltinAtlas.Json

variable {α σ : Type}

/-- A reader gets a value from whatever is written in a form. -/
def Reads (r : Reader α) (form : Form) (value : α) : Prop := Yields form fun t ↦ r t = .ok value

namespace Reads

/-- Texts are read. -/
theorem text (s : String) : Reads Json.text (TextForm s) s :=
  (yields_text s).imp fun t read ↦ by rw [read]; rfl

/-- Truth values are read. -/
theorem bool (b : Bool) : Reads Json.bool (BoolForm b) b :=
  (yields_bool b).imp fun t read ↦ by rw [read]; rfl

/-- A value that may be missing is read, if it cannot be taken for one that is missing. -/
theorem option {r : Reader α} {form : α → Form}
    (notNull : ∀ a, r .null ≠ .ok a) (notBroken : ∀ f a, r (.broken (.literal true f)) ≠ .ok a)
    (h : ∀ a, Reads r (form a) a) (value : Option α) :
    Reads (Json.option r) (OptionForm form value) value := by
  cases value with
  | none => exact yields_null.imp fun t read ↦ by rw [read]; rfl
  | some a =>
    refine Yields.imp (h a) fun t read ↦ ?_
    unfold Json.option
    split
    · exact absurd read (notNull a)
    · exact absurd read (notBroken _ a)
    · rw [read]
      rfl

/-- A list is read if its items are. -/
theorem list {r : Reader α} {form : α → Form} {items : List α}
    (h : ∀ a ∈ items, Reads r (form a) a) : Reads (Json.list r) (ArrayForm form items) items := by
  refine (yields_array h).imp ?_
  rintro _ ⟨ts, read, rfl⟩
  have all : ts.mapM r = .ok items := by
    clear h
    induction read with
    | nil => rfl
    | cons first _ ih =>
      rw [List.mapM_cons, first, ih]
      rfl
  rw [Json.list, all]
  rfl

private theorem readMembers_of_forall₂ {r : Reader α} {es : List (String × α)}
    {ns : List (Key × Tree)} (h : List.Forall₂ (fun e n ↦ n.1 = .ok e.1 ∧ r n.2 = .ok e.2) es ns)
    (before : Dictionary α) :
    readMembers r before ns = .ok (es.foldl (fun d e ↦ d.insert e.1 e.2) before) := by
  induction h generalizing before with
  | nil => rfl
  | @cons e n es ns first _ ih =>
    obtain ⟨key, t⟩ := n
    obtain ⟨rfl, value⟩ := first
    simp only at value
    rw [List.foldl_cons, ← ih, readMembers, value]
    rfl

/-- A dictionary is read if its values are. The last value of a key counts. -/
theorem dictionary {r : Reader α} {form : α → Form} (h : ∀ a, Reads r (form a) a)
    (d : Dictionary α) : Reads (Json.dictionary r) (DictionaryForm form d) d := by
  rintro cs ⟨es, last, written⟩
  obtain ⟨b, cuts, ns, read, built⟩ := yields_object (fun m _ ↦ h m.2) cs written
  have same : Dictionary.ofList es = d :=
    Dictionary.eq_of_find?_eq fun key ↦ (Dictionary.find?_ofList es key).trans (last key).symm
  refine ⟨b, cuts, ?_⟩
  change Json.dictionary r b.tree = .ok d
  rw [built, Json.dictionary, readMembers_of_forall₂ read, ← same]
  rfl

end Reads

/-! ### Records -/

/-- Reading a field from a tree gives a record the value that another record has in a component, and
leaves all other components alone. -/
def Sets (components : List (Component σ)) (s : σ) (f : Field σ) (c : Component σ) (t : Tree) :
    Prop :=
  ∀ before, ∃ after, f.set t before = .ok after ∧ c.value after = c.value s ∧
    ∀ other ∈ components, other.name ≠ c.name → other.value after = other.value before

/-- A field is that of a component: it is read from what is written for that, and may be left out if
the record begins with the default. -/
structure ReadsComponent (components : List (Component σ)) (blank s : σ) (f : Field σ)
    (c : Component σ) : Prop where
  name : f.name = c.name
  sets : Yields (c.form (c.value s)) (Sets components s f c)
  omitted : c.default? = some (c.value s) → f.optional = true ∧ c.value blank = c.value s

variable {components : List (Component σ)} {fields : List (Field σ)} {blank s : σ}

/-- A field that is read by a reader is that of a component if the reader gets the value of that. -/
theorem ReadsComponent.of {name : String} {r : Reader α} {put : α → σ → σ} {optional : Bool}
    {value : σ → α} {form : α → Form} {default? : Option α}
    (reads : Reads r (form (value s)) (value s)) (own : ∀ v before, value (put v before) = v)
    (others : ∀ other ∈ components, other.name ≠ name →
      ∀ v before, other.value (put v before) = other.value before)
    (omitted : ∀ v, default? = some v → optional = true ∧ value blank = v) :
    ReadsComponent components blank s (.of name r put optional)
      ⟨name, α, value, form, default?⟩ where
  name := rfl
  sets := Yields.imp reads fun t read before ↦ by
    refine ⟨put (value s) before, ?_, own _ _,
      fun other mem different ↦ others other mem different _ _⟩
    change (r t).map (fun v ↦ put v before) = _
    rw [read]
    rfl
  omitted := omitted (value s)

/-- A component has its value as far as it has been seen or had that value from the beginning. -/
def AgreesOn (components : List (Component σ)) (blank s : σ) (seen : List String) (s' : σ) : Prop :=
  ∀ c ∈ components, c.name ∈ seen ∨ c.value blank = c.value s → c.value s' = c.value s

/-- A component that is set has its value, and so have those that had it. -/
theorem AgreesOn.set (distinct : (components.map Component.name).Nodup) {seen : List String}
    {before after : σ} (agrees : AgreesOn components blank s seen before) {c : Component σ}
    (mem : c ∈ components) (own : c.value after = c.value s)
    (others : ∀ other ∈ components, other.name ≠ c.name →
      other.value after = other.value before) :
    AgreesOn components blank s (c.name :: seen) after := by
  intro other mem' among
  by_cases same : other.name = c.name
  · cases List.inj_on_of_nodup_map distinct mem' mem same
    exact own
  · rw [others other mem' same]
    exact agrees other mem' (among.imp_left fun h ↦ (List.mem_cons.mp h).resolve_left same)

/-- What a member of a record may be: a component, or anything without a fault. -/
def MemberRead (components : List (Component σ)) (fields : List (Field σ)) (s : σ) (name : String)
    (t : Tree) : Prop :=
  (∃ c ∈ components, ∃ f, c.name = name ∧ fields.find? (·.name == name) = some f ∧
      Sets components s f c t) ∨
    fields.find? (·.name == name) = none ∧ (∀ c ∈ components, c.name ≠ name) ∧ t.Sound

private theorem exists_readNamed (distinct : (components.map Component.name).Nodup)
    {members : List (String × List Char)} {ns : List (Key × Tree)}
    (h : List.Forall₂ (fun m n ↦ n.1 = .ok m.1 ∧ MemberRead components fields s m.1 n.2) members ns)
    {before : σ} {seen : List String} (agrees : AgreesOn components blank s seen before)
    (once : ∀ c ∈ components, (members.map Prod.fst).count c.name ≤ 1)
    (fresh : ∀ c ∈ components, c.name ∈ seen → c.name ∉ members.map Prod.fst) :
    ∃ after seen', readNamed fields before seen ns = .ok (after, seen') ∧
      AgreesOn components blank s seen' after ∧
      ∀ c ∈ components, c.name ∈ seen ∨ c.name ∈ members.map Prod.fst → c.name ∈ seen' := by
  induction h generalizing before seen with
  | nil => exact ⟨before, seen, rfl, agrees, fun c _ ↦ by simp⟩
  | @cons m n members ns first _ ih =>
    obtain ⟨name, cs⟩ := m
    obtain ⟨key, t⟩ := n
    obtain ⟨rfl, read⟩ := first
    rw [List.map_cons] at once fresh ⊢
    have onceOthers : ∀ c ∈ components, (members.map Prod.fst).count c.name ≤ 1 :=
      fun c mem ↦ Nat.le_trans List.count_le_count_cons (once c mem)
    rcases read with ⟨c, mem, f, rfl, found, sets⟩ | ⟨unknown, foreign, sound⟩
    · -- The member is a component, which has not been seen and does not come again.
      obtain ⟨after, set, own, others⟩ := sets before
      have notSeen : c.name ∉ seen := fun no ↦ fresh c mem no List.mem_cons_self
      have notAgain : c.name ∉ members.map Prod.fst := by
        have count := once c mem
        rw [List.count_cons_self] at count
        exact List.count_eq_zero.mp (by omega)
      have agreesAfter : AgreesOn components blank s (c.name :: seen) after :=
        agrees.set distinct mem own others
      have freshAfter : ∀ other ∈ components, other.name ∈ c.name :: seen →
          other.name ∉ members.map Prod.fst := by
        intro other mem' isSeen
        rcases List.mem_cons.mp isSeen with same | isSeen
        · rw [same]
          exact notAgain
        · exact fun no ↦ fresh other mem' isSeen (List.mem_cons_of_mem _ no)
      obtain ⟨last, seen', run, agreesLast, covers⟩ := ih agreesAfter onceOthers freshAfter
      refine ⟨last, seen', ?_, agreesLast, fun other mem' among ↦ covers other mem' ?_⟩
      · rw [readNamed]
        simp [found, notSeen, set, run, bind, Except.bind]
      · rw [List.mem_cons] at among ⊢
        tauto
    · -- The member means nothing.
      obtain ⟨last, seen', run, agreesLast, covers⟩ := ih agrees onceOthers
        fun c mem isSeen no ↦ fresh c mem isSeen (List.mem_cons_of_mem _ no)
      refine ⟨last, seen', ?_, agreesLast, fun c mem among ↦ covers c mem ?_⟩
      · have ignored : ignore t = .ok () := by rw [ignore, sound]
        rw [readNamed]
        simp [unknown, ignored, run, bind, Except.bind]
      · exact among.imp_right fun h ↦ (List.mem_cons.mp h).resolve_left (foreign c mem)

private theorem find?_name (distinct : (fields.map Field.name).Nodup) {f : Field σ}
    (h : f ∈ fields) :
    fields.find? (·.name == f.name) = some f := by
  induction fields with
  | nil => cases h
  | cons g fields ih =>
    obtain ⟨notFirst, distinct⟩ := List.nodup_cons.mp distinct
    rcases List.mem_cons.mp h with rfl | h
    · simp
    · have different : (g.name == f.name) = false := by
        rw [beq_eq_false_iff_ne]
        intro same
        exact notFirst (List.mem_map.mpr ⟨f, h, same.symm⟩)
      rw [List.find?_cons, different]
      exact ih distinct h

private theorem map_name_eq
    (h : List.Forall₂ (ReadsComponent components blank s) fields components) :
    fields.map Field.name = components.map Component.name := by
  rw [← List.forall₂_eq_eq_eq, List.forall₂_map_left_iff, List.forall₂_map_right_iff]
  exact h.imp fun f c field ↦ field.name

private theorem yields_memberRead (distinct : (components.map Component.name).Nodup)
    (h : List.Forall₂ (ReadsComponent components blank s) fields components) {name : String}
    {cs : List Char} (known : ∀ c ∈ components, c.name = name → c.form (c.value s) cs)
    (unknown : (∀ c ∈ components, c.name ≠ name) → ValueForm cs) :
    Yields (Eq cs) (MemberRead components fields s name) := by
  rintro _ rfl
  have names := map_name_eq h
  by_cases foreign : ∀ c ∈ components, c.name ≠ name
  · obtain ⟨b, cuts, sound⟩ := yields_value cs (unknown foreign)
    have absent : fields.find? (·.name == name) = none := by
      rw [List.find?_eq_none]
      intro f hf same
      have among : f.name ∈ components.map Component.name := names ▸ List.mem_map_of_mem hf
      obtain ⟨c, hc, named⟩ := List.mem_map.mp among
      exact foreign c hc (named.trans (beq_iff_eq.mp same))
    exact ⟨b, cuts, .inr ⟨absent, foreign, sound⟩⟩
  · simp only [not_forall, not_not] at foreign
    obtain ⟨c, hc, named⟩ := foreign
    obtain ⟨f, hf, field⟩ := exists_mem_left h c hc
    obtain ⟨b, cuts, sets⟩ := field.sets cs (known c hc named)
    have found := find?_name (names ▸ distinct) hf
    rw [field.name, named] at found
    exact ⟨b, cuts, .inl ⟨c, hc, f, named, found, sets⟩⟩

/-- A record is read if its fields are those of its components, and the components make the record.
-/
theorem Reads.record (distinct : (components.map Component.name).Nodup)
    (h : List.Forall₂ (ReadsComponent components blank s) fields components)
    (whole : ∀ s', (∀ c ∈ components, c.value s' = c.value s) → s' = s) :
    Reads (Json.record fields blank) (RecordForm components s) s := by
  rintro cs ⟨members, written, values, complete⟩
  have each : ∀ m ∈ members, Yields (Eq m.2) (MemberRead components fields s m.1) :=
    fun m mem ↦ yields_memberRead distinct h (values m mem).1 (values m mem).2
  obtain ⟨b, cuts, ns, read, built⟩ := yields_object each cs written
  have unseen : AgreesOn components blank s [] blank :=
    fun c _ among ↦ among.resolve_left List.not_mem_nil
  obtain ⟨after, seen, run, agrees, covers⟩ := exists_readNamed distinct read unseen
    (fun c mem ↦ (complete c mem).1) (fun c _ no ↦ by cases no)
  have same : after = s := whole after fun c mem ↦ agrees c mem <|
    (complete c mem).2.imp (fun present ↦ covers c mem (.inr present)) fun left ↦ by
      obtain ⟨f, _, field⟩ := exists_mem_left h c mem
      exact (field.omitted left).2
  have required : ∀ f ∈ fields, f.optional = false → f.name ∈ seen := by
    intro f hf needed
    obtain ⟨c, hc, field⟩ := exists_mem_right h f hf
    rcases (complete c hc).2 with present | left
    · exact field.name ▸ covers c hc (.inr present)
    · rw [(field.omitted left).1] at needed
      cases needed
  refine ⟨b, cuts, ?_⟩
  change Json.record fields blank b.tree = .ok s
  rw [built, Json.record, run]
  simpa [bind, Except.bind, finish, Ending.strict, same] using required

/-! ### Choices -/

/-- A choice is read if the variant of the only key gets the value. -/
theorem Reads.choice {ι : Type} {variants : List (Variant α)} {tag : String} {r : Reader α}
    (found : variants.find? (·.1 == tag) = some (tag, r)) {form : ι → Form} {content : ι}
    {value : α} (h : Reads r (form content) value) :
    Reads (Json.choice variants) (ObjectForm form [(tag, content)]) value := by
  intro cs written
  obtain ⟨b, cuts, ns, read, built⟩ := yields_object (P := fun _ t ↦ r t = .ok value)
    (fun m mem ↦ by rw [List.mem_singleton.mp mem]; exact h) cs written
  refine ⟨b, cuts, ?_⟩
  change Json.choice variants b.tree = .ok value
  cases read with
  | @cons _ n _ _ first others =>
    cases others
    obtain ⟨key, t⟩ := n
    obtain ⟨rfl, read⟩ := first
    simp only at read
    rw [built, Json.choice]
    simp [found, read, bind, Except.bind]

/-! ### Whole texts -/

/-- A whole text is read, which may have white space at its ends. -/
theorem Reads.run {r : Reader α} {form : Form} {value : α} (h : Reads r form value) {text : String}
    (written : Padded form text.toList) : r.run text = .ok value := by
  obtain ⟨t, built, read⟩ := Yields.exists_ofTokens (Yields.padded h) written
  rw [Reader.run, built]
  simp only [read]
  rfl

end BuiltinAtlas.Json
