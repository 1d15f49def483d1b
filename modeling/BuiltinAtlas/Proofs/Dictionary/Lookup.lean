import BuiltinAtlas.Dictionary.Basic

/-!
# Looking keys up

What each operation on dictionaries does to the values of all keys, and that these values determine
a dictionary. The laws of `Entries` assume sorted entries where a key might otherwise occur twice.
-/

namespace BuiltinAtlas

namespace Entries

variable {κ α : Type _} [DecidableEq κ]

private theorem find?_eq_none_iff {es : Entries κ α} {key : κ} :
    es.find? key = none ↔ ∀ e ∈ es, e.1 ≠ key := by
  induction es with
  | nil => simp [find?]
  | cons e es ih =>
    obtain ⟨k, v⟩ := e
    by_cases same : key = k
    · simp [find?, same]
    · simp [find?, same, ih, Ne.symm same]

/-- Removing a key removes its value. -/
theorem find?_erase (es : Entries κ α) (key other : κ) :
    (es.erase key).find? other = if other = key then none else es.find? other := by
  induction es with
  | nil => simp [erase, find?]
  | cons e es ih =>
    obtain ⟨k, v⟩ := e
    have step : erase ((k, v) :: es) key =
        if k = key then erase es key else (k, v) :: erase es key := by
      by_cases h : k = key <;> simp [erase, h]
    rw [step]
    by_cases same : k = key
    · rw [if_pos same, ih]
      by_cases h : other = key <;> simp [find?, h, same]
    · rw [if_neg same, find?, find?, ih]
      by_cases h : other = k
      · simp [h, same]
      · simp [h]

section Insertion

variable [LT κ] [DecidableLT κ]

/-- Insertion changes the value of one key. -/
theorem find?_insert (es : Entries κ α) (key other : κ) (value : α) :
    (es.insert key value).find? other = if other = key then some value else es.find? other := by
  induction es with
  | nil => simp [insert, find?]
  | cons e es ih =>
    obtain ⟨k, v⟩ := e
    rw [insert]
    split
    · next same =>
      subst same
      by_cases h : other = key <;> simp [find?, h]
    · next different =>
      split
      · rfl
      · by_cases h : other = k
        · simp [find?, h, Ne.symm different]
        · simp [find?, h, ih]

/-- Of two insertions under one key the later one counts. -/
theorem insert_insert (es : Entries κ α) (key : κ) (before value : α) :
    (es.insert key before).insert key value = es.insert key value := by
  induction es with
  | nil => simp [insert]
  | cons e es ih =>
    obtain ⟨k, v⟩ := e
    by_cases same : key = k
    · simp [insert, same]
    · by_cases less : key < k
      · simp [insert, same, less]
      · simp [insert, same, less, ih]

end Insertion

section Order

variable [LT κ] [Std.Irrefl (α := κ) (· < ·)]

/-- Sorted entries have the value of each of their entries. -/
theorem find?_eq_some_iff {es : Entries κ α} (h : es.Sorted) {key : κ} {value : α} :
    es.find? key = some value ↔ (key, value) ∈ es := by
  induction es with
  | nil => simp [find?]
  | cons e es ih =>
    obtain ⟨k, v⟩ := e
    obtain ⟨first, others⟩ := List.pairwise_cons.mp h
    by_cases same : key = k
    · subst same
      have absent : (key, value) ∉ es := by
        intro mem
        have less : key < key := first _ mem
        exact Std.lt_irrefl less
      simp [find?, absent, eq_comm]
    · simp [find?, same, ih others]

/-- Leaving entries out leaves their values out. -/
theorem find?_filter {es : Entries κ α} (h : es.Sorted) (keep : κ → α → Bool) (key : κ) :
    find? (es.filter fun e ↦ keep e.1 e.2) key = (es.find? key).filter (keep key) := by
  apply Option.ext
  intro value
  rw [find?_eq_some_iff (h.filter _), List.mem_filter, Option.filter_eq_some_iff,
    find?_eq_some_iff h]

omit [DecidableEq κ] in
private theorem Sorted.nodup {es : Entries κ α} (h : es.Sorted) : es.Nodup := by
  apply List.Pairwise.imp _ h
  intro a b less same
  rw [same] at less
  exact Std.lt_irrefl less

/-- Sorted entries with the same values are the same entries. -/
theorem eq_of_find?_eq [Trans (α := κ) (· < ·) (· < ·) (· < ·)] {es fs : Entries κ α}
    (hes : es.Sorted) (hfs : fs.Sorted) (h : ∀ key, es.find? key = fs.find? key) : es = fs := by
  have same (e : κ × α) : e ∈ es ↔ e ∈ fs := by
    rw [← find?_eq_some_iff hes, ← find?_eq_some_iff hfs, h]
  apply List.Perm.eq_of_pairwise _ hes hfs
  · exact (List.perm_ext_iff_of_nodup hes.nodup hfs.nodup).mpr same
  · intro a b _ _ hab hba
    exact absurd (Std.lt_trans hab hba) Std.lt_irrefl

/-- Inserting the value that a key has changes nothing. -/
theorem insert_of_find?_eq_some [DecidableLT κ] [Trans (α := κ) (· < ·) (· < ·) (· < ·)]
    [Std.Trichotomous (α := κ) (· < ·)] {es : Entries κ α} (h : es.Sorted) {key : κ} {value : α}
    (found : es.find? key = some value) : es.insert key value = es := by
  apply eq_of_find?_eq (h.insert key value) h
  intro other
  rw [find?_insert]
  split
  · next same => rw [same, found]
  · rfl

end Order

end Entries

/-- Of the items that give an entry with a key, the last one gives a value. -/
def LastGives {α β : Type _} (give? : β → Option (String × α)) (xs : List β) (key : String)
    (value : α) : Prop :=
  ∃ before x after, xs = before ++ x :: after ∧ give? x = some (key, value) ∧
    ∀ y ∈ after, ∀ other, give? y ≠ some (key, other)

/-- The last item that gives an entry with a key is the last one that passes a test for this. -/
theorem lastGives_iff {α β : Type _} {give? : β → Option (String × α)} {xs : List β}
    {key : String} {value : α} {test : β → Bool}
    (gives : ∀ x, test x = true ↔ ∃ value, give? x = some (key, value)) :
    LastGives give? xs key value ↔
      ∃ x, (xs.filter test).getLast? = some x ∧ give? x = some (key, value) := by
  constructor
  · rintro ⟨before, x, after, rfl, found, none⟩
    have behind : after.filter test = [] := by
      rw [List.filter_eq_nil_iff]
      intro y mem passes
      obtain ⟨other, given⟩ := (gives y).mp passes
      exact none y mem other given
    refine ⟨x, ?_, found⟩
    rw [List.filter_append, List.filter_cons_of_pos ((gives x).mpr ⟨value, found⟩), behind,
      List.getLast?_concat]
  · rintro ⟨x, last, found⟩
    obtain ⟨front, split⟩ := List.getLast?_eq_some_iff.mp last
    obtain ⟨before, others, rfl, -, split⟩ := List.filter_eq_append_iff.mp split
    obtain ⟨fail, after, rfl, -, -, behind⟩ := List.filter_eq_cons_iff.mp split
    refine ⟨before ++ fail, x, after, by simp, found, fun y mem other given ↦ ?_⟩
    exact List.filter_eq_nil_iff.mp behind y mem ((gives y).mpr ⟨other, given⟩)

namespace Dictionary

variable {α : Type _}

/-- Dictionaries are equal if all keys have the same values. -/
theorem eq_of_find?_eq {d e : Dictionary α} (h : ∀ key, d.find? key = e.find? key) : d = e :=
  ext (Entries.eq_of_find?_eq d.sorted e.sorted h)

/-- The empty dictionary has no values. -/
@[simp] theorem find?_empty (key : String) : (empty : Dictionary α).find? key = none := rfl

/-- Insertion changes the value of one key. -/
theorem find?_insert (d : Dictionary α) (key other : String) (value : α) :
    (d.insert key value).find? other = if other = key then some value else d.find? other :=
  Entries.find?_insert d.entries key other value

/-- Leaving entries out leaves their values out. -/
theorem find?_filter (d : Dictionary α) (keep : String → α → Bool) (key : String) :
    (d.filter keep).find? key = (d.find? key).filter (keep key) :=
  Entries.find?_filter d.sorted keep key

/-- An entry is what its key stands for. -/
theorem mem_entries_iff {d : Dictionary α} {key : String} {value : α} :
    (key, value) ∈ d.entries ↔ d.find? key = some value :=
  (Entries.find?_eq_some_iff d.sorted).symm

/-- A key has a value. -/
theorem mem_keys_iff {d : Dictionary α} {key : String} :
    key ∈ d.keys ↔ d.contains key = true := by
  rw [contains, Option.isSome_iff_exists]
  simp [keys, ← mem_entries_iff]

private theorem find?_foldl_insert {es : Entries String α} (h : es.Sorted) (d : Dictionary α)
    (key : String) :
    (es.foldl (fun d e ↦ d.insert e.1 e.2) d).find? key = (es.find? key).or (d.find? key) := by
  induction es generalizing d with
  | nil => simp [Entries.find?]
  | cons e es ih =>
    obtain ⟨k, v⟩ := e
    obtain ⟨first, others⟩ := List.pairwise_cons.mp h
    rw [List.foldl_cons, ih others, find?_insert]
    by_cases same : key = k
    · subst same
      have absent : Entries.find? es key = none := by
        apply Entries.find?_eq_none_iff.mpr
        intro e he eq
        have less : key < e.1 := first e he
        exact String.lt_irrefl key (eq ▸ less)
      simp [Entries.find?, absent]
    · simp [Entries.find?, same]

private theorem find?_foldl_insert_lookup (es : Entries String α) (d : Dictionary α)
    (key : String) :
    (es.foldl (fun d e ↦ d.insert e.1 e.2) d).find? key =
      (es.reverse.lookup key).or (d.find? key) := by
  induction es generalizing d with
  | nil => rfl
  | cons e es ih =>
    obtain ⟨name, a⟩ := e
    rw [List.foldl_cons, ih, find?_insert, List.reverse_cons, List.lookup_append, Option.or_assoc]
    by_cases same : key = name
    · simp [same]
    · have different : (key == name) = false := beq_eq_false_iff_ne.mpr same
      simp [List.lookup_cons, same, different]

/-- Of two dictionaries, the values of the second one take precedence. -/
theorem find?_override (d fresh : Dictionary α) (key : String) :
    (d.override fresh).find? key = (fresh.find? key).or (d.find? key) :=
  find?_foldl_insert fresh.sorted d key

private theorem ofList_entries (d : Dictionary α) : ofList d.entries = d := by
  apply eq_of_find?_eq
  intro key
  rw [ofList, find?_foldl_insert d.sorted, find?_empty, Option.or_none]
  rfl

/-- Of entries with one key the last one counts. -/
theorem find?_ofList (es : Entries String α) (key : String) :
    (ofList es).find? key = es.reverse.lookup key := by
  rw [ofList, find?_foldl_insert_lookup, find?_empty, Option.or_none]

/-- Of the items that give an entry with a key, the last one counts. -/
theorem find?_ofList_filterMap_iff {β : Type _} {xs : List β} {give? : β → Option (String × α)}
    {key : String} {value : α} :
    (ofList (xs.filterMap give?)).find? key = some value ↔ LastGives give? xs key value := by
  have search : (ofList (xs.filterMap give?)).find? key = xs.reverse.findSome? fun x ↦
      (give? x).bind fun e ↦ if key == e.1 then some e.2 else none := by
    rw [find?_ofList, List.lookup_eq_findSome?, ← List.filterMap_reverse, ← List.head?_filterMap,
      List.filterMap_filterMap, List.head?_filterMap]
  have gives (x : β) (v : α) : ((give? x).bind fun e ↦ if key == e.1 then some e.2 else none) =
      some v ↔ give? x = some (key, v) := by
    simp only [Option.bind_eq_some_iff, Prod.exists, beq_iff_eq, Option.ite_none_right_eq_some,
      Option.some.injEq]
    constructor
    · rintro ⟨_, _, found, rfl, rfl⟩
      exact found
    · exact fun found ↦ ⟨key, v, found, rfl, rfl⟩
  simp only [LastGives, search, List.findSome?_eq_some_iff, gives,
    Option.eq_none_iff_forall_ne_some, ne_eq, List.reverse_eq_iff]
  constructor
  · rintro ⟨after, x, before, split, found, none⟩
    exact ⟨before.reverse, x, after.reverse, by simpa using split, found, by simpa using none⟩
  · rintro ⟨before, x, after, split, found, none⟩
    exact ⟨after.reverse, x, before.reverse, by simpa using split, found, by simpa using none⟩

/-- The entries of a dictionary give its values. -/
theorem lookup_reverse_entries (d : Dictionary α) (key : String) :
    d.entries.reverse.lookup key = d.find? key := by
  rw [← find?_ofList, ofList_entries]

/-- Overriding nothing gives the fresh values. -/
theorem empty_override (fresh : Dictionary α) : empty.override fresh = fresh := by
  apply eq_of_find?_eq
  intro key
  rw [find?_override, find?_empty, Option.or_none]

/-- A search through the values finds something if some value fits, and then the value of the least
key decides whose value fits. -/
theorem findSome?_values {β : Type _} {d : Dictionary α} {fit : α → Option β}
    (h : ∃ key value, d.find? key = some value ∧ fit value ≠ none) :
    ∃ key value result, d.find? key = some value ∧ fit value = some result ∧
      d.values.findSome? fit = some result ∧
      ∀ other value', d.find? other = some value' → fit value' ≠ none → key ≤ other := by
  have some : (d.values.findSome? fit).isSome = true := by
    obtain ⟨key, value, found, fits⟩ := h
    rw [List.findSome?_isSome_iff]
    refine ⟨value, ?_, Option.isSome_iff_ne_none.mpr fits⟩
    exact List.mem_map_of_mem (f := Prod.snd) (mem_entries_iff.mpr found)
  obtain ⟨result, first⟩ := Option.isSome_iff_exists.mp some
  have search := first
  rw [values, List.findSome?_map, List.findSome?_eq_some_iff] at search
  obtain ⟨before, ⟨key, value⟩, after, split, fits, misses⟩ := search
  have mem : (key, value) ∈ d.entries := by simp [split]
  have sorted := d.sorted
  rw [split, Entries.Sorted, List.pairwise_append, List.pairwise_cons] at sorted
  refine ⟨key, value, result, mem_entries_iff.mp mem, fits, first, ?_⟩
  intro other value' found fits'
  have there := mem_entries_iff.mpr found
  rw [split, List.mem_append, List.mem_cons] at there
  rcases there with earlier | same | later
  · exact absurd (misses _ earlier) fits'
  · cases same
    exact String.le_refl key
  · exact String.not_lt.mp (String.lt_asymm (sorted.2.1.1 _ later))

end Dictionary

end BuiltinAtlas
