/-!
# Dictionaries

A `Dictionary` maps strings to values. Its entries stand in the order of their keys, which is the
order of code points, and each key occurs once, so that two dictionaries with the same entries are
equal. The operations work on `Entries`, lists of values and their keys, which may be any ordered
type, and keep them sorted.
-/

namespace BuiltinAtlas

/-- Keys with their values. -/
abbrev Entries (κ α : Type _) := List (κ × α)

namespace Entries

section Order

variable {κ α : Type _} [LT κ]

/-- The keys increase strictly. -/
def Sorted (es : Entries κ α) : Prop := es.Pairwise fun a b ↦ a.1 < b.1

/-- Whether entries are sorted can be decided. -/
instance [DecidableLT κ] (es : Entries κ α) : Decidable (Sorted es) :=
  inferInstanceAs (Decidable (es.Pairwise fun a b ↦ a.1 < b.1))

/-- Entries stay sorted when some are left out. -/
theorem Sorted.filter {es : Entries κ α} (h : Sorted es) (keep : κ × α → Bool) :
    Sorted (es.filter keep) := List.Pairwise.filter _ h

end Order

variable {κ α : Type _} [DecidableEq κ]

/-- The value of a key. -/
def find? (es : Entries κ α) (key : κ) : Option α :=
  match es with
  | [] => none
  | (k, v) :: rest => if key = k then some v else find? rest key

/-- Remove a key. -/
def erase (es : Entries κ α) (key : κ) : Entries κ α := es.filter (·.1 ≠ key)

variable [LT κ] [DecidableLT κ]

/-- Set the value of a key. -/
def insert (es : Entries κ α) (key : κ) (value : α) : Entries κ α :=
  match es with
  | [] => [(key, value)]
  | (k, v) :: rest =>
    if key = k then (key, value) :: rest
    else if key < k then (key, value) :: (k, v) :: rest
    else (k, v) :: insert rest key value

/-- An inserted entry is the new one or an old one. -/
theorem mem_of_mem_insert {es : Entries κ α} {key : κ} {value : α} {e : κ × α}
    (h : e ∈ es.insert key value) : e = (key, value) ∨ e ∈ es := by
  induction es with
  | nil => simpa [insert] using h
  | cons head rest ih =>
    obtain ⟨k, v⟩ := head
    unfold insert at h
    split at h
    · rcases List.mem_cons.mp h with h | h
      · exact .inl h
      · exact .inr (List.mem_cons_of_mem _ h)
    · split at h
      · exact List.mem_cons.mp h
      · rcases List.mem_cons.mp h with h | h
        · exact .inr (h ▸ List.mem_cons_self)
        · exact (ih h).imp id (List.mem_cons_of_mem _)

/-- Insertion keeps entries sorted. -/
theorem Sorted.insert [Trans (α := κ) (· < ·) (· < ·) (· < ·)] [Std.Trichotomous (α := κ) (· < ·)]
    {es : Entries κ α} (h : Sorted es) (key : κ) (value : α) :
    Sorted (es.insert key value) := by
  induction es with
  | nil => simp [Sorted, Entries.insert]
  | cons head rest ih =>
    obtain ⟨k, v⟩ := head
    obtain ⟨first, others⟩ := List.pairwise_cons.mp h
    unfold Entries.insert
    split
    · next same => exact List.pairwise_cons.mpr ⟨by simpa [same] using first, others⟩
    · next different =>
      split
      · next less =>
        refine List.pairwise_cons.mpr ⟨fun e he ↦ ?_, h⟩
        rcases List.mem_cons.mp he with rfl | he
        · exact less
        · exact Std.lt_trans less (first e he)
      · next notLess =>
        refine List.pairwise_cons.mpr ⟨fun e he ↦ ?_, ih others⟩
        rcases mem_of_mem_insert he with rfl | he
        · exact Classical.byContradiction fun no ↦
            different (Std.Trichotomous.trichotomous (r := (· < ·)) key k notLess no)
        · exact first e he

end Entries

/-- A finite mapping of strings, in the order of the keys. -/
structure Dictionary (α : Type _) where
  entries : Entries String α
  sorted : entries.Sorted

namespace Dictionary

variable {α : Type _}

/-- Dictionaries with the same entries are equal. -/
@[ext] theorem ext {a b : Dictionary α} (h : a.entries = b.entries) : a = b := by
  cases a
  cases b
  congr

/-- Equality compares the entries. -/
instance [DecidableEq α] : DecidableEq (Dictionary α) := fun a b ↦
  decidable_of_iff (a.entries = b.entries) ⟨ext, congrArg entries⟩

/-- The dictionary without entries. -/
def empty : Dictionary α := ⟨[], .nil⟩

/-- By default a dictionary is empty. -/
instance : Inhabited (Dictionary α) := ⟨empty⟩

/-- The value of a key. -/
def find? (d : Dictionary α) (key : String) : Option α := d.entries.find? key

/-- Whether a key has a value. -/
def contains (d : Dictionary α) (key : String) : Bool := (d.find? key).isSome

/-- Set the value of a key. -/
def insert (d : Dictionary α) (key : String) (value : α) : Dictionary α :=
  ⟨d.entries.insert key value, d.sorted.insert key value⟩

/-- The entries that pass a test. -/
def filter (d : Dictionary α) (keep : String → α → Bool) : Dictionary α :=
  ⟨d.entries.filter fun e ↦ keep e.1 e.2, d.sorted.filter _⟩

/-- The entries of both, where those of the second count if a key is in both. -/
def override (d fresh : Dictionary α) : Dictionary α :=
  fresh.entries.foldl (fun d e ↦ d.insert e.1 e.2) d

/-- The dictionary of some entries, where the last entry of a key counts. -/
def ofList (es : Entries String α) : Dictionary α := es.foldl (fun d e ↦ d.insert e.1 e.2) empty

/-- The keys in order. -/
def keys (d : Dictionary α) : List String := d.entries.map (·.1)

/-- The values, in the order of their keys. -/
def values (d : Dictionary α) : List α := d.entries.map (·.2)

/-- The number of keys. -/
def size (d : Dictionary α) : Nat := d.entries.length

/-- Whether there is no key. -/
def isEmpty (d : Dictionary α) : Bool := d.entries.isEmpty

end Dictionary

end BuiltinAtlas
