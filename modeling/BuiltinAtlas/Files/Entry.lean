import BuiltinAtlas.Dictionary.Basic
import BuiltinAtlas.Files.Path

/-!
# Directory trees

An `Entry` is what a name stands for: a file, a symbolic link, or a directory of further entries.
Places in a tree are lists of names. In a well-formed tree the entries of each directory stand in
the order of their names, and the names are valid; changing a tree keeps it well-formed.
-/

namespace BuiltinAtlas

/-- A file, link or directory. -/
inductive Entry where
  | file (content : ByteArray)
  /-- A link, to what its target leads to. -/
  | link (target : RawText)
  | directory (entries : List (RawText × Entry))

/-- A place in a tree: the names from the root. -/
abbrev Place := List RawText

namespace Entry

/-- What is at a place. -/
def at? : Entry → Place → Option Entry
  | e, [] => some e
  | directory es, name :: place => (Entries.find? es name).bind (·.at? place)
  | file _, _ :: _ | link _, _ :: _ => none

/-- Put something at a place, if the directory around it is there. -/
def put (new : Entry) : Entry → Place → Entry
  | _, [] => new
  | directory es, [name] => directory (Entries.insert es name new)
  | directory es, name :: place =>
    match Entries.find? es name with
    | some child => directory (Entries.insert es name (put new child place))
    | none => directory es
  | e, _ :: _ => e

/-- Remove what is at a place, other than the root. -/
def remove : Entry → Place → Entry
  | directory es, [name] => directory (Entries.erase es name)
  | directory es, name :: place =>
    match Entries.find? es name with
    | some child => directory (Entries.insert es name (remove child place))
    | none => directory es
  | e, _ => e

mutual

/-- Names are valid and stand in order, in every directory, and a target of a link has no byte
that no name can have. -/
def WellFormed : Entry → Prop
  | file _ => True
  | link target => 0 ∉ target.toList
  | directory es => Entries.Sorted es ∧ AllWellFormed es

/-- Names are valid, and entries well-formed. -/
def AllWellFormed : List (RawText × Entry) → Prop
  | [] => True
  | (name, e) :: es => (Path.ValidName name ∧ e.WellFormed) ∧ AllWellFormed es

end

/-- All entries of a directory are well-formed if each one is. -/
theorem allWellFormed_iff {es : List (RawText × Entry)} :
    AllWellFormed es ↔ ∀ e ∈ es, Path.ValidName e.1 ∧ e.2.WellFormed := by
  induction es with
  | nil => simp [AllWellFormed]
  | cons e es ih => simp [AllWellFormed, ih]

/-- What is found in entries is among them. -/
theorem mem_of_find?_eq_some {α : Type _} {es : Entries RawText α} {name : RawText} {v : α}
    (h : es.find? name = some v) : (name, v) ∈ es := by
  induction es with
  | nil => cases h
  | cons e es ih =>
    obtain ⟨k, w⟩ := e
    rw [Entries.find?] at h
    split at h
    · next same => simp_all
    · exact List.mem_cons_of_mem _ (ih h)

/-- Setting a well-formed entry keeps a directory well-formed. -/
theorem WellFormed.insert {es : List (RawText × Entry)} {name : RawText} {e : Entry}
    (h : (directory es).WellFormed) (hname : Path.ValidName name) (he : e.WellFormed) :
    (directory (Entries.insert es name e)).WellFormed := by
  rw [WellFormed] at h ⊢
  refine ⟨h.1.insert name e, allWellFormed_iff.mpr fun x hx ↦ ?_⟩
  rcases Entries.mem_of_mem_insert hx with rfl | hx
  · exact ⟨hname, he⟩
  · exact allWellFormed_iff.mp h.2 x hx

/-- What is found in a well-formed directory is well-formed. -/
theorem WellFormed.of_find? {es : List (RawText × Entry)} {name : RawText} {e : Entry}
    (h : (directory es).WellFormed) (he : Entries.find? es name = some e) : e.WellFormed := by
  rw [WellFormed] at h
  exact (allWellFormed_iff.mp h.2 _ (mem_of_find?_eq_some he)).2

/-- What is in a well-formed tree is well-formed. -/
theorem WellFormed.of_at? {e x : Entry} {place : Place} (h : e.WellFormed)
    (hx : e.at? place = some x) : x.WellFormed := by
  induction place generalizing e with
  | nil =>
    rw [at?] at hx
    exact Option.some.inj hx ▸ h
  | cons name place ih =>
    cases e with
    | file => cases hx
    | link => cases hx
    | directory es =>
      rw [at?, Option.bind_eq_some_iff] at hx
      obtain ⟨child, found, hx⟩ := hx
      exact ih (h.of_find? found) hx

/-- Putting a well-formed entry at a place with valid names keeps a tree well-formed. -/
theorem WellFormed.put {new e : Entry} {place : Place} (h : e.WellFormed) (hnew : new.WellFormed)
    (hplace : ∀ n ∈ place, Path.ValidName n) : (Entry.put new e place).WellFormed := by
  induction place generalizing e with
  | nil => simpa [Entry.put] using hnew
  | cons name place ih =>
    cases e with
    | file => simpa [Entry.put] using h
    | link => simpa [Entry.put] using h
    | directory es =>
      have hname := hplace name List.mem_cons_self
      cases place with
      | nil => exact h.insert hname hnew
      | cons n ns =>
        rw [Entry.put]
        split
        · next child found =>
          exact h.insert hname
            (ih (h.of_find? found) fun x hx ↦ hplace x (List.mem_cons_of_mem _ hx))
        · exact h
        · simp

/-- Removing something keeps a tree well-formed. -/
theorem WellFormed.remove {e : Entry} {place : Place} (h : e.WellFormed)
    (hplace : ∀ n ∈ place, Path.ValidName n) : (e.remove place).WellFormed := by
  induction place generalizing e with
  | nil => simpa [Entry.remove] using h
  | cons name place ih =>
    cases e with
    | file => simpa [Entry.remove] using h
    | link => simpa [Entry.remove] using h
    | directory es =>
      cases place with
      | nil =>
        rw [Entry.remove, WellFormed]
        rw [WellFormed] at h
        exact ⟨h.1.filter _, allWellFormed_iff.mpr fun x hx ↦
          allWellFormed_iff.mp h.2 x (List.mem_filter.mp hx).1⟩
      | cons n ns =>
        rw [Entry.remove]
        split
        · next child found =>
          exact h.insert (hplace name List.mem_cons_self)
            (ih (h.of_find? found) fun x hx ↦ hplace x (List.mem_cons_of_mem _ hx))
        · exact h
        · simp

end Entry

end BuiltinAtlas
