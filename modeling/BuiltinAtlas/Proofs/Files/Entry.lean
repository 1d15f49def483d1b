import BuiltinAtlas.Files.Entry
import BuiltinAtlas.Proofs.Dictionary.Lookup

/-!
# What is at a place

What `Entry.put` changes: the entry at its place, and nothing at places that are not below it.
Directories on the way stay directories, with other entries in them.
-/

namespace BuiltinAtlas.Entry

/-- A place is that of a directory. -/
def DirectoryAt (e : Entry) (place : Place) : Prop := ∃ es, e.at? place = some (directory es)

/-- A place below another one is found from there. -/
theorem at?_append (e : Entry) (place below : Place) :
    e.at? (place ++ below) = (e.at? place).bind (·.at? below) := by
  induction place generalizing e with
  | nil => rw [List.nil_append, at?, Option.bind_some]
  | cons name place ih =>
    cases e with
    | file => rfl
    | link => rfl
    | directory es =>
      rw [List.cons_append, at?, at?, Option.bind_assoc]
      congr 1
      funext child
      exact ih child

/-- The names on the way to something in a well-formed tree are valid. -/
theorem WellFormed.validName_of_at? {e x : Entry} {place : Place} (h : e.WellFormed)
    (hx : e.at? place = some x) : ∀ n ∈ place, Path.ValidName n := by
  induction place generalizing e with
  | nil => exact nofun
  | cons name place ih =>
    cases e with
    | file => cases hx
    | link => cases hx
    | directory es =>
      rw [at?, Option.bind_eq_some_iff] at hx
      obtain ⟨child, found, hx⟩ := hx
      intro n hn
      rcases List.mem_cons.mp hn with rfl | below
      · rw [WellFormed] at h
        exact (allWellFormed_iff.mp h.2 _ (mem_of_find?_eq_some found)).1
      · exact ih (h.of_find? found) hx n below

/-- The names from a place to something below it are valid. -/
theorem WellFormed.validName_below {e x : Entry} {place below : Place} (h : e.WellFormed)
    (hx : e.at? (place ++ below) = some x) : ∀ n ∈ below, Path.ValidName n := fun n mem ↦
  h.validName_of_at? hx n (List.mem_append_right _ mem)

/-- What is around something is a directory. -/
theorem DirectoryAt.of_append {e x : Entry} {place below : Place}
    (h : e.at? (place ++ below) = some x) (hbelow : below ≠ []) : e.DirectoryAt place := by
  rw [at?_append] at h
  cases he : e.at? place with
  | none => rw [he] at h; cases h
  | some y =>
    cases below with
    | nil => exact absurd rfl hbelow
    | cons name below =>
      cases y with
      | file => rw [he] at h; cases h
      | link => rw [he] at h; cases h
      | directory es => exact ⟨es, he⟩

/-- What is around a directory is a directory. -/
theorem DirectoryAt.dropLast {e : Entry} {place : Place} (h : e.DirectoryAt place) :
    e.DirectoryAt place.dropLast := by
  rcases List.eq_nil_or_concat place with rfl | ⟨front, name, rfl⟩
  · exact h
  · obtain ⟨es, h⟩ := h
    rw [List.concat_eq_append] at h ⊢
    rw [List.dropLast_concat]
    exact .of_append h (List.cons_ne_nil _ _)

/-- If there is a directory, the root is one. -/
theorem DirectoryAt.root {e : Entry} {place : Place} (h : e.DirectoryAt place) :
    e.DirectoryAt [] := by
  cases place with
  | nil => exact h
  | cons name place =>
    obtain ⟨es, h⟩ := h
    rw [← List.nil_append (name :: place)] at h
    exact .of_append h (List.cons_ne_nil _ _)

/-- Where nothing or a file is there is no directory. -/
theorem not_directoryAt_of_free {e : Entry} {place : Place}
    (h : e.at? place = none ∨ ∃ content, e.at? place = some (file content)) :
    ¬ e.DirectoryAt place := by
  rintro ⟨es, directory⟩
  rcases h with none | ⟨content, file⟩
  · rw [none] at directory
    cases directory
  · rw [file] at directory
    cases directory

/-- Putting something below an entry changes that entry. -/
theorem put_cons_of_find? {es : List (RawText × Entry)} {name : RawText} {child : Entry}
    (h : Entries.find? es name = some child) (new : Entry) (place : Place) :
    put new (directory es) (name :: place) =
      directory (Entries.insert es name (put new child place)) := by
  cases place with
  | nil => rw [put, put]
  | cons =>
    rw [put, h]
    simp

/-- What is put into a directory is there. -/
theorem at?_put_self {e : Entry} {place : Place} (new : Entry) (name : RawText)
    (h : e.DirectoryAt place) : (put new e (place ++ [name])).at? (place ++ [name]) = some new := by
  obtain ⟨es, h⟩ := h
  induction place generalizing e with
  | nil =>
    obtain rfl : e = directory es := Option.some.inj h
    simp [put, at?, Entries.find?_insert]
  | cons first place ih =>
    cases e with
    | file => cases h
    | link => cases h
    | directory fs =>
      rw [at?] at h
      obtain ⟨child, found, h⟩ := Option.bind_eq_some_iff.mp h
      rw [List.cons_append, put_cons_of_find? found, at?, Entries.find?_insert, if_pos rfl,
        Option.bind_some]
      exact ih h

/-- Elsewhere nothing changes, except what is in the directories on the way. -/
theorem at?_put (new e : Entry) {place other : Place} (h : ¬ place <+: other) :
    (put new e place).at? other = e.at? other ∨
      e.DirectoryAt other ∧ (put new e place).DirectoryAt other := by
  induction place generalizing e other with
  | nil => exact absurd List.nil_prefix h
  | cons name place ih =>
    cases e with
    | file => exact .inl (by simp [put])
    | link => exact .inl (by simp [put])
    | directory es =>
      have changed (child : Entry) :
          (directory (Entries.insert es name child)).at? other = (directory es).at? other ∨
            (directory es).DirectoryAt other ∧
              (directory (Entries.insert es name child)).DirectoryAt other ∨
            ∃ below, other = name :: below := by
        cases other with
        | nil => exact .inr (.inl ⟨⟨es, rfl⟩, ⟨_, rfl⟩⟩)
        | cons first below =>
          by_cases same : first = name
          · exact .inr (.inr ⟨below, by rw [same]⟩)
          · exact .inl (by rw [at?, at?, Entries.find?_insert, if_neg same])
      cases found : Entries.find? es name with
      | none =>
        cases place with
        | nil =>
          rw [put]
          rcases changed new with same | both | ⟨below, rfl⟩
          · exact .inl same
          · exact .inr both
          · exact absurd (List.cons_prefix_cons.mpr ⟨rfl, List.nil_prefix⟩) h
        | cons =>
          left
          rw [put, found]
          simp
      | some child =>
        rw [put_cons_of_find? found]
        rcases changed (put new child place) with same | both | ⟨below, rfl⟩
        · exact .inl same
        · exact .inr both
        · have step := ih child fun deeper ↦ h (List.cons_prefix_cons.mpr ⟨rfl, deeper⟩)
          simpa [at?, DirectoryAt, Entries.find?_insert, found] using step

/-- At places that are neither below nor on the way nothing changes. -/
theorem at?_put_of_apart (new e : Entry) {place other : Place} (notBelow : ¬ place <+: other)
    (notAbove : ¬ other <+: place) : (put new e place).at? other = e.at? other := by
  induction place generalizing e other with
  | nil => exact absurd List.nil_prefix notBelow
  | cons name place ih =>
    cases e with
    | file => simp [put]
    | link => simp [put]
    | directory es =>
      cases other with
      | nil => exact absurd List.nil_prefix notAbove
      | cons first below =>
        by_cases same : first = name
        · subst same
          have notBelow : ¬ place <+: below := fun h ↦
            notBelow (List.cons_prefix_cons.mpr ⟨rfl, h⟩)
          have notAbove : ¬ below <+: place := fun h ↦
            notAbove (List.cons_prefix_cons.mpr ⟨rfl, h⟩)
          cases found : Entries.find? es first with
          | none =>
            cases place with
            | nil => exact absurd List.nil_prefix notBelow
            | cons => simp [put, found]
          | some child =>
            rw [put_cons_of_find? found, at?, at?, Entries.find?_insert, if_pos rfl, found,
              Option.bind_some, Option.bind_some]
            exact ih child notBelow notAbove
        · have kept (child : Entry) :
              (directory (Entries.insert es name child)).at? (first :: below) =
                (directory es).at? (first :: below) := by
            rw [at?, at?, Entries.find?_insert, if_neg same]
          cases found : Entries.find? es name with
          | none =>
            cases place with
            | nil =>
              rw [put]
              exact kept new
            | cons => simp [put, found]
          | some child =>
            rw [put_cons_of_find? found]
            exact kept _

/-- There is nothing in a file. -/
theorem at?_file (content : ByteArray) (below : Place) (h : below ≠ []) :
    (file content).at? below = none := by
  cases below with
  | nil => exact absurd rfl h
  | cons => rfl

/-- There is nothing in an empty directory. -/
theorem at?_directory_nil (below : Place) (h : below ≠ []) : (directory []).at? below = none := by
  cases below with
  | nil => exact absurd rfl h
  | cons => rfl

/-- Where something without entries is put and no directory was, nothing changes at other places,
except what is in the directories on the way. -/
theorem at?_put_leaf {new e : Entry} {around other : Place} {name : RawText}
    (dir : e.DirectoryAt around) (noDirectory : ¬ e.DirectoryAt (around ++ [name]))
    (leaf : ∀ below, below ≠ [] → new.at? below = none) (elsewhere : other ≠ around ++ [name]) :
    (put new e (around ++ [name])).at? other = e.at? other ∨
      e.DirectoryAt other ∧ (put new e (around ++ [name])).DirectoryAt other := by
  by_cases below : around ++ [name] <+: other
  · obtain ⟨rest, rfl⟩ := below
    have more : rest ≠ [] := by
      rintro rfl
      exact elsewhere (List.append_nil _)
    have before : e.at? (around ++ [name] ++ rest) = none := by
      apply Option.eq_none_iff_forall_ne_some.mpr
      intro x there
      exact noDirectory (.of_append there more)
    left
    rw [before, at?_append, at?_put_self new name dir]
    exact leaf rest more
  · exact at?_put new e below

/-- Where something without entries is put and no directory was, nothing else is new. -/
theorem eq_of_at?_put_leaf {new e x : Entry} {around other : Place} {name : RawText}
    (dir : e.DirectoryAt around) (noDirectory : ¬ e.DirectoryAt (around ++ [name]))
    (leaf : ∀ below, below ≠ [] → new.at? below = none) (missing : e.at? other = none)
    (there : (put new e (around ++ [name])).at? other = some x) : other = around ++ [name] := by
  refine Classical.byContradiction fun elsewhere ↦ ?_
  rcases at?_put_leaf dir noDirectory leaf elsewhere with same | ⟨⟨es, before⟩, -⟩
  · rw [same, missing] at there
    cases there
  · rw [missing] at before
    cases before

/-- Of two entries put at one place the later one counts. -/
theorem put_put (e before new : Entry) (place : Place) :
    put new (put before e place) place = put new e place := by
  induction place generalizing e with
  | nil => rw [put, put]
  | cons name place ih =>
    cases e with
    | file => simp [put]
    | link => simp [put]
    | directory es =>
      cases found : Entries.find? es name with
      | none =>
        cases place with
        | nil => rw [put, put, put, Entries.insert_insert]
        | cons next place => simp [put, found]
      | some child =>
        have there : Entries.find? (Entries.insert es name (put before child place)) name =
            some (put before child place) := by
          rw [Entries.find?_insert, if_pos rfl]
        rw [put_cons_of_find? found, put_cons_of_find? there, put_cons_of_find? found, ih,
          Entries.insert_insert]

/-- Putting something where it is changes nothing. -/
theorem put_of_at?_eq_some {e new : Entry} {place : Place} (h : e.WellFormed)
    (found : e.at? place = some new) : put new e place = e := by
  induction place generalizing e with
  | nil =>
    rw [put]
    exact (Option.some.inj found).symm
  | cons name place ih =>
    cases e with
    | file => cases found
    | link => cases found
    | directory es =>
      rw [at?] at found
      obtain ⟨child, hchild, found⟩ := Option.bind_eq_some_iff.mp found
      rw [put_cons_of_find? hchild, ih (h.of_find? hchild) found]
      rw [WellFormed] at h
      rw [Entries.insert_of_find?_eq_some h.1 hchild]

end BuiltinAtlas.Entry
