import BuiltinAtlas.Proofs.Files.Entry

/-!
# What stays in a tree when a file is written

Writing a file, and creating the directories around it before, changes little: directories stay
directories, and files and links stay as they are, except for the file that is written. `Kept` says
so of two trees, place by place. All that following names depends on is in `Ways`.
-/

namespace BuiltinAtlas.Entry

/-- Directories of a tree are directories in another one, and both have the same links. -/
structure Ways (e e' : Entry) : Prop where
  directory {place : Place} : e.DirectoryAt place → e'.DirectoryAt place
  link {place : Place} {target : RawText} :
    e'.at? place = some (link target) ↔ e.at? place = some (link target)

/-- How what is at one place may change, which may be that of the written file. -/
inductive Stays (written : Prop) : Option Entry → Option Entry → Prop
  | same (x : Option Entry) : Stays written x x
  /-- A directory gets other entries. -/
  | inside (es es' : List (RawText × Entry)) :
      Stays written (some (directory es)) (some (directory es'))
  /-- A directory is created. -/
  | created (es : List (RawText × Entry)) : Stays written none (some (directory es))
  /-- The file is new. -/
  | new (content : ByteArray) : written → Stays written none (some (file content))
  /-- The file gets new content. -/
  | changed (before content : ByteArray) :
      written → Stays written (some (file before)) (some (file content))

namespace Stays

variable {written : Prop} {x y z : Option Entry}

/-- What stays twice stays. -/
theorem trans (h : Stays written x y) (h' : Stays written y z) : Stays written x z := by
  cases h with
  | same => exact h'
  | inside es es' =>
    cases h' with
    | same => exact .inside es es'
    | inside _ es'' => exact .inside es es''
  | created es =>
    cases h' with
    | same => exact .created es
    | inside _ es' => exact .created es'
  | new content here =>
    cases h' with
    | same => exact .new content here
    | changed _ content' => exact .new content' here
  | changed before content here =>
    cases h' with
    | same => exact .changed before content here
    | changed _ content' => exact .changed before content' here

/-- A directory stays one. -/
theorem directory {es : List (RawText × Entry)} (h : Stays written (some (.directory es)) y) :
    ∃ es', y = some (.directory es') := by
  cases h with
  | same => exact ⟨es, rfl⟩
  | inside _ es' => exact ⟨es', rfl⟩

/-- A file stays one, and keeps its content unless it is written. -/
theorem file {content : ByteArray} (h : Stays written (some (.file content)) y) :
    y = some (.file content) ∨ written ∧ ∃ content', y = some (.file content') := by
  cases h with
  | same => exact .inl rfl
  | changed _ content' here => exact .inr ⟨here, content', rfl⟩

/-- A link stays as it is. -/
theorem link {target : RawText} (h : Stays written (some (.link target)) y) :
    y = some (.link target) := by
  cases h
  rfl

private theorem link_back {target : RawText} (h : Stays written x (some (.link target))) :
    x = some (.link target) := by
  cases h
  rfl

/-- What is a directory was one, if it was anything. -/
theorem directory_back {x : Entry} {es : List (RawText × Entry)}
    (h : Stays written (some x) (some (.directory es))) : ∃ es', x = .directory es' := by
  cases h with
  | same => exact ⟨es, rfl⟩
  | inside es' => exact ⟨es', rfl⟩

/-- A file that is not written was there before. -/
theorem file_back {content : ByteArray} (h : Stays written x (some (.file content)))
    (elsewhere : ¬ written) : x = some (.file content) := by
  cases h with
  | same => rfl
  | new _ here => exact absurd here elsewhere
  | changed _ _ here => exact absurd here elsewhere

/-- What stays if one file may be written stays if more may be. -/
theorem mono {more : Prop} (h : Stays written x y) (imp : written → more) : Stays more x y := by
  cases h with
  | same => exact .same x
  | inside es es' => exact .inside es es'
  | created es => exact .created es
  | new content here => exact .new content (imp here)
  | changed before content here => exact .changed before content (imp here)

end Stays

/-- Names lead through a tree as before if at each place all stays. -/
theorem Ways.of_stays {written : Place → Prop} {e e' : Entry}
    (h : ∀ place, Stays (written place) (e.at? place) (e'.at? place)) : e.Ways e' where
  directory {place} := by
    rintro ⟨es, there⟩
    have stays := h place
    rw [there] at stays
    exact stays.directory
  link {place target} := by
    have stays := h place
    constructor
    · intro now
      rw [now] at stays
      exact stays.link_back
    · intro before
      rw [before] at stays
      exact stays.link

/-- Nothing changes in a tree but the file at a place, and directories that are created. -/
def Kept (written : Place) (e e' : Entry) : Prop :=
  ∀ place, Stays (place = written) (e.at? place) (e'.at? place)

namespace Kept

variable {written place : Place} {e e' e'' : Entry}

/-- A tree keeps itself. -/
theorem refl (written : Place) (e : Entry) : Kept written e e := fun place ↦ .same (e.at? place)

/-- What is kept twice is kept. -/
theorem trans (h : Kept written e e') (h' : Kept written e' e'') : Kept written e e'' :=
  fun place ↦ (h place).trans (h' place)

/-- Names lead through a tree that was kept as before. -/
theorem ways (h : Kept written e e') : e.Ways e' := .of_stays h

/-- Putting something without entries where no directory is keeps the tree if that may be there. -/
theorem put {new : Entry} {around : Place} {name : RawText} (dir : e.DirectoryAt around)
    (noDirectory : ¬ e.DirectoryAt (around ++ [name]))
    (leaf : ∀ below, below ≠ [] → new.at? below = none)
    (here : Stays (around ++ [name] = written) (e.at? (around ++ [name])) (some new)) :
    Kept written e (Entry.put new e (around ++ [name])) := by
  intro other
  by_cases same : other = around ++ [name]
  · rw [same, at?_put_self new name dir]
    exact here
  · rcases at?_put_leaf dir noDirectory leaf same with kept | ⟨⟨es, old⟩, ⟨es', changed⟩⟩
    · rw [kept]
      exact .same _
    · rw [old, changed]
      exact .inside es es'

/-- A file is written where nothing or a file is. -/
theorem put_file {around : Place} {name : RawText} (dir : e.DirectoryAt around)
    (free : e.at? (around ++ [name]) = none ∨
      ∃ before, e.at? (around ++ [name]) = some (file before))
    (content : ByteArray) :
    Kept (around ++ [name]) e (Entry.put (file content) e (around ++ [name])) := by
  apply put dir (not_directoryAt_of_free free) (at?_file content)
  rcases free with none | ⟨before, there⟩
  · rw [none]
    exact .new content rfl
  · rw [there]
    exact .changed before content rfl

/-- A directory is created where nothing is. -/
theorem put_directory {around : Place} {name : RawText} (dir : e.DirectoryAt around)
    (free : e.at? (around ++ [name]) = none) :
    Kept written e (Entry.put (.directory []) e (around ++ [name])) := by
  apply put dir (not_directoryAt_of_free (.inl free)) at?_directory_nil
  rw [free]
  exact .created []

end Kept

end BuiltinAtlas.Entry
