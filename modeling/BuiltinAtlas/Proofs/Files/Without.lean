import BuiltinAtlas.Proofs.Files.Scan

/-!
# File systems without some files

`FileSystem.Without` says of two file systems that the second one is the first one without the files
at some paths. Removing a file gives such a file system (`without_remove`). Paths lead to the same
directories in both, other files keep their content, and the sources of a directory are the others,
in the same order (`Without.sources`).
-/

namespace BuiltinAtlas

namespace Entry

/-- How what is at one place differs between a tree and that tree without some files, one of which
may be at the place. -/
inductive Lacks (gone : Prop) : Option Entry → Option Entry → Prop
  | same (x : Option Entry) : ¬ gone → Lacks gone x x
  /-- A directory may have lost files. -/
  | inside (es es' : List (RawText × Entry)) :
      ¬ gone → Lacks gone (some (directory es)) (some (directory es'))
  /-- The file is gone. -/
  | gone (content : ByteArray) : gone → Lacks gone (some (file content)) none

namespace Lacks

variable {gone later : Prop} {x y z : Option Entry}

/-- Files may go one after the other. -/
theorem trans (h : Lacks gone x y) (h' : Lacks later y z) : Lacks (gone ∨ later) x z := by
  cases h with
  | same _ here =>
    cases h' with
    | same _ here' => exact .same x (not_or.mpr ⟨here, here'⟩)
    | inside es es' here' => exact .inside es es' (not_or.mpr ⟨here, here'⟩)
    | gone content lost => exact .gone content (.inr lost)
  | inside es es' here =>
    cases h' with
    | same _ here' => exact .inside es es' (not_or.mpr ⟨here, here'⟩)
    | inside _ es'' here' => exact .inside es es'' (not_or.mpr ⟨here, here'⟩)
  | gone content lost =>
    cases h' with
    | same => exact .gone content (.inl lost)

/-- Whether a file is gone may be said in another way. -/
theorem congr (h : Lacks gone x y) (same : gone ↔ later) : Lacks later x y := by
  rwa [← propext same]

/-- A directory stays one. -/
theorem directory {es : List (RawText × Entry)} (h : Lacks gone (some (.directory es)) y) :
    ∃ es', y = some (.directory es') := by
  cases h with
  | same => exact ⟨es, rfl⟩
  | inside _ es' => exact ⟨es', rfl⟩

/-- What is a directory was one. -/
theorem directory_back {es' : List (RawText × Entry)} (h : Lacks gone x (some (.directory es'))) :
    ∃ es, x = some (.directory es) := by
  cases h with
  | same => exact ⟨es', rfl⟩
  | inside es => exact ⟨es, rfl⟩

/-- Nothing is new, and no file was lost where nothing was. -/
theorem eq_none (h : Lacks gone none y) : y = none ∧ ¬ gone := by
  cases h with
  | same _ here => exact ⟨rfl, here⟩

/-- A file stays as it is or is lost. -/
theorem file {content : ByteArray} (h : Lacks gone (some (.file content)) y) :
    y = some (.file content) ∨ y = none := by
  cases h with
  | same => exact .inl rfl
  | gone => exact .inr rfl

/-- No file was lost where a directory is. -/
theorem not_gone_of_directory {es : List (RawText × Entry)}
    (h : Lacks gone (some (.directory es)) y) : ¬ gone := by
  cases h with
  | same _ here => exact here
  | inside _ _ here => exact here

private theorem link_iff {target : RawText} (h : Lacks gone x y) :
    y = some (.link target) ↔ x = some (.link target) := by
  cases h <;> simp

private theorem file_iff {content : ByteArray} (h : Lacks gone x y) :
    y = some (.file content) ↔ x = some (.file content) ∧ ¬ gone := by
  cases h with
  | same _ here => simp [here]
  | inside _ _ here => simp
  | gone _ lost => simp [lost]

end Lacks

private theorem lacks_remove {e : Entry} {place : Place} {content : ByteArray}
    (there : e.at? place = some (file content)) (inside : place ≠ []) (other : Place) :
    Lacks (other = place) (e.at? other) ((e.remove place).at? other) := by
  induction place generalizing e other with
  | nil => exact absurd rfl inside
  | cons name place ih =>
    cases e with
    | file => cases there
    | link => cases there
    | directory es =>
      rw [at?, Option.bind_eq_some_iff] at there
      obtain ⟨child, found, there⟩ := there
      cases other with
      | nil =>
        have stays : ∃ es', (remove (directory es) (name :: place)) = directory es' := by
          cases place with
          | nil => exact ⟨_, rfl⟩
          | cons =>
            simp only [remove, found]
            exact ⟨_, rfl⟩
        obtain ⟨es', same⟩ := stays
        rw [same]
        exact .inside es es' (List.cons_ne_nil name place).symm
      | cons first below =>
        -- Only what is below the first name of the place changes.
        have changed : ((directory es).remove (name :: place)).at? (first :: below) =
            if first = name then (if place = [] then none else (child.remove place).at? below)
            else (directory es).at? (first :: below) := by
          cases place with
          | nil =>
            rw [remove, at?, Entries.find?_erase]
            by_cases h : first = name <;> simp [h, at?]
          | cons =>
            simp only [remove, found]
            rw [at?, Entries.find?_insert]
            by_cases h : first = name <;> simp [h, at?]
        rw [changed]
        by_cases h : first = name
        · subst h
          rw [if_pos rfl, at?, found, Option.bind_some]
          by_cases atEnd : place = []
          · subst atEnd
            obtain rfl : child = file content := Option.some.inj there
            rw [if_pos rfl]
            cases below with
            | nil => exact .gone content rfl
            | cons => exact .same none (by simp)
          · rw [if_neg atEnd]
            exact (ih there atEnd below).congr (by simp)
        · rw [if_neg h]
          exact .same _ (by simp [h])

end Entry

namespace FileSystem

/-- A file system is another one without the files at some canonical paths. -/
structure Without (gone : List RawText) (fs fs' : FileSystem) : Prop where
  root (place : ValidPlace) :
    Entry.Lacks (Path.ofNames place.1 ∈ gone) (fs.root.at? place.1) (fs'.root.at? place.1)
  workingDirectory : fs'.workingDirectory = fs.workingDirectory

private theorem at?_eq_none_or_valid (fs fs' : FileSystem) (place : Place) :
    (fs.root.at? place = none ∧ fs'.root.at? place = none) ∨
      ∃ valid : ValidPlace, valid.1 = place := by
  by_cases valid : ∀ n ∈ place, Path.ValidName n
  · exact .inr ⟨⟨place, valid⟩, rfl⟩
  · refine .inl ⟨?_, ?_⟩
    · exact Option.eq_none_iff_forall_ne_some.mpr fun x there ↦
        valid (fs.wellFormed.validName_of_at? there)
    · exact Option.eq_none_iff_forall_ne_some.mpr fun x there ↦
        valid (fs'.wellFormed.validName_of_at? there)

/-- Without no file, a file system is the same. -/
theorem Without.refl (fs : FileSystem) : fs.Without [] fs :=
  ⟨fun _ ↦ .same _ List.not_mem_nil, rfl⟩

/-- Files may go one after the other. -/
theorem Without.trans {fs fs' fs'' : FileSystem} {gone later : List RawText}
    (h : fs.Without gone fs') (h' : fs'.Without later fs'') : fs.Without (gone ++ later) fs'' where
  root place := ((h.root place).trans (h'.root place)).congr List.mem_append.symm
  workingDirectory := h'.workingDirectory.trans h.workingDirectory

private theorem without_remove {fs : FileSystem} {place : ValidPlace} {content : ByteArray}
    (found : fs.find (Path.ofNames place.1) = .ok (place, .file content)) :
    ∃ fs', fs.remove (Path.ofNames place.1) = .ok fs' ∧
      fs.Without [Path.ofNames place.1] fs' := by
  have there := (find_eq_ok_iff.mp found).2
  have root := root_of_find found
  have located : fs.locate (Path.ofNames place.1) false = .ok place := by
    refine locate_eq_ok_iff.mpr
      ⟨Path.noNul_ofNames place.2, Path.ofNames_ne_empty place.1, ?_, ?_⟩
    · rw [start_ofNames]
      exact root
    · rw [start_ofNames]
      exact walk_ofNames place.2 there nofun
  have inside : place.1 ≠ [] := by
    intro none
    obtain ⟨es, directory⟩ := root
    rw [none, directory] at there
    cases there
  rw [remove, located]
  simp only [bind, Except.bind, there]
  refine ⟨_, rfl, ?_, rfl⟩
  intro other
  apply (Entry.lacks_remove there inside other.1).congr
  rw [List.mem_singleton]
  exact ⟨congrArg Path.ofNames, Path.eq_of_ofNames_eq other.2 place.2⟩

namespace Without

variable {fs fs' : FileSystem} {gone : List RawText} {path : RawText} {place : ValidPlace}

/-- Names lead through both as far as there are directories and links. -/
theorem ways (h : fs.Without gone fs') : fs.root.Ways fs'.root where
  directory {place} := by
    rintro ⟨es, there⟩
    rcases at?_eq_none_or_valid fs fs' place with ⟨none, -⟩ | ⟨valid, rfl⟩
    · rw [none] at there
      cases there
    · have lacks := h.root valid
      rw [there] at lacks
      exact lacks.directory
  link {place target} := by
    rcases at?_eq_none_or_valid fs fs' place with ⟨none, none'⟩ | ⟨valid, rfl⟩
    · rw [none, none']
    · exact (h.root valid).link_iff

/-- Names lead through both the other way round, too. -/
theorem ways_back (h : fs.Without gone fs') : fs'.root.Ways fs.root where
  directory {place} := by
    rintro ⟨es', there⟩
    rcases at?_eq_none_or_valid fs fs' place with ⟨-, none'⟩ | ⟨valid, rfl⟩
    · rw [none'] at there
      cases there
    · have lacks := h.root valid
      rw [there] at lacks
      exact lacks.directory_back
  link := h.ways.link.symm

/-- Nothing is new. -/
theorem at?_eq_none (h : fs.Without gone fs') {place : Place} (nothing : fs.root.at? place = none) :
    fs'.root.at? place = none := by
  rcases at?_eq_none_or_valid fs fs' place with ⟨-, none'⟩ | ⟨valid, rfl⟩
  · exact none'
  · have lacks := h.root valid
    rw [nothing] at lacks
    exact lacks.eq_none.1

/-- Paths lead to the same places. -/
theorem locate_eq_ok_iff (h : fs.Without gone fs') {followLast : Bool} :
    fs'.locate path followLast = .ok place ↔ fs.locate path followLast = .ok place :=
  ⟨locate_of_ways h.ways_back h.workingDirectory.symm, locate_of_ways h.ways h.workingDirectory⟩

/-- A path that leads to a directory leads to it still. -/
theorem find_directory (h : fs.Without gone fs') {es : List (RawText × Entry)}
    (found : fs.find path = .ok (place, .directory es)) :
    ∃ es', fs'.find path = .ok (place, .directory es') := by
  obtain ⟨located, there⟩ := find_eq_ok_iff.mp found
  have lacks := h.root place
  rw [there] at lacks
  obtain ⟨es', now⟩ := lacks.directory
  exact ⟨es', find_eq_ok_iff.mpr ⟨h.locate_eq_ok_iff.mpr located, now⟩⟩

/-- A path leads to a directory if it did so before. -/
theorem isDirectory (h : fs.Without gone fs') : fs'.isDirectory path = fs.isDirectory path := by
  rw [Bool.eq_iff_iff, isDirectory_iff, isDirectory_iff]
  constructor
  · rintro ⟨place, es', found'⟩
    obtain ⟨located, now⟩ := find_eq_ok_iff.mp found'
    obtain ⟨es, there⟩ := h.ways_back.directory ⟨es', now⟩
    exact ⟨place, es, find_eq_ok_iff.mpr ⟨h.locate_eq_ok_iff.mp located, there⟩⟩
  · rintro ⟨place, es, found⟩
    obtain ⟨es', found'⟩ := h.find_directory found
    exact ⟨place, es', found'⟩

/-- The files are those that are not gone. -/
theorem find_file_iff (h : fs.Without gone fs') {content : ByteArray} :
    fs'.find path = .ok (place, .file content) ↔
      fs.find path = .ok (place, .file content) ∧ Path.ofNames place.1 ∉ gone := by
  rw [find_eq_ok_iff, find_eq_ok_iff, h.locate_eq_ok_iff, (h.root place).file_iff, and_assoc]

/-- The sources of a directory are those that are not gone. -/
theorem sources (h : fs.Without gone fs') {root : ValidPlace} {es : List (RawText × Entry)}
    (found : fs.find (Path.ofNames root.1) = .ok (root, .directory es)) :
    fs'.sources (Path.ofNames root.1) =
      (fs.sources (Path.ofNames root.1)).filter (· ∉ gone) := by
  obtain ⟨es', found'⟩ := h.find_directory found
  have old := (find_eq_ok_iff.mp found).2
  have new := (find_eq_ok_iff.mp found').2
  have wellFormed := fs.wellFormed.of_at? old
  have wellFormed' := fs'.wellFormed.of_at? new
  have places : sourcesOfEntries es' =
      (sourcesOfEntries es).filter fun below ↦ Path.ofNames (root.1 ++ below) ∉ gone := by
    apply eq_of_pairwise_lt
    · rw [Entry.WellFormed] at wellFormed'
      exact pairwise_sourcesOfEntries es' wellFormed'.1 wellFormed'.2
    · rw [Entry.WellFormed] at wellFormed
      exact (pairwise_sourcesOfEntries es wellFormed.1 wellFormed.2).filter _
    · intro below
      rw [List.mem_filter, mem_sourcesOfEntries_iff wellFormed,
        mem_sourcesOfEntries_iff wellFormed', decide_eq_true_iff, and_right_comm]
      apply and_congr_left
      intro source
      have above : fs.root.at? (root.1 ++ below) = (Entry.directory es).at? below := by
        rw [Entry.at?_append, old, Option.bind_some]
      have above' : fs'.root.at? (root.1 ++ below) = (Entry.directory es').at? below := by
        rw [Entry.at?_append, new, Option.bind_some]
      rw [← above, ← above']
      rcases at?_eq_none_or_valid fs fs' (root.1 ++ below) with ⟨none, none'⟩ | ⟨valid, same⟩
      · simp [none, none']
      · rw [← same]
        simp only [(h.root valid).file_iff, exists_and_right]
  rw [sources_eq_map found, sources_eq_map found', places, List.filter_map]
  rfl

end Without

/-- Without some files that are there, there is a file system. -/
theorem exists_without {fs : FileSystem} {gone : List RawText} (distinct : gone.Nodup)
    (files : ∀ path ∈ gone, ∃ place content, path = Path.ofNames place.1 ∧
      fs.find path = .ok (place, .file content)) :
    ∃ fs', fs.Without gone fs' := by
  induction gone generalizing fs with
  | nil => exact ⟨fs, .refl fs⟩
  | cons path gone ih =>
    rw [List.nodup_cons] at distinct
    obtain ⟨place, content, rfl, found⟩ := files path List.mem_cons_self
    obtain ⟨fs₁, -, first⟩ := without_remove found
    have others : ∀ other ∈ gone, ∃ place content, other = Path.ofNames place.1 ∧
        fs₁.find other = .ok (place, .file content) := by
      intro other mem
      obtain ⟨place', content', rfl, there⟩ := files other (List.mem_cons_of_mem _ mem)
      have stays : Path.ofNames place'.1 ∉ [Path.ofNames place.1] := by
        rw [List.mem_singleton]
        exact fun same ↦ distinct.1 (same ▸ mem)
      exact ⟨place', content', rfl, first.find_file_iff.mpr ⟨there, stays⟩⟩
    obtain ⟨fs', rest⟩ := ih distinct.2 others
    exact ⟨fs', first.trans rest⟩

end FileSystem

end BuiltinAtlas
