import BuiltinAtlas.Proofs.Files.Without

/-!
# Creating directories where some files are missing

Directories that can be created in a file system can be created in that file system without some of
its files, and then it is still the other one without those files (`Without.createDirectories`). For
what is missing on a path is missing still, and a file that stands in the way is in the way of both.
-/

namespace BuiltinAtlas.FileSystem.Without

open Entry (DirectoryAt)

variable {fs fs' made : FileSystem} {gone : List RawText} {path : RawText}

/-- A directory is put where nothing is. -/
theorem put_directory (h : fs.Without gone fs') {place : ValidPlace} {around : Place}
    {name : RawText} (same : place.1 = around ++ [name]) (dir : fs.root.DirectoryAt around)
    (free : fs.root.at? place.1 = none) :
    (fs.put place (.directory []) empty.wellFormed).Without gone
      (fs'.put place (.directory []) empty.wellFormed) where
  workingDirectory := h.workingDirectory
  root other := by
    change Entry.Lacks (Path.ofNames other.1 ∈ gone)
      ((Entry.put (.directory []) fs.root place.1).at? other.1)
      ((Entry.put (.directory []) fs'.root place.1).at? other.1)
    have lacks := h.root other
    by_cases below : place.1 <+: other.1
    · obtain ⟨rest, hrest⟩ := below
      have new (e : Entry) (dir : e.DirectoryAt around) :
          (Entry.put (.directory []) e place.1).at? other.1 =
            (Entry.directory []).at? rest := by
        rw [← hrest, Entry.at?_append, same, Entry.at?_put_self _ name dir, Option.bind_some]
      have before : fs.root.at? other.1 = none := by
        rw [← hrest, Entry.at?_append, free, Option.bind_none]
      rw [before] at lacks
      rw [new _ dir, new _ (h.ways.directory dir)]
      exact .same _ lacks.eq_none.2
    · rcases Entry.at?_put (.directory []) fs.root below with kept | ⟨⟨es, old⟩, ⟨es₁, changed⟩⟩
      · rcases Entry.at?_put (.directory []) fs'.root below with
          kept' | ⟨⟨es', old'⟩, ⟨es₁', changed'⟩⟩
        · rw [kept, kept']
          exact lacks
        · rw [old'] at lacks
          obtain ⟨es, old⟩ := lacks.directory_back
          rw [old] at lacks
          rw [kept, changed', old]
          exact .inside _ _ lacks.not_gone_of_directory
      · rw [old] at lacks
        have stays := lacks.not_gone_of_directory
        obtain ⟨es', old'⟩ := lacks.directory
        rw [changed]
        rcases Entry.at?_put (.directory []) fs'.root below with kept' | ⟨-, ⟨es₁', changed'⟩⟩
        · rw [kept', old']
          exact .inside _ _ stays
        · rw [changed']
          exact .inside _ _ stays

/-- A directory is created in both. -/
theorem createDirectory (h : fs.Without gone fs') (created : fs.createDirectory path = .ok made) :
    ∃ made', fs'.createDirectory path = .ok made' ∧ made.Without gone made' := by
  obtain ⟨place, located, free, rfl⟩ := createDirectory_eq_ok_iff.mp created
  obtain ⟨around, name, same, dir⟩ :=
    exists_around_of_locate located (Entry.not_directoryAt_of_free (.inl free))
  refine ⟨_, createDirectory_eq_ok_iff.mpr ?_, h.put_directory same dir free⟩
  exact ⟨place, h.locate_eq_ok_iff.mpr located, h.at?_eq_none free, rfl⟩

private theorem createDirectory_notFound (h : fs.Without gone fs')
    (missing : fs.createDirectory path = .error .notFound) :
    fs'.createDirectory path = .error .notFound := by
  rw [createDirectory_eq_notFound_iff] at missing ⊢
  exact locate_notFound_of_ways h.ways h.ways_back (fun _ ↦ h.at?_eq_none) h.workingDirectory
    missing

private theorem createDirectory_exists (h : fs.Without gone fs')
    (trimmed : Path.trimSlashes path = path) (there : fs.isDirectory path = true) :
    fs'.createDirectory path = .error .exists ∧ fs'.isDirectory path = true := by
  rw [← h.isDirectory] at there
  exact ⟨createDirectory_of_isDirectory there trimmed, there⟩

/-- A directory is created in both unless it exists. -/
theorem ensureDirectory (h : fs.Without gone fs') (trimmed : Path.trimSlashes path = path)
    (ensured : fs.ensureDirectory path = .ok made) :
    ∃ made', fs'.ensureDirectory path = .ok made' ∧ made.Without gone made' := by
  rw [FileSystem.ensureDirectory] at ensured
  split at ensured
  · next created =>
    cases ensured
    obtain ⟨made', created', lacks⟩ := h.createDirectory created
    exact ⟨made', by rw [FileSystem.ensureDirectory, created'], lacks⟩
  · split at ensured
    · next there =>
      cases ensured
      obtain ⟨created', there'⟩ := h.createDirectory_exists trimmed there
      exact ⟨fs', by rw [FileSystem.ensureDirectory, created']; exact if_pos there', h⟩
    · cases ensured

/-- Directories are created in both, with those around them. -/
theorem createDirectories (h : fs.Without gone fs') {paths : List RawText}
    (trimmed : ∀ path ∈ paths, Path.trimSlashes path = path)
    (created : fs.createDirectories paths = (.ok (), made)) :
    ∃ made', fs'.createDirectories paths = (.ok (), made') ∧ made.Without gone made' := by
  induction paths generalizing made with
  | nil =>
    cases created
    exact ⟨fs', rfl, h⟩
  | cons path around ih =>
    have here := trimmed path List.mem_cons_self
    rw [FileSystem.createDirectories] at created ⊢
    split at created
    · next first =>
      cases created
      obtain ⟨made', first', lacks⟩ := h.createDirectory first
      exact ⟨made', by rw [first'], lacks⟩
    · next missing =>
      rw [h.createDirectory_notFound missing]
      split at created
      · next prepared outer =>
        obtain ⟨prepared', outer', lacks⟩ :=
          ih (fun path mem ↦ trimmed path (List.mem_cons_of_mem _ mem)) outer
        split at created
        · next ensured =>
          cases created
          obtain ⟨made', ensured', lacks'⟩ := lacks.ensureDirectory here ensured
          exact ⟨made', by simp only [outer', ensured'], lacks'⟩
        · cases created
      · next failed =>
        exact absurd created (failed made)
    · split at created
      · next there =>
        cases created
        obtain ⟨exists', there'⟩ := h.createDirectory_exists here there
        exact ⟨fs', by simp only [exists', there', if_true], h⟩
      · cases created

end BuiltinAtlas.FileSystem.Without
