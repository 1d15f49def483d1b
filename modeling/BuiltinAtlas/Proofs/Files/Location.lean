import BuiltinAtlas.Proofs.Files.Parent
import BuiltinAtlas.Proofs.Files.Walk

/-!
# Files under their paths

What was written under a path is found under it, and writing it again changes nothing. Around what
a path leads to there is a directory, so that nothing has to be created there; if creating it
failed, nothing is found under the path.
-/

namespace BuiltinAtlas.FileSystem

open RawText (slash dot)

open Entry (DirectoryAt)

/-- A path leads to a place. -/
structure Leads (fs : FileSystem) (path : RawText) (followLast : Bool) (place : Place) : Prop where
  clean : 0 ∉ path.toList
  notEmpty : path ≠ ""
  start : fs.root.DirectoryAt (fs.start path).1
  walk : walk fs.root followLast linkLimit (fs.start path).1 (Path.names path) = .ok place

/-- The place of a path is what it leads to. -/
theorem locate_eq_ok_iff {fs : FileSystem} {path : RawText} {followLast : Bool}
    {place : ValidPlace} :
    fs.locate path followLast = .ok place ↔ fs.Leads path followLast place.1 := by
  have empty : path.isEmpty = true ↔ path = "" := by simp
  unfold locate
  by_cases clean : 0 ∈ path.toList
  · rw [dif_pos clean]
    exact ⟨nofun, fun h ↦ absurd clean h.clean⟩
  rw [dif_neg clean]
  by_cases notEmpty : path = ""
  · rw [if_pos (empty.mpr notEmpty)]
    exact ⟨nofun, fun h ↦ absurd notEmpty h.notEmpty⟩
  rw [if_neg (fun h ↦ notEmpty (empty.mp h))]
  split
  · next es start =>
    split
    · next result hwalk =>
      constructor
      · intro h
        cases h
        exact ⟨clean, notEmpty, ⟨es, start⟩, hwalk⟩
      · intro h
        have same := hwalk.symm.trans h.walk
        exact congrArg Except.ok (Subtype.ext (Except.ok.inj same))
    · next e hwalk =>
      constructor
      · intro h; cases h
      · intro h
        have same := hwalk.symm.trans h.walk
        cases same
  · next notDirectory =>
    constructor
    · intro h; cases h
    · intro h
      obtain ⟨es, start⟩ := h.start
      exact absurd start (notDirectory es)

/-- What a path leads to is its place. -/
theorem Leads.exists_locate {fs : FileSystem} {path : RawText} {followLast : Bool} {place : Place}
    (h : fs.Leads path followLast place) :
    ∃ valid, fs.locate path followLast = .ok valid ∧ valid.1 = place :=
  ⟨⟨place, valid_of_walk_eq_ok h.walk fs.wellFormed (fs.start path).2 fun _ ↦
      Path.cleanName_of_mem_names h.clean⟩,
    locate_eq_ok_iff.mpr h, rfl⟩

/-- A path that leads to a place leads there still where names lead as before. -/
theorem locate_of_ways {fs fs' : FileSystem} {path : RawText} {followLast : Bool}
    {place : ValidPlace} (ways : fs.root.Ways fs'.root)
    (same : fs'.workingDirectory = fs.workingDirectory)
    (located : fs.locate path followLast = .ok place) : fs'.locate path followLast = .ok place := by
  have leads := locate_eq_ok_iff.mp located
  have start : fs'.start path = fs.start path := by rw [FileSystem.start, FileSystem.start, same]
  refine locate_eq_ok_iff.mpr ⟨leads.clean, leads.notEmpty, ?_, ?_⟩
  · rw [start]
    exact ways.directory leads.start
  · rw [start]
    exact walk_of_ways ways leads.walk

/-- A path on which a directory is missing misses it where names lead as before and nothing is
new. -/
theorem locate_notFound_of_ways {fs fs' : FileSystem} {path : RawText} {followLast : Bool}
    (ways : fs.root.Ways fs'.root) (back : fs'.root.Ways fs.root)
    (nothing : ∀ place, fs.root.at? place = none → fs'.root.at? place = none)
    (same : fs'.workingDirectory = fs.workingDirectory)
    (missing : fs.locate path followLast = .error .notFound) :
    fs'.locate path followLast = .error .notFound := by
  have start : fs'.start path = fs.start path := by rw [FileSystem.start, FileSystem.start, same]
  unfold locate at missing ⊢
  split at missing
  · cases missing
  · next clean =>
    rw [dif_neg clean]
    split at missing
    · next empty => exact if_pos empty
    · next notEmpty =>
      rw [if_neg notEmpty]
      split
      · next es' here =>
        rw [start] at here
        obtain ⟨es, before⟩ := back.directory ⟨es', here⟩
        rw [before] at missing
        simp only at missing
        split at missing
        · cases missing
        · next walked =>
          cases missing
          have walked' := walk_notFound_of_ways ways nothing walked
          split
          · next arrived =>
            rw [start, walked'] at arrived
            cases arrived
          · next failed =>
            rw [start, walked'] at failed
            cases failed
            rfl
      · rfl

/-- What is found is at the place of the path. -/
theorem find_eq_ok_iff {fs : FileSystem} {path : RawText} {place : ValidPlace} {x : Entry} :
    fs.find path = .ok (place, x) ↔
      fs.locate path true = .ok place ∧ fs.root.at? place.1 = some x := by
  unfold find
  cases hlocate : fs.locate path true with
  | error e =>
    constructor
    · intro h; cases h
    · intro h; cases h.1
  | ok found =>
    simp only [bind, Except.bind]
    cases hat : fs.root.at? found.1 with
    | none =>
      constructor
      · intro h; cases h
      · rintro ⟨same, h⟩
        cases same
        rw [hat] at h
        cases h
    | some y =>
      constructor
      · intro h
        cases h
        exact ⟨rfl, hat⟩
      · rintro ⟨same, h⟩
        cases same
        rw [hat] at h
        cases h
        rfl

/-- What is found is no link. -/
theorem ne_link_of_find {fs : FileSystem} {path : RawText} {place : ValidPlace} {x : Entry}
    (h : fs.find path = .ok (place, x)) (target : RawText) : x ≠ .link target := by
  obtain ⟨located, there⟩ := find_eq_ok_iff.mp h
  have leads := locate_eq_ok_iff.mp located
  rintro rfl
  exact at?_ne_link_of_walk leads.walk leads.start target there

/-- A canonical path is that of the place that a path leads to. -/
theorem canonicalPath_eq_ok_iff {fs : FileSystem} {path root : RawText} :
    fs.canonicalPath path = .ok root ↔
      ∃ place x, fs.find path = .ok (place, x) ∧ root = Path.ofNames place.1 := by
  rw [canonicalPath]
  cases found : fs.find path with
  | error e =>
    constructor
    · intro h; cases h
    · rintro ⟨place, x, h, -⟩; cases h
  | ok result =>
    obtain ⟨place, x⟩ := result
    constructor
    · intro h
      cases h
      exact ⟨place, x, rfl, rfl⟩
    · rintro ⟨place', x', h, rfl⟩
      cases h
      rfl

/-- A path with a canonical path leads to something. -/
theorem pathExists_of_canonicalPath {fs : FileSystem} {path root : RawText}
    (h : fs.canonicalPath path = .ok root) : fs.pathExists path = true := by
  obtain ⟨place, x, found, -⟩ := canonicalPath_eq_ok_iff.mp h
  rw [pathExists, found]
  rfl

/-- A path leads to a directory. -/
theorem isDirectory_iff {fs : FileSystem} {path : RawText} :
    fs.isDirectory path = true ↔ ∃ place es, fs.find path = .ok (place, .directory es) := by
  unfold isDirectory
  split
  · next place es h => exact ⟨fun _ ↦ ⟨place, es, h⟩, fun _ ↦ rfl⟩
  · next no =>
    constructor
    · intro h; cases h
    · rintro ⟨place, es, h⟩
      exact absurd h (no place es)

/-- A path leads to a file. -/
theorem isFile_iff {fs : FileSystem} {path : RawText} :
    fs.isFile path = true ↔ ∃ place content, fs.find path = .ok (place, .file content) := by
  unfold isFile
  split
  · next place content h => exact ⟨fun _ ↦ ⟨place, content, h⟩, fun _ ↦ rfl⟩
  · next no =>
    constructor
    · intro h; cases h
    · rintro ⟨place, content, h⟩
      exact absurd h (no place content)

/-- The content of a file that was found is read. -/
theorem read_of_find {fs : FileSystem} {path : RawText} {place : ValidPlace} {content : ByteArray}
    (h : fs.find path = .ok (place, .file content)) : fs.read path = .ok content := by
  rw [read, h]
  rfl

/-- What is read is the content of a file. -/
theorem read_eq_ok_iff {fs : FileSystem} {path : RawText} {content : ByteArray} :
    fs.read path = .ok content ↔ ∃ place, fs.find path = .ok (place, .file content) := by
  constructor
  · intro h
    rw [read] at h
    cases found : fs.find path with
    | error e =>
      rw [found] at h
      cases h
    | ok result =>
      obtain ⟨place, x⟩ := result
      rw [found] at h
      cases x with
      | file before =>
        cases h
        exact ⟨place, rfl⟩
      | directory => cases h
      | link => cases h
  · rintro ⟨place, found⟩
    exact read_of_find found

/-- Files have no entries. -/
theorem wellFormed_file (content : ByteArray) : (Entry.file content).WellFormed := by
  simp [Entry.WellFormed]

/-- Writing puts a file where the path leads to, if nothing or a file is there before. -/
theorem write_eq_ok_iff {fs fs' : FileSystem} {path : RawText} {content : ByteArray} :
    fs.write path content = .ok fs' ↔
      path.toList.getLast? ≠ some slash ∧ ∃ place, fs.locate path true = .ok place ∧
        (fs.root.at? place.1 = none ∨ ∃ before, fs.root.at? place.1 = some (.file before)) ∧
        fs' = fs.put place (.file content) (wellFormed_file content) := by
  unfold write
  by_cases last : path.toList.getLast? = some slash
  · cases hlocate : fs.locate (Path.trimSlashes path) true with
    | error e => simp [last, hlocate, bind, Except.bind]
    | ok place =>
      cases hat : fs.root.at? place.1 with
      | none => simp [last, hlocate, hat, bind, Except.bind]
      | some x => cases x <;> simp [last, hlocate, hat, bind, Except.bind]
  · have noSlash : (path.toList.getLast? == some slash) = false := by simpa using last
    cases hlocate : fs.locate path true with
    | error e => simp [noSlash, hlocate, bind, Except.bind]
    | ok place =>
      cases hat : fs.root.at? place.1 with
      | none => simp [noSlash, last, hlocate, hat, bind, Except.bind, eq_comm (a := fs')]
      | some x =>
        cases x <;> simp [noSlash, last, hlocate, hat, bind, Except.bind, eq_comm (a := fs')]

/-- A directory is created where nothing is. -/
theorem createDirectory_eq_ok_iff {fs fs' : FileSystem} {path : RawText} :
    fs.createDirectory path = .ok fs' ↔
      ∃ place, fs.locate (Path.trimSlashes path) false = .ok place ∧ fs.root.at? place.1 = none ∧
        fs' = fs.put place (.directory []) empty.wellFormed := by
  rw [createDirectory]
  cases located : fs.locate (Path.trimSlashes path) false with
  | error e => simp [bind, Except.bind]
  | ok place =>
    cases there : fs.root.at? place.1 with
    | none => simp [bind, Except.bind, there, eq_comm (a := fs')]
    | some x => simp [bind, Except.bind, there]

/-- A directory is missing around one that is to be created if the path misses it. -/
theorem createDirectory_eq_notFound_iff {fs : FileSystem} {path : RawText} :
    fs.createDirectory path = .error .notFound ↔
      fs.locate (Path.trimSlashes path) false = .error .notFound := by
  rw [createDirectory]
  cases located : fs.locate (Path.trimSlashes path) false with
  | error e => simp [bind, Except.bind]
  | ok place => cases there : fs.root.at? place.1 <;> simp [bind, Except.bind, there]

/-- Around where a path leads to there is a directory, unless there is one at that place. -/
theorem exists_around_of_locate {fs : FileSystem} {path : RawText} {followLast : Bool}
    {place : ValidPlace} (located : fs.locate path followLast = .ok place)
    (noDirectory : ¬ fs.root.DirectoryAt place.1) :
    ∃ around name, place.1 = around ++ [name] ∧ fs.root.DirectoryAt around := by
  have leads := locate_eq_ok_iff.mp located
  exact (directoryAt_of_walk leads.walk leads.start).resolve_left noDirectory

/-- Putting a file where a path leads to keeps everything else, and the file is there then. -/
theorem kept_put_of_locate {fs : FileSystem} {path : RawText} {followLast : Bool}
    {place : ValidPlace} (located : fs.locate path followLast = .ok place)
    (free : fs.root.at? place.1 = none ∨ ∃ before, fs.root.at? place.1 = some (.file before))
    (content : ByteArray) :
    Entry.Kept place.1 fs.root (Entry.put (.file content) fs.root place.1) ∧
      (Entry.put (.file content) fs.root place.1).at? place.1 = some (.file content) := by
  obtain ⟨around, name, same, dir⟩ :=
    exists_around_of_locate located (Entry.not_directoryAt_of_free free)
  rw [same] at free ⊢
  exact ⟨.put_file dir free content, Entry.at?_put_self _ name dir⟩

/-- What was written is found. -/
theorem find_of_write {fs fs' : FileSystem} {path : RawText} {content : ByteArray}
    (h : fs.write path content = .ok fs') :
    ∃ place, fs'.find path = .ok (place, .file content) := by
  obtain ⟨-, place, located, free, rfl⟩ := write_eq_ok_iff.mp h
  obtain ⟨kept, there⟩ := kept_put_of_locate located free content
  exact ⟨place, find_eq_ok_iff.mpr ⟨locate_of_ways kept.ways rfl located, there⟩⟩

/-- The path of a file does not end with a slash. -/
theorem getLast?_of_find {fs : FileSystem} {path : RawText} {place : ValidPlace}
    {content : ByteArray} (h : fs.find path = .ok (place, .file content)) :
    path.toList.getLast? ≠ some slash := by
  intro last
  obtain ⟨located, there⟩ := find_eq_ok_iff.mp h
  have leads := locate_eq_ok_iff.mp located
  have atEnd : (Path.names path).getLast? = some (RawText.ofText ".") := by
    rw [Path.names_eq, Path.endName, if_pos (by simpa using last), List.getLast?_concat]
  obtain ⟨es, directory⟩ := directoryAt_of_walk_dot leads.walk leads.start (.inr atEnd)
  rw [there] at directory
  cases directory

/-- Writing what is there changes nothing. -/
theorem write_of_find {fs : FileSystem} {path : RawText} {place : ValidPlace} {content : ByteArray}
    (h : fs.find path = .ok (place, .file content)) : fs.write path content = .ok fs := by
  obtain ⟨located, there⟩ := find_eq_ok_iff.mp h
  refine write_eq_ok_iff.mpr
    ⟨getLast?_of_find h, place, located, .inr ⟨content, there⟩, ?_⟩
  have same := Entry.put_of_at?_eq_some fs.wellFormed there
  cases fs
  simp only [put, FileSystem.mk.injEq, and_true]
  exact same.symm

/-- Where the names of a path are followed from depends on its first byte. -/
theorem start_of_isPrefix (fs : FileSystem) {path around : RawText} (hne : around ≠ "")
    (h : around.toList <+: path.toList) : fs.start around = fs.start path := by
  have first : around.toList.head? = path.toList.head? := by
    obtain ⟨back, same⟩ := h
    rw [← same]
    cases hl : around.toList with
    | nil => exact absurd (RawText.toList_eq_nil_iff.mp hl) hne
    | cons => rfl
  rw [start, start, Path.isAbsolute, Path.isAbsolute, first]

/-- Around what a path leads to there is a directory. -/
theorem isDirectory_of_parent? {fs : FileSystem} {path around : RawText} {followLast : Bool}
    {place : ValidPlace} (h : fs.locate path followLast = .ok place)
    (haround : Path.parent? path = some around) (hne : around ≠ "") :
    fs.isDirectory around = true := by
  have leads := locate_eq_ok_iff.mp h
  have front := Path.isPrefix_of_parent? haround
  obtain ⟨back, hback, names⟩ := Path.names_of_parent? haround hne
  have hwalk := leads.walk
  rw [names] at hwalk
  obtain ⟨dir, walked, es, hdir⟩ :=
    exists_directoryAt_of_walk_append hwalk hback leads.start
  have same := fs.start_of_isPrefix hne front
  rw [← same] at walked
  have walkedNames : walk fs.root true linkLimit (fs.start around).1 (Path.names around) =
      .ok dir := by
    by_cases last : around.toList.getLast? = some slash
    · have root := Path.eq_root_of_parent? haround last
      subst root
      -- The names on the way to the root are none, and the slash counts as `.`.
      have none : (Path.segments (RawText.ofText "/").toList).map RawText.ofList = [] := by decide
      have here : Path.names "/" = [RawText.ofText "."] := by decide
      rw [none] at walked
      rw [here, walk_dot]
      exact walked
    · rw [Path.names_eq, Path.endName, if_neg (by simpa using last), List.append_nil]
      exact walked
  have leadsAround : fs.Leads around true dir :=
    ⟨fun mem ↦ leads.clean (front.subset mem), hne, same ▸ leads.start, walkedNames⟩
  obtain ⟨valid, located, rfl⟩ := leadsAround.exists_locate
  exact isDirectory_iff.mpr ⟨valid, es, find_eq_ok_iff.mpr ⟨located, hdir⟩⟩

/-- A directory that is there cannot be created, and that is the reason. -/
theorem createDirectory_of_isDirectory {fs : FileSystem} {path : RawText}
    (h : fs.isDirectory path = true) (trimmed : Path.trimSlashes path = path) :
    fs.createDirectory path = .error .exists := by
  obtain ⟨place, es, found⟩ := isDirectory_iff.mp h
  obtain ⟨located, there⟩ := find_eq_ok_iff.mp found
  have leads := locate_eq_ok_iff.mp located
  obtain ⟨other, x, walked, hother⟩ := exists_walk_false leads.walk there
  have leadsOther : fs.Leads path false other :=
    ⟨leads.clean, leads.notEmpty, leads.start, walked⟩
  obtain ⟨valid, locatedOther, rfl⟩ := leadsOther.exists_locate
  rw [createDirectory, trimmed, locatedOther]
  simp [bind, Except.bind, hother]

/-- Where there is a directory, none has to be created. -/
theorem createDirectoryAll_of_isDirectory {fs : FileSystem} {path : RawText}
    (h : fs.isDirectory path = true) (trimmed : Path.trimSlashes path = path) :
    fs.createDirectoryAll path = (.ok (), fs) := by
  have notEmpty : path.isEmpty = false := by
    obtain ⟨place, es, found⟩ := isDirectory_iff.mp h
    have leads := locate_eq_ok_iff.mp (find_eq_ok_iff.mp found).1
    exact Bool.eq_false_iff.mpr fun empty ↦ leads.notEmpty (RawText.isEmpty_iff.mp empty)
  rw [createDirectoryAll, Path.withParents]
  simp [notEmpty, createDirectories, createDirectory_of_isDirectory h trimmed, h]

private theorem not_isDirectory_of_ensureDirectory {fs : FileSystem} {path : RawText}
    {e : FileError} (h : fs.ensureDirectory path = .error e) : fs.isDirectory path = false := by
  rw [ensureDirectory] at h
  split at h
  · cases h
  · split at h
    · cases h
    · next no => simpa using no

/-- If a directory could not be created with those around it, it is not there. -/
theorem not_isDirectory_of_createDirectories {fs fs' : FileSystem} {fuel : Nat} {path : RawText}
    {e : FileError}
    (h : fs.createDirectories (Path.withParents fuel path) = (.error e, fs')) :
    fs'.isDirectory path = false := by
  induction fuel generalizing path fs' e with
  | zero => cases h
  | succ fuel ih =>
    rw [Path.withParents] at h
    split at h
    · cases h
    · rw [createDirectories] at h
      split at h
      · cases h
      · split at h
        · next created =>
          split at h
          · cases h
          · next failed =>
            cases h
            exact not_isDirectory_of_ensureDirectory failed
        · next failed _ =>
          -- What is around the path could not be created, so that nothing is found there.
          cases haround : Path.parent? path with
          | none =>
            rw [haround] at h
            cases h
          | some around =>
            rw [haround] at h
            have hne : around ≠ "" := by
              rintro rfl
              cases fuel <;> cases h
            have noAround := ih h
            rw [Bool.eq_false_iff]
            intro directory
            obtain ⟨place, es, found⟩ := isDirectory_iff.mp directory
            have located := (find_eq_ok_iff.mp found).1
            rw [isDirectory_of_parent? located haround hne] at noAround
            cases noAround
      · split at h
        · cases h
        · next no =>
          cases h
          simpa using no

end BuiltinAtlas.FileSystem
