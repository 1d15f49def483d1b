import BuiltinAtlas.Index.Update
import BuiltinAtlas.Proofs.Files.Kept
import BuiltinAtlas.Proofs.Files.Scan

/-!
# What an indexing run visits

Indexing a directory or C source within a directory visits C sources below that directory, and
indexing the directory itself visits all of them that are there. Writing a file that is not visited
changes neither which files are visited nor what is read from them.
-/

namespace BuiltinAtlas

namespace FileSystem

open Entry (DirectoryAt)

/-- A path is the canonical one of a C source below a place. -/
def SourceBelow (root : ValidPlace) (path : RawText) : Prop :=
  ∃ below : ValidPlace, path = Path.ofNames (root.1 ++ below.1) ∧ Path.isCSource path = true

/-- A path is the canonical one of a directory or C source at or below a place. -/
def Within (root : ValidPlace) (fs : FileSystem) (path : RawText) : Prop :=
  ∃ below : ValidPlace, path = Path.ofNames (root.1 ++ below.1) ∧
    (fs.isDirectory path = true ∨ Path.isCSource path = true)

private theorem valid_append (root below : ValidPlace) :
    ∀ n ∈ root.1 ++ below.1, Path.ValidName n := by
  intro n hn
  rcases List.mem_append.mp hn with hn | hn
  · exact root.2 n hn
  · exact below.2 n hn

/-- Indexing a file visits the file. -/
theorem visited_of_find_file {fs : FileSystem} {path : RawText} {place : ValidPlace}
    {content : ByteArray} (found : fs.find path = .ok (place, .file content)) :
    fs.visited path = [path] := by
  have noDirectory : fs.isDirectory path = false := by rw [isDirectory, found]
  rw [visited, noDirectory]
  rfl

/-- What indexing a path within a directory visits are C sources below that directory. -/
theorem sourceBelow_of_mem_visited {fs : FileSystem} {root : ValidPlace} {path file : RawText}
    (h : Within root fs path) (mem : file ∈ fs.visited path) : SourceBelow root file := by
  obtain ⟨around, rfl, kind⟩ := h
  rw [visited] at mem
  split at mem
  · next directory =>
    obtain ⟨place, es, found⟩ := isDirectory_iff.mp directory
    obtain ⟨below, rfl, -, source⟩ :=
      (mem_sources_iff ⟨root.1 ++ around.1, valid_append root around⟩ found).mp mem
    refine ⟨⟨around.1 ++ below.1, valid_append around below⟩, ?_, ?_⟩
    · rw [List.append_assoc]
    · rw [isCSource_ofNames_append _ (ne_nil_of_isSourcePlace source) below.2, source]
  · next noDirectory =>
    cases List.mem_singleton.mp mem
    exact ⟨around, rfl, kind.resolve_left noDirectory⟩

/-- A C source below a directory that is there under its canonical path is visited when the
directory is indexed. -/
theorem mem_visited_of_sourceBelow {fs : FileSystem} {root : ValidPlace} {file : RawText}
    (directory : fs.isDirectory (Path.ofNames root.1) = true) (source : SourceBelow root file)
    (there : fs.isFile file = true) (canonical : fs.canonicalPath file = .ok file) :
    file ∈ fs.visited (Path.ofNames root.1) := by
  obtain ⟨below, same, source⟩ := source
  obtain ⟨place, content, found⟩ := isFile_iff.mp there
  rw [canonicalPath, found] at canonical
  have atPlace := (find_eq_ok_iff.mp found).2
  have names : place.1 = root.1 ++ below.1 :=
    Path.eq_of_ofNames_eq place.2 (valid_append root below)
      ((Except.ok.inj canonical).trans same)
  rw [names] at atPlace
  obtain ⟨dir, es, foundRoot⟩ := isDirectory_iff.mp directory
  have inside : below.1 ≠ [] := by
    intro none
    rw [none, List.append_nil] at atPlace
    have entry := (place_of_find_ofNames foundRoot atPlace (by simp)).2
    cases entry
  obtain ⟨es', atRoot⟩ := DirectoryAt.of_append atPlace inside
  obtain ⟨rfl, -⟩ := place_of_find_ofNames foundRoot atRoot (by simp)
  rw [same, isCSource_ofNames_append _ inside below.2] at source
  rw [visited, if_pos directory]
  exact (mem_sources_iff dir foundRoot).mpr ⟨below, same, ⟨content, atPlace⟩, source⟩

/-- The sources below a directory are found under their canonical paths. -/
theorem exists_find_of_mem_sources {fs : FileSystem} {root : ValidPlace}
    {es : List (RawText × Entry)} {file : RawText}
    (found : fs.find (Path.ofNames root.1) = .ok (root, .directory es))
    (mem : file ∈ fs.sources (Path.ofNames root.1)) :
    ∃ (place : ValidPlace) (content : ByteArray), file = Path.ofNames place.1 ∧
      fs.find file = .ok (place, .file content) := by
  obtain ⟨below, rfl, ⟨content, there⟩, -⟩ := (mem_sources_iff root found).mp mem
  let place : ValidPlace := ⟨root.1 ++ below.1, valid_append root below⟩
  have here : fs.find (Path.ofNames place.1) = .ok (place, .file content) :=
    find_ofNames (root_of_find found) there nofun
  exact ⟨place, content, rfl, here⟩

private theorem exists_find_of_mem_visited {fs : FileSystem} {root : ValidPlace} {x : Entry}
    {file : RawText} (found : fs.find (Path.ofNames root.1) = .ok (root, x))
    (mem : file ∈ fs.visited (Path.ofNames root.1)) :
    ∃ (place : ValidPlace) (y : Entry), file = Path.ofNames place.1 ∧
      fs.find file = .ok (place, y) := by
  rw [visited] at mem
  split at mem
  · next directory =>
    obtain ⟨dir, es, found'⟩ := isDirectory_iff.mp directory
    cases found.symm.trans found'
    obtain ⟨place, content, same, there⟩ := exists_find_of_mem_sources found mem
    exact ⟨place, _, same, there⟩
  · cases List.mem_singleton.mp mem
    exact ⟨root, x, rfl, found⟩

namespace Kept

variable {fs fs' : FileSystem} {written : Place} {root : ValidPlace} {x : Entry}

/-- The same files are visited, if the written one is not among them. -/
theorem visited (h : fs.Kept written fs') (found : fs.find (Path.ofNames root.1) = .ok (root, x))
    (apart : Path.ofNames written ∉ fs'.visited (Path.ofNames root.1)) :
    fs'.visited (Path.ofNames root.1) = fs.visited (Path.ofNames root.1) := by
  have kind := h.isDirectory found
  rw [FileSystem.visited, kind] at apart
  rw [FileSystem.visited, FileSystem.visited, kind]
  split
  · next directory =>
    rw [if_pos directory] at apart
    obtain ⟨dir, es, before⟩ := isDirectory_iff.mp directory
    cases found.symm.trans before
    obtain ⟨y, found', stays⟩ := h.find found
    obtain ⟨es', same⟩ := stays.directory
    cases same
    have old := (find_eq_ok_iff.mp found).2
    have new := (find_eq_ok_iff.mp found').2
    have wellFormed := fs.wellFormed.of_at? old
    have wellFormed' := fs'.wellFormed.of_at? new
    have same : sourcesOfEntries es' = sourcesOfEntries es := by
      apply sourcesOfEntries_eq wellFormed' wellFormed
      intro below
      rw [mem_sourcesOfEntries_iff wellFormed, mem_sourcesOfEntries_iff wellFormed']
      apply and_congr_left
      intro source
      have stays := h.root (root.1 ++ below)
      rw [Entry.at?_append, Entry.at?_append, old, new, Option.bind_some, Option.bind_some] at stays
      constructor
      · rintro ⟨content, now⟩
        have elsewhere : root.1 ++ below ≠ written := by
          rintro rfl
          have valid := wellFormed'.validName_of_at? now
          refine apart ((mem_sources_iff root found').mpr ⟨⟨below, valid⟩, rfl, ?_, source⟩)
          rw [Entry.at?_append, new]
          exact ⟨content, now⟩
        rw [now] at stays
        exact ⟨content, stays.file_back elsewhere⟩
      · rintro ⟨content, before⟩
        rw [before] at stays
        rcases stays.file with same | ⟨-, content', changed⟩
        · exact ⟨content, same⟩
        · exact ⟨content', changed⟩
    rw [sources, sources, found, found']
    simp only [same]
  · rfl

/-- What is visited is read as before, if it is not the written file. -/
theorem read_visited (h : fs.Kept written fs')
    (found : fs.find (Path.ofNames root.1) = .ok (root, x)) {file : RawText}
    (mem : file ∈ fs.visited (Path.ofNames root.1)) (apart : file ≠ Path.ofNames written)
    (content : ByteArray) : fs'.read file = .ok content ↔ fs.read file = .ok content := by
  obtain ⟨place, y, rfl, there⟩ := exists_find_of_mem_visited found mem
  apply h.read_iff there
  rintro - - rfl
  exact apart rfl

end Kept

end FileSystem

end BuiltinAtlas
