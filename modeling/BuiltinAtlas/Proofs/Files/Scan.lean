import BuiltinAtlas.Files.Scan
import BuiltinAtlas.Proofs.Files.Canonical

/-!
# Which sources are found

The sources below a directory are the files there whose names are those of C sources
(`mem_sourcesOfEntries_iff`), in the order of their places (`pairwise_sourcesOfEntries`), so that
directories with the same source files have the same sources.
-/

namespace BuiltinAtlas

/-- The last name of a place is that of a C source. -/
def isSourcePlace (place : Place) : Bool := place.getLast?.any Path.isCSourceName

private theorem isSourcePlace_cons {place : Place} (h : place ≠ []) (name : RawText) :
    isSourcePlace (name :: place) = isSourcePlace place := by
  cases place with
  | nil => exact absurd rfl h
  | cons next place => rw [isSourcePlace, isSourcePlace, List.getLast?_cons_cons]

private theorem isSourcePlace_concat (front : Place) (n : RawText) :
    isSourcePlace (front ++ [n]) = Path.isCSourceName n := by
  rw [isSourcePlace, List.getLast?_concat, Option.any_some]

/-- Whether the canonical path of what is below a directory is that of a C source depends on the
place from there. -/
theorem isCSource_ofNames_append (around : Place) {below : Place} (h : below ≠ [])
    (valid : ∀ n ∈ below, Path.ValidName n) :
    Path.isCSource (Path.ofNames (around ++ below)) = isSourcePlace below := by
  rcases List.eq_nil_or_concat below with none | ⟨front, last, rfl⟩
  · exact absurd none h
  · rw [List.concat_eq_append] at valid ⊢
    rw [← List.append_assoc, Path.isCSource_ofNames _ (valid last (by simp)),
      isSourcePlace_concat]

/-- A source has a name. -/
theorem ne_nil_of_isSourcePlace {place : Place} (h : isSourcePlace place = true) : place ≠ [] := by
  rintro rfl
  cases h

mutual

private theorem exists_of_mem_sourcesOfEntries {place : Place} :
    ∀ es : List (RawText × Entry), Entry.AllWellFormed es → place ∈ sourcesOfEntries es →
      ∃ name e below content, (name, e) ∈ es ∧ place = name :: below ∧
        e.at? below = some (.file content) ∧ isSourcePlace place = true
  | [], _, h => by simp [sourcesOfEntries] at h
  | (name, e) :: es, wellFormed, h => by
    rw [Entry.AllWellFormed] at wellFormed
    rw [sourcesOfEntries, List.mem_append] at h
    rcases h with h | h
    · obtain ⟨below, content, same, there, source⟩ :=
        exists_of_mem_sourcesOfEntry name e wellFormed.1.2 h
      exact ⟨name, e, below, content, List.mem_cons_self, same, there, source⟩
    · obtain ⟨name', e', below, content, mem, found⟩ :=
        exists_of_mem_sourcesOfEntries es wellFormed.2 h
      exact ⟨name', e', below, content, List.mem_cons_of_mem _ mem, found⟩

private theorem exists_of_mem_sourcesOfEntry {place : Place} :
    ∀ (name : RawText) (e : Entry), e.WellFormed → place ∈ sourcesOfEntry name e →
      ∃ below content, place = name :: below ∧ e.at? below = some (.file content) ∧
        isSourcePlace place = true
  | name, .file content, _, h => by
    rw [sourcesOfEntry] at h
    split at h
    · next source =>
      cases List.mem_singleton.mp h
      exact ⟨[], content, rfl, rfl, source⟩
    · cases h
  | _, .link _, _, h => by simp [sourcesOfEntry] at h
  | name, .directory es, wellFormed, h => by
    rw [Entry.WellFormed] at wellFormed
    rw [sourcesOfEntry, List.mem_map] at h
    obtain ⟨place, h, rfl⟩ := h
    obtain ⟨name', e, below, content, mem, rfl, there, source⟩ :=
      exists_of_mem_sourcesOfEntries es wellFormed.2 h
    refine ⟨name' :: below, content, rfl, ?_, ?_⟩
    · rw [Entry.at?, (Entries.find?_eq_some_iff wellFormed.1).mpr mem]
      exact there
    · rw [isSourcePlace_cons (List.cons_ne_nil _ _), source]

end

private theorem mem_sourcesOfEntries_of_at? {es : List (RawText × Entry)} {place : Place}
    {content : ByteArray} (there : (Entry.directory es).at? place = some (.file content))
    (source : isSourcePlace place = true) : place ∈ sourcesOfEntries es := by
  have here {e : Entry} {name : RawText} {es : List (RawText × Entry)} {place : Place}
      (mem : (name, e) ∈ es) (found : place ∈ sourcesOfEntry name e) :
      place ∈ sourcesOfEntries es := by
    induction es with
    | nil => cases mem
    | cons first es ih =>
      rw [sourcesOfEntries, List.mem_append]
      rcases List.mem_cons.mp mem with rfl | later
      · exact .inl found
      · exact .inr (ih later)
  induction place generalizing es with
  | nil => cases source
  | cons name below ih =>
    rw [Entry.at?, Option.bind_eq_some_iff] at there
    obtain ⟨e, found, there⟩ := there
    apply here (Entry.mem_of_find?_eq_some found)
    cases below with
    | nil =>
      rw [Entry.at?] at there
      cases there
      rw [sourcesOfEntry, if_pos (by simpa [isSourcePlace] using source)]
      exact List.mem_singleton_self _
    | cons next below =>
      cases e with
      | file => cases there
      | link => cases there
      | directory es' =>
        rw [isSourcePlace_cons (List.cons_ne_nil _ _)] at source
        rw [sourcesOfEntry]
        exact List.mem_map_of_mem (ih there source)

/-- The sources in a directory are the files there with the names of C sources. -/
theorem mem_sourcesOfEntries_iff {es : List (RawText × Entry)}
    (wellFormed : (Entry.directory es).WellFormed) {place : Place} :
    place ∈ sourcesOfEntries es ↔
      (∃ content, (Entry.directory es).at? place = some (.file content)) ∧
        isSourcePlace place = true := by
  rw [Entry.WellFormed] at wellFormed
  constructor
  · intro h
    obtain ⟨name, e, below, content, mem, rfl, there, source⟩ :=
      exists_of_mem_sourcesOfEntries es wellFormed.2 h
    refine ⟨⟨content, ?_⟩, source⟩
    rw [Entry.at?, (Entries.find?_eq_some_iff wellFormed.1).mpr mem]
    exact there
  · rintro ⟨⟨content, there⟩, source⟩
    exact mem_sourcesOfEntries_of_at? there source

mutual

/-- The sources in a directory are in the order of their places. -/
theorem pairwise_sourcesOfEntries :
    ∀ es : List (RawText × Entry), Entries.Sorted es → Entry.AllWellFormed es →
      (sourcesOfEntries es).Pairwise (· < ·)
  | [], _, _ => by
    rw [sourcesOfEntries]
    exact .nil
  | (name, e) :: es, sorted, wellFormed => by
    rw [Entry.AllWellFormed] at wellFormed
    obtain ⟨first, others⟩ := List.pairwise_cons.mp sorted
    rw [sourcesOfEntries, List.pairwise_append]
    refine ⟨pairwise_sourcesOfEntry name e wellFormed.1.2,
      pairwise_sourcesOfEntries es others wellFormed.2, ?_⟩
    intro a ha b hb
    obtain ⟨below, -, rfl, -⟩ := exists_of_mem_sourcesOfEntry name e wellFormed.1.2 ha
    obtain ⟨name', e', below', -, mem, rfl, -⟩ :=
      exists_of_mem_sourcesOfEntries es wellFormed.2 hb
    exact List.Lex.rel (first _ mem)

private theorem pairwise_sourcesOfEntry :
    ∀ (name : RawText) (e : Entry), e.WellFormed → (sourcesOfEntry name e).Pairwise (· < ·)
  | name, .file _, _ => by
    rw [sourcesOfEntry]
    split
    · exact List.pairwise_singleton _ _
    · exact .nil
  | _, .link _, _ => by
    rw [sourcesOfEntry]
    exact .nil
  | name, .directory es, wellFormed => by
    rw [Entry.WellFormed] at wellFormed
    rw [sourcesOfEntry, List.pairwise_map]
    exact (pairwise_sourcesOfEntries es wellFormed.1 wellFormed.2).imp List.Lex.cons

end

private theorem nodup_of_pairwise_lt {places : List Place} (h : places.Pairwise (· < ·)) :
    places.Nodup := by
  apply h.imp
  rintro place _ less rfl
  exact List.lex_irrefl (fun _ ↦ Std.lt_irrefl) place less

/-- The same places in order are the same list. -/
theorem eq_of_pairwise_lt {places places' : List Place} (sorted : places.Pairwise (· < ·))
    (sorted' : places'.Pairwise (· < ·)) (h : ∀ place, place ∈ places ↔ place ∈ places') :
    places = places' := by
  apply List.Perm.eq_of_pairwise _ sorted sorted'
  · exact (List.perm_ext_iff_of_nodup (nodup_of_pairwise_lt sorted)
      (nodup_of_pairwise_lt sorted')).mpr h
  · intro a b _ _ less greater
    exact absurd greater (List.lex_asymm (fun a b ↦ Std.lt_irrefl (Std.lt_trans a b)) less)

/-- Directories with the same files have the same sources. -/
theorem sourcesOfEntries_eq {es es' : List (RawText × Entry)}
    (wellFormed : (Entry.directory es).WellFormed) (wellFormed' : (Entry.directory es').WellFormed)
    (h : ∀ place, place ∈ sourcesOfEntries es ↔ place ∈ sourcesOfEntries es') :
    sourcesOfEntries es = sourcesOfEntries es' := by
  rw [Entry.WellFormed] at wellFormed wellFormed'
  exact eq_of_pairwise_lt (pairwise_sourcesOfEntries es wellFormed.1 wellFormed.2)
    (pairwise_sourcesOfEntries es' wellFormed'.1 wellFormed'.2) h

/-- The places of sources in a directory are valid. -/
theorem validName_of_mem_sourcesOfEntries {es : List (RawText × Entry)}
    (wellFormed : (Entry.directory es).WellFormed) {place : Place}
    (mem : place ∈ sourcesOfEntries es) : ∀ n ∈ place, Path.ValidName n := by
  obtain ⟨⟨content, file⟩, -⟩ := (mem_sourcesOfEntries_iff wellFormed).mp mem
  exact wellFormed.validName_of_at? file

/-- The paths of the sources below a directory are those of their places from the root. -/
theorem FileSystem.sources_eq_map {fs : FileSystem} {root dir : ValidPlace}
    {es : List (RawText × Entry)}
    (found : fs.find (Path.ofNames root.1) = .ok (dir, .directory es)) :
    fs.sources (Path.ofNames root.1) =
      (sourcesOfEntries es).map fun below ↦ Path.ofNames (root.1 ++ below) := by
  have wellFormed : (Entry.directory es).WellFormed :=
    fs.wellFormed.of_at? (find_eq_ok_iff.mp found).2
  rw [sources, found]
  apply List.map_congr_left
  intro below mem
  exact Path.foldl_append_ofNames root.2 (validName_of_mem_sourcesOfEntries wellFormed mem)

/-- No source is listed twice. -/
theorem FileSystem.nodup_sources {fs : FileSystem} {root dir : ValidPlace}
    {es : List (RawText × Entry)}
    (found : fs.find (Path.ofNames root.1) = .ok (dir, .directory es)) :
    (fs.sources (Path.ofNames root.1)).Nodup := by
  have wellFormed : (Entry.directory es).WellFormed :=
    fs.wellFormed.of_at? (find_eq_ok_iff.mp found).2
  have valid {below : Place} (mem : below ∈ sourcesOfEntries es) :
      ∀ n ∈ root.1 ++ below, Path.ValidName n := by
    intro n hn
    rcases List.mem_append.mp hn with hn | hn
    · exact root.2 n hn
    · exact validName_of_mem_sourcesOfEntries wellFormed mem n hn
  have distinct : (sourcesOfEntries es).Nodup := by
    rw [Entry.WellFormed] at wellFormed
    exact nodup_of_pairwise_lt (pairwise_sourcesOfEntries es wellFormed.1 wellFormed.2)
  rw [sources_eq_map found, List.Nodup, List.pairwise_map]
  apply distinct.imp_of_mem
  intro a b ha hb different same
  exact different (List.append_cancel_left (Path.eq_of_ofNames_eq (valid ha) (valid hb) same))

/-- The sources below a directory are the files there with the names of C sources, each under the
path of the directory with the names from there. -/
theorem FileSystem.mem_sources_iff_foldl_append {fs : FileSystem} {base : RawText}
    {dir : ValidPlace} {es : List (RawText × Entry)}
    (found : fs.find base = .ok (dir, .directory es)) {file : RawText} :
    file ∈ fs.sources base ↔
      ∃ below : Place, file = below.foldl Path.append base ∧
        (∃ content, fs.root.at? (dir.1 ++ below) = some (.file content)) ∧
        isSourcePlace below = true := by
  have there := (find_eq_ok_iff.mp found).2
  have wellFormed : (Entry.directory es).WellFormed := fs.wellFormed.of_at? there
  have inside (below : Place) : fs.root.at? (dir.1 ++ below) = (Entry.directory es).at? below := by
    rw [Entry.at?_append, there, Option.bind_some]
  rw [sources, found]
  simp only [List.mem_map, mem_sourcesOfEntries_iff wellFormed, inside]
  constructor
  · rintro ⟨below, listed, rfl⟩
    exact ⟨below, rfl, listed⟩
  · rintro ⟨below, rfl, listed⟩
    exact ⟨below, listed, rfl⟩

/-- The sources below a directory are the files there with the names of C sources, each under its
canonical path. -/
theorem FileSystem.mem_sources_iff {fs : FileSystem} (names : ValidPlace) {dir : ValidPlace}
    {es : List (RawText × Entry)} {file : RawText}
    (found : fs.find (Path.ofNames names.1) = .ok (dir, .directory es)) :
    file ∈ fs.sources (Path.ofNames names.1) ↔
      ∃ below : ValidPlace, file = Path.ofNames (names.1 ++ below.1) ∧
        (∃ content, fs.root.at? (dir.1 ++ below.1) = some (.file content)) ∧
        isSourcePlace below.1 = true := by
  rw [mem_sources_iff_foldl_append found]
  constructor
  · rintro ⟨below, rfl, ⟨content, file⟩, source⟩
    have valid : ∀ n ∈ below, Path.ValidName n := fs.wellFormed.validName_below file
    exact ⟨⟨below, valid⟩, Path.foldl_append_ofNames names.2 valid, ⟨content, file⟩, source⟩
  · rintro ⟨below, rfl, file, source⟩
    exact ⟨below.1, (Path.foldl_append_ofNames names.2 below.2).symm, file, source⟩

end BuiltinAtlas
