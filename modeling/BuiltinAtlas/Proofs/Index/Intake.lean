import BuiltinAtlas.Proofs.Files.Scan
import BuiltinAtlas.Proofs.Index.Indexing
import BuiltinAtlas.Proofs.Index.Log

/-!
# What a run takes in

A run over files with different keys takes in those that can be read and are not up to date when it
begins (`FileSystem.news`), one after the other (`Run.atlas_foldl_addFile_eq`); a file that fails
leaves the atlas alone. What comes of that for each name is in `Part.find?_takeAll`, for tables in
`Atlas.find?_tables_takeAll`, and for digests in `Atlas.digest?_takeAll`: the last file that was
taken in and has the name decides, and else what was known before is kept unless it was from a file
that was taken in.
-/

namespace BuiltinAtlas

namespace FileSystem

/-- The file at a path, if it is there and can be read. -/
def readable? (fs : FileSystem) (reader : FileReader) (path : RawText) : Option FileVersion :=
  match fs.read path with
  | .error _ => none
  | .ok bytes =>
    match reader (.atPath path bytes) with
    | .error _ => none
    | .ok _ => some ⟨path, bytes⟩

/-- The file at a path, if it can be read and is not up to date. -/
def news? (fs : FileSystem) (reader : FileReader) (a : Atlas) (path : RawText) :
    Option FileVersion :=
  (fs.readable? reader path).filter fun f ↦ a.digest? path.text ≠ some (Sha256.hex f.bytes)

/-- The files at some paths that can be read and are not up to date. -/
def news (fs : FileSystem) (reader : FileReader) (a : Atlas) (paths : List RawText) :
    List FileVersion :=
  paths.filterMap (fs.news? reader a)

variable {fs : FileSystem} {reader : FileReader} {a : Atlas} {path : RawText} {f : FileVersion}

/-- The file at a path that can be read is what the file system offers. -/
theorem readable?_eq_some_iff :
    fs.readable? reader path = some f ↔ f.path = path ∧ fs.Offers reader f := by
  unfold readable?
  constructor
  · intro h
    split at h
    · cases h
    · next bytes there =>
      split at h
      · cases h
      · next c readable =>
        cases h
        exact ⟨rfl, there, c, readable⟩
  · rintro ⟨rfl, there, c, readable⟩
    rw [FileVersion.source] at readable
    rw [there]
    simp only [readable]

/-- What is new is offered, and has another digest than the recorded one. -/
theorem news?_eq_some_iff :
    fs.news? reader a path = some f ↔
      f.path = path ∧ fs.Offers reader f ∧ a.digest? path.text ≠ some (Sha256.hex f.bytes) := by
  rw [news?, Option.filter_eq_some_iff, readable?_eq_some_iff, decide_eq_true_iff, and_assoc]

/-- The new files at some paths are those that are new. -/
theorem mem_news_iff {paths : List RawText} :
    f ∈ fs.news reader a paths ↔
      f.path ∈ paths ∧ fs.Offers reader f ∧ a.digest? f.key ≠ some (Sha256.hex f.bytes) := by
  rw [news, List.mem_filterMap]
  constructor
  · rintro ⟨path, mem, new⟩
    obtain ⟨rfl, offers, changed⟩ := news?_eq_some_iff.mp new
    exact ⟨mem, offers, changed⟩
  · rintro ⟨mem, offers, changed⟩
    exact ⟨f.path, mem, news?_eq_some_iff.mpr ⟨rfl, offers, changed⟩⟩

/-- Where nothing is known, all that can be read is new. -/
theorem news_empty (fs : FileSystem) (reader : FileReader) (paths : List RawText) :
    fs.news reader .empty paths = paths.filterMap (fs.readable? reader) := by
  apply List.filterMap_congr
  intro path _
  rw [news?]
  cases fs.readable? reader path with
  | none => rfl
  | some f => exact Option.filter_some_pos (decide_eq_true (Option.some_ne_none _ ∘ Eq.symm))

private theorem news?_of_upToDate (h : a.upToDate fs path = true) :
    fs.news? reader a path = none := by
  obtain ⟨bytes, there, same⟩ := Atlas.upToDate_iff.mp h
  apply Option.eq_none_iff_forall_ne_some.mpr
  intro f new
  obtain ⟨rfl, ⟨there', -⟩, changed⟩ := news?_eq_some_iff.mp new
  cases there.symm.trans there'
  exact changed same

private theorem news?_of_offers (h : a.upToDate fs f.path = false) (offers : fs.Offers reader f) :
    fs.news? reader a f.path = some f := by
  refine news?_eq_some_iff.mpr ⟨rfl, offers, fun same ↦ ?_⟩
  rw [Atlas.upToDate_iff.mpr ⟨f.bytes, offers.1, same⟩] at h
  cases h

/-- Different keys are those of different new files. -/
theorem nodup_news (fs : FileSystem) (reader : FileReader) (a : Atlas) {paths : List RawText}
    (h : (paths.map RawText.text).Nodup) :
    ((fs.news reader a paths).map (·.key)).Nodup := by
  induction paths with
  | nil => exact List.nodup_nil
  | cons path paths ih =>
    rw [List.map_cons, List.nodup_cons] at h
    obtain ⟨notMem, distinct⟩ := h
    rw [news, List.filterMap_cons]
    cases new : fs.news? reader a path with
    | none => exact ih distinct
    | some f =>
      obtain rfl := (news?_eq_some_iff.mp new).1
      rw [List.map_cons, List.nodup_cons, List.mem_map]
      refine ⟨?_, ih distinct⟩
      rintro ⟨g, mem, same⟩
      exact notMem (List.mem_map.mpr ⟨g.path, (mem_news_iff.mp mem).1, same⟩)

end FileSystem

/-- An atlas after some files were taken in, one after the other. -/
def Atlas.takeAll (reader : FileReader) (a : Atlas) (files : List FileVersion) : Atlas :=
  files.foldl (fun a f ↦ a.replaceFile f.key (reader.findings f) (Sha256.hex f.bytes)) a

private theorem Run.atlas_foldl_addFile_eq {reader : FileReader} {fs : FileSystem} {r : Run}
    {paths : List RawText} (distinct : (paths.map RawText.text).Nodup) :
    (paths.foldl (addFile reader fs) r).atlas =
      r.atlas.takeAll reader (fs.news reader r.atlas paths) := by
  induction paths generalizing r with
  | nil => rfl
  | cons path paths ih =>
    rw [List.map_cons, List.nodup_cons] at distinct
    obtain ⟨notMem, distinct⟩ := distinct
    rw [List.foldl_cons, ih distinct, FileSystem.news, FileSystem.news, List.filterMap_cons]
    rcases addFile_cases reader fs r path with
      ⟨known, counted⟩ | ⟨bytes, c, known, there, readable, indexed⟩ | ⟨_, -, no, failed⟩
    · rw [counted, FileSystem.news?_of_upToDate known]
    · have new : fs.news? reader r.atlas path = some ⟨path, bytes⟩ :=
        FileSystem.news?_of_offers (f := ⟨path, bytes⟩) known ⟨there, c, readable⟩
      have found : reader.findings ⟨path, bytes⟩ = c.survey (.atPath path bytes) :=
        FileReader.findings_of_eq_ok readable
      rw [indexed, new, Atlas.takeAll, Atlas.takeAll, List.foldl_cons, found]
      -- The digest of a later file has not changed.
      congr 1
      apply List.filterMap_congr
      intro other mem
      have elsewhere : other.text ≠ path.text := fun same ↦
        notMem (same ▸ List.mem_map_of_mem mem)
      rw [FileSystem.news?, FileSystem.news?, Atlas.digest?_replaceFile, if_neg elsewhere]
    · have nothing : fs.news? reader r.atlas path = none := by
        apply Option.eq_none_iff_forall_ne_some.mpr
        intro f new
        obtain ⟨rfl, offers, -⟩ := FileSystem.news?_eq_some_iff.mp new
        exact no ⟨f.bytes, offers⟩
      rw [failed, nothing]

/-- A run over a directory takes in the sources there that are new. -/
theorem FileSystem.atlas_runOver_directory {fs : FileSystem} {root : ValidPlace}
    {es : List (RawText × Entry)} (reader : FileReader)
    (found : fs.find (Path.ofNames root.1) = .ok (root, .directory es))
    (distinct : ((fs.sources (Path.ofNames root.1)).map RawText.text).Nodup) (a : Atlas) :
    (fs.runOver reader (Path.ofNames root.1) a).atlas =
      a.takeAll reader (fs.news reader a (fs.sources (Path.ofNames root.1))) := by
  have directory : fs.isDirectory (Path.ofNames root.1) = true :=
    isDirectory_iff.mpr ⟨root, es, found⟩
  rw [runOver, visited, if_pos directory, Run.atlas_foldl_addFile_eq distinct]

section

variable {reader : FileReader} {a : Atlas} {files : List FileVersion} {name : String}

private theorem Atlas.takeAll_cons (reader : FileReader) (a : Atlas) (f : FileVersion)
    (files : List FileVersion) :
    a.takeAll reader (f :: files) =
      (a.replaceFile f.key (reader.findings f) (Sha256.hex f.bytes)).takeAll reader files := rfl

/-- The last file that was taken in and has an entry of a name decides, and else what was known
before, unless it was from a file that was taken in. -/
theorem Part.find?_takeAll {β : Type} (part : Part β) (distinct : (files.map (·.key)).Nodup) :
    (part.entries (a.takeAll reader files).toFindings).find? name =
      (files.reverse.findSome? fun f ↦ (part.entries (reader.findings f)).find? name).or
        (((part.entries a.toFindings).find? name).filter fun e ↦
          part.path e ∉ files.map (·.key)) := by
  induction files generalizing a with
  | nil =>
    cases known : (part.entries a.toFindings).find? name <;>
      simp [Atlas.takeAll, Option.filter_some, known]
  | cons f files ih =>
    rw [List.map_cons, List.nodup_cons] at distinct
    rw [Atlas.takeAll_cons, ih distinct.2, part.find?_replaceFile, List.reverse_cons,
      List.findSome?_append, Option.or_assoc]
    congr 1
    rw [List.findSome?_singleton]
    cases fresh : (part.entries (reader.findings f)).find? name with
    | some e =>
      have later : part.path e ∉ files.map (·.key) := part.path_of_findings fresh ▸ distinct.1
      simp only [Option.some_or, Option.filter_some, later, not_false_eq_true, decide_true, if_true]
    | none =>
      rw [Option.none_or, Option.none_or, Option.filter_filter]
      congr 1
      funext e
      by_cases here : part.path e = f.key <;> simp [here]

/-- An entry from another file stays if no file that was taken in has one of its name. -/
theorem Part.find?_takeAll_eq_some_iff {β : Type} (part : Part β)
    (distinct : (files.map (·.key)).Nodup) {e : β}
    (elsewhere : part.path e ∉ files.map (·.key)) :
    (part.entries (a.takeAll reader files).toFindings).find? name = some e ↔
      (part.entries a.toFindings).find? name = some e ∧
        ∀ f ∈ files, (part.entries (reader.findings f)).contains name = false := by
  have absent (f : FileVersion) : (part.entries (reader.findings f)).contains name = false ↔
      (part.entries (reader.findings f)).find? name = none := by
    simp [Dictionary.contains]
  simp only [absent]
  rw [part.find?_takeAll distinct, Option.or_eq_some_iff]
  constructor
  · rintro (fresh | ⟨nothing, old⟩)
    · obtain ⟨f, mem, contributed⟩ := List.exists_of_findSome?_eq_some fresh
      refine absurd (List.mem_map.mpr ⟨f, List.mem_reverse.mp mem, ?_⟩) elsewhere
      exact (part.path_of_findings contributed).symm
    · rw [List.findSome?_eq_none_iff] at nothing
      exact ⟨(Option.filter_eq_some_iff.mp old).1,
        fun f mem ↦ nothing f (List.mem_reverse.mpr mem)⟩
  · rintro ⟨known, nothing⟩
    refine .inr ⟨?_, Option.filter_eq_some_iff.mpr ⟨known, decide_eq_true elsewhere⟩⟩
    rw [List.findSome?_eq_none_iff]
    exact fun f mem ↦ nothing f (List.mem_reverse.mp mem)

/-- Of files with different keys, the one with a key is found under it. -/
theorem find?_key_eq_some_iff (distinct : (files.map (·.key)).Nodup) {f : FileVersion}
    {key : String} : files.find? (·.key == key) = some f ↔ f ∈ files ∧ f.key = key := by
  induction files with
  | nil => simp
  | cons g files ih =>
    rw [List.map_cons, List.nodup_cons] at distinct
    by_cases here : g.key = key
    · rw [List.find?_cons_of_pos (by simpa using here)]
      constructor
      · intro first
        cases first
        exact ⟨List.mem_cons_self, here⟩
      · rintro ⟨mem, same⟩
        rcases List.mem_cons.mp mem with rfl | later
        · rfl
        · exact absurd (List.mem_map.mpr ⟨f, later, same.trans here.symm⟩) distinct.1
    · rw [List.find?_cons_of_neg (by simpa using here), ih distinct.2, List.mem_cons]
      constructor
      · rintro ⟨later, same⟩
        exact ⟨.inr later, same⟩
      · rintro ⟨rfl | later, same⟩
        · exact absurd same here
        · exact ⟨later, same⟩

/-- The digests of the files that were taken in are recorded, and the others kept. -/
theorem Atlas.digest?_takeAll (distinct : (files.map (·.key)).Nodup) (key : String) :
    (a.takeAll reader files).digest? key =
      ((files.find? (·.key == key)).map fun f ↦ Sha256.hex f.bytes).or (a.digest? key) := by
  induction files generalizing a with
  | nil => rfl
  | cons f files ih =>
    rw [List.map_cons, List.nodup_cons] at distinct
    rw [takeAll_cons, ih distinct.2, digest?_replaceFile]
    by_cases here : f.key = key
    · have absent : files.find? (·.key == key) = none := by
        rw [List.find?_eq_none]
        intro g mem same
        exact distinct.1 (List.mem_map.mpr ⟨g, mem, (eq_of_beq same).trans here.symm⟩)
      rw [absent, if_pos here.symm, List.find?_cons_of_pos (by simpa using here)]
      rfl
    · rw [if_neg (Ne.symm here), List.find?_cons_of_neg (by simpa using here)]

/-- A table that no file that was taken in has stays if it belonged to none of them when that was
taken in. -/
theorem Atlas.find?_tables_takeAll_eq_some_iff {table : MethodTable}
    (absent : ∀ f ∈ files, (reader.findings f).tables.contains name = false) :
    (a.takeAll reader files).tables.find? name = some table ↔
      a.tables.find? name = some table ∧
        ∀ before f after, files = before ++ f :: after →
          (a.takeAll reader before).tableBelongsTo f.key table = false := by
  induction files generalizing a with
  | nil => simp [takeAll]
  | cons f files ih =>
    have nothing : (reader.findings f).tables.find? name = none := by
      simpa [Dictionary.contains] using absent f List.mem_cons_self
    rw [takeAll_cons, ih fun g mem ↦ absent g (List.mem_cons_of_mem _ mem),
      find?_tables_replaceFile, nothing, Option.none_or, Option.filter_eq_some_iff, and_assoc,
      Bool.not_eq_true']
    apply and_congr_right
    intro _
    constructor
    · rintro ⟨first, later⟩ before g after split
      cases before with
      | nil =>
        cases split
        exact first
      | cons _ before =>
        cases split
        exact later before g after rfl
    · intro all
      refine ⟨all [] f files rfl, fun before g after split ↦ ?_⟩
      exact all (f :: before) g after (by rw [split]; rfl)

private theorem Atlas.tableBelongsTo_of_replaceFile {f : FileVersion} {digest path : String}
    {table : MethodTable} (elsewhere : f.key ≠ path)
    (h : (a.replaceFile f.key (reader.findings f) digest).tableBelongsTo path table = true) :
    a.tableBelongsTo path table = true := by
  rw [tableBelongsTo, Bool.and_eq_true, List.all_eq_true] at h ⊢
  refine ⟨h.1, fun c mem ↦ ?_⟩
  have recorded := h.2 c mem
  rw [Option.any_eq_true] at recorded ⊢
  obtain ⟨e, found, here⟩ := recorded
  have functions : (a.replaceFile f.key (reader.findings f) digest).functions.find? c =
      ((reader.findings f).functions.find? c).or
        ((a.functions.find? c).filter fun e ↦ e.path != f.key) :=
    Part.functions.find?_replaceFile a f.key (reader.findings f) digest c
  rw [functions] at found
  rcases Option.or_eq_some_iff.mp found with fresh | ⟨-, old⟩
  · have there := Part.functions.path_of_findings fresh
    exact absurd (there.symm.trans (eq_of_beq here)) elsewhere
  · exact ⟨e, (Option.filter_eq_some_iff.mp old).1, here⟩

/-- If no function is recorded as one of the files that are taken in, no table is dropped. -/
theorem Atlas.find?_tables_takeAll (distinct : (files.map (·.key)).Nodup)
    (foreign : ∀ f ∈ files, ∀ table, a.tableBelongsTo f.key table = false) :
    (a.takeAll reader files).tables.find? name =
      (files.reverse.findSome? fun f ↦ (reader.findings f).tables.find? name).or
        (a.tables.find? name) := by
  induction files generalizing a with
  | nil => rfl
  | cons f files ih =>
    rw [List.map_cons, List.nodup_cons] at distinct
    have later : ∀ g ∈ files, ∀ table,
        (a.replaceFile f.key (reader.findings f) (Sha256.hex f.bytes)).tableBelongsTo g.key table
          = false := by
      intro g mem table
      rw [Bool.eq_false_iff]
      intro belongs
      have elsewhere : f.key ≠ g.key := fun same ↦
        distinct.1 (List.mem_map.mpr ⟨g, mem, same.symm⟩)
      have before := tableBelongsTo_of_replaceFile elsewhere belongs
      rw [foreign g (List.mem_cons_of_mem _ mem) table] at before
      cases before
    have nothingDropped : ((a.tables.find? name).filter fun t ↦ !a.tableBelongsTo f.key t) =
        a.tables.find? name := by
      cases a.tables.find? name <;> simp [Option.filter_some, foreign f List.mem_cons_self]
    rw [takeAll_cons, ih distinct.2 later, find?_tables_replaceFile, nothingDropped,
      List.reverse_cons, List.findSome?_append, Option.or_assoc, List.findSome?_singleton]

end

end BuiltinAtlas
