import BuiltinAtlas.Proofs.Index.Log

/-!
# Logs without conflicts

The atlas of a log depends on the order of the versions where files contribute the same names. If
they do not, and tables list functions of their own files, it holds what the last versions of the
files contribute: `Part.find?_ofLog_iff_current` says so of the findings that record their file, and
`Atlas.find?_tables_ofLog_iff_current` of the tables, both by induction on the log. Logs whose last
versions are read alike then make the same atlas (`Atlas.ofLog_eq_of_alike`).
-/

namespace BuiltinAtlas

open Log

/-- Tables list something, and only functions that are found with them. -/
def Findings.TablesClosed (x : Findings) : Prop :=
  ∀ name table, x.tables.find? name = some table →
    table.isEmpty = false ∧ ∀ c ∈ table.values, x.functions.contains c = true

private theorem Findings.tablesClosed_iff {x : Findings} :
    (∀ e ∈ x.tables.entries, e.2.isEmpty = false ∧
      ∀ c ∈ e.2.values, x.functions.contains c = true) ↔ x.TablesClosed := by
  constructor
  · intro h name table found
    exact h (name, table) (Dictionary.mem_entries_iff.mpr found)
  · rintro h ⟨name, table⟩ mem
    exact h name table (Dictionary.mem_entries_iff.mp mem)

instance (x : Findings) : Decidable x.TablesClosed := decidable_of_iff _ Findings.tablesClosed_iff

namespace Log

/-- The last versions under different keys contribute different names. -/
def Apart (reader : FileReader) (log : Log) : Prop :=
  ∀ f g, Current log f → Current log g → f.key ≠ g.key →
    (reader.findings f).Apart (reader.findings g)

/-- At no time the last versions under two keys passed a test. -/
def Alone (test : FileVersion → Bool) (log : Log) : Prop :=
  ∀ earlier, earlier <:+ log → ∀ f g, Current earlier f → Current earlier g → f.key ≠ g.key →
    test f = true → test g = false

private theorem Alone.of_cons {test : FileVersion → Bool} {f : FileVersion} {log : Log}
    (h : Alone test (f :: log)) : Alone test log :=
  fun earlier before ↦ h earlier (before.trans (List.suffix_cons f log))

end Log

section

variable {reader : FileReader} {log : Log} {name : String}

private theorem Part.find?_ofLog_iff_current {β : Type} (part : Part β) {e : β}
    (alone : Alone (part.definedIn reader name) log) :
    (part.entries (Atlas.ofLog reader log).toFindings).find? name = some e ↔
      ∃ f, Current log f ∧ (part.entries (reader.findings f)).find? name = some e := by
  induction log generalizing e with
  | nil =>
    have nothing : part.entries (Atlas.ofLog reader []).toFindings = .empty := part.empty
    rw [nothing, Dictionary.find?_empty]
    constructor
    · intro h; cases h
    · rintro ⟨f, current, -⟩
      cases current
  | cons f log ih =>
    rw [Atlas.ofLog, part.find?_replaceFile]
    constructor
    · intro h
      rcases Option.or_eq_some_iff.mp h with fresh | ⟨-, old⟩
      · exact ⟨f, current_cons_self f log, fresh⟩
      · obtain ⟨old, elsewhere⟩ := Option.filter_eq_some_iff.mp old
        obtain ⟨g, current, hg⟩ := (ih alone.of_cons).mp old
        have hne : f.key ≠ g.key := by
          intro same
          simp [part.path_of_findings hg, same] at elsewhere
        exact ⟨g, current_cons_iff.mpr (.inr ⟨hne, current⟩), hg⟩
    · rintro ⟨g, current, hg⟩
      apply Option.or_eq_some_iff.mpr
      rcases current_cons_iff.mp current with rfl | ⟨hne, before⟩
      · exact .inl hg
      · have has : part.definedIn reader name g = true := by
          simp [definedIn, Dictionary.contains, hg]
        have absent := alone _ List.suffix_rfl g f current (current_cons_self f log) hne.symm has
        refine .inr ⟨by simpa [definedIn, Dictionary.contains] using absent, ?_⟩
        refine Option.filter_eq_some_iff.mpr ⟨(ih alone.of_cons).mpr ⟨g, before, hg⟩, ?_⟩
        simpa [part.path_of_findings hg] using hne.symm

private theorem Atlas.tableBelongsTo_ofLog_iff {g : FileVersion} {table : MethodTable}
    (functions : ∀ c ∈ table.values, Alone (Part.functions.definedIn reader c) log)
    (current : Current log g) (closed : (reader.findings g).TablesClosed)
    (found : (reader.findings g).tables.find? name = some table) (path : String) :
    (ofLog reader log).tableBelongsTo path table = true ↔ path = g.key := by
  obtain ⟨nonempty, listed⟩ := closed name table found
  have recorded (c : String) (hc : c ∈ table.values) :
      ∃ e, (ofLog reader log).functions.find? c = some e ∧ e.path = g.key := by
    obtain ⟨e, he⟩ := Option.isSome_iff_exists.mp (listed c hc)
    exact ⟨e, (Part.functions.find?_ofLog_iff_current (functions c hc)).mpr ⟨g, current, he⟩,
      Part.functions.path_of_findings he⟩
  rw [tableBelongsTo, nonempty]
  simp only [Bool.not_false, Bool.true_and, List.all_eq_true]
  constructor
  · intro all
    obtain ⟨c, hc⟩ : ∃ c, c ∈ table.values := by
      apply List.exists_mem_of_ne_nil
      intro none
      simp_all [Dictionary.values, Dictionary.isEmpty]
    obtain ⟨e, he, same⟩ := recorded c hc
    have here := all c hc
    rw [he, Option.any_some, beq_iff_eq] at here
    exact here.symm.trans same
  · rintro rfl c hc
    obtain ⟨e, he, same⟩ := recorded c hc
    rw [he, Option.any_some, beq_iff_eq]
    exact same

private theorem Atlas.find?_tables_ofLog_iff_current {table : MethodTable}
    (alone : Alone (fun f ↦ (reader.findings f).tables.contains name) log)
    (functions : ∀ c, Alone (Part.functions.definedIn reader c) log)
    (closed : ∀ f ∈ log, (reader.findings f).TablesClosed) :
    (ofLog reader log).tables.find? name = some table ↔
      ∃ f, Current log f ∧ (reader.findings f).tables.find? name = some table := by
  induction log generalizing table with
  | nil =>
    constructor
    · intro h; cases h
    · rintro ⟨f, current, -⟩
      cases current
  | cons f log ih =>
    have before : (ofLog reader log).tables.find? name = some table ↔
        ∃ g, Current log g ∧ (reader.findings g).tables.find? name = some table :=
      ih alone.of_cons (fun c ↦ (functions c).of_cons)
        fun g hg ↦ closed g (List.mem_cons_of_mem _ hg)
    have belongs {g : FileVersion} (current : Current log g)
        (hg : (reader.findings g).tables.find? name = some table) :=
      tableBelongsTo_ofLog_iff (fun c _ ↦ (functions c).of_cons) current
        (closed g (List.mem_cons_of_mem _ current.mem)) hg f.key
    rw [find?_tables_ofLog_cons]
    constructor
    · intro h
      rcases Option.or_eq_some_iff.mp h with fresh | ⟨-, old⟩
      · exact ⟨f, current_cons_self f log, fresh⟩
      · obtain ⟨old, kept⟩ := Option.filter_eq_some_iff.mp old
        obtain ⟨g, current, hg⟩ := before.mp old
        have hne : f.key ≠ g.key := by
          intro same
          rw [(belongs current hg).mpr same] at kept
          cases kept
        exact ⟨g, current_cons_iff.mpr (.inr ⟨hne, current⟩), hg⟩
    · rintro ⟨g, current, hg⟩
      apply Option.or_eq_some_iff.mpr
      rcases current_cons_iff.mp current with rfl | ⟨hne, older⟩
      · exact .inl hg
      · have has : (reader.findings g).tables.contains name = true := by
          simp [Dictionary.contains, hg]
        have absent := alone _ List.suffix_rfl g f current (current_cons_self f log) hne.symm has
        refine .inr ⟨by simpa [Dictionary.contains] using absent, ?_⟩
        refine Option.filter_eq_some_iff.mpr ⟨before.mpr ⟨g, older, hg⟩, ?_⟩
        rw [Bool.not_eq_true', Bool.eq_false_iff]
        exact fun belong ↦ hne ((belongs older hg).mp belong)

end

/-- A log without conflicts: at no time the last versions under two keys contributed the same name,
and each version has tables of its own functions only. -/
structure Log.Tidy (reader : FileReader) (log : Log) : Prop where
  apart : ∀ earlier, earlier <:+ log → Apart reader earlier
  closed : ∀ f ∈ log, (reader.findings f).TablesClosed

private theorem Atlas.eq_of_mappings_eq {a b : Atlas} (types : a.types = b.types)
    (modules : a.modules = b.modules) (tables : a.tables = b.tables)
    (functions : a.functions = b.functions) (digests : a.digests = b.digests) : a = b := by
  obtain ⟨⟨_, _, _, _⟩, _⟩ := a
  obtain ⟨⟨_, _, _, _⟩, _⟩ := b
  cases types
  cases modules
  cases tables
  cases functions
  cases digests
  rfl

section

variable {reader : FileReader} {log other : Log}

/-- A log has no conflicts if no two versions under different keys contribute the same name. -/
theorem Log.Tidy.of_forall_apart
    (apart : ∀ f ∈ log, ∀ g ∈ log, f.key ≠ g.key →
      (reader.findings f).Apart (reader.findings g))
    (closed : ∀ f ∈ log, (reader.findings f).TablesClosed) : Tidy reader log := by
  constructor
  · intro earlier before f g hf hg hne
    exact apart f (before.subset hf.mem) g (before.subset hg.mem) hne
  · exact closed

/-- Without conflicts, one version at a time contributes a name to a part. -/
theorem Log.Tidy.alone {β : Type} (h : Tidy reader log) (part : Part β) (name : String) :
    Alone (part.definedIn reader name) log :=
  fun earlier before f g hf hg hne ↦ part.apart (h.apart earlier before f g hf hg hne)

private theorem Log.Tidy.alone_tables (h : Tidy reader log) (name : String) :
    Alone (fun f ↦ (reader.findings f).tables.contains name) log :=
  fun earlier before f g hf hg hne ↦ (h.apart earlier before f g hf hg hne).tables name

/-- The last versions under each key are read alike. -/
def Log.Alike (log other : Log) : Prop :=
  ∀ key, (latest? log key).map FileVersion.source = (latest? other key).map FileVersion.source

private theorem Log.Alike.symm (h : Alike log other) : Alike other log := fun key ↦ (h key).symm

private theorem Log.Alike.exists_current (h : Alike log other) {f : FileVersion}
    (current : Current log f) : ∃ g, Current other g ∧ g.source = f.source := by
  have here := h f.key
  rw [current, Option.map_some] at here
  obtain ⟨g, last, same⟩ := Option.map_eq_some_iff.mp here.symm
  exact ⟨g, current_of_latest? last, same⟩

private theorem Log.Alike.exists_current_iff (h : Alike log other) {p : Findings → Prop} :
    (∃ f, Current log f ∧ p (reader.findings f)) ↔
      ∃ f, Current other f ∧ p (reader.findings f) := by
  constructor
  · rintro ⟨f, current, holds⟩
    obtain ⟨g, current', same⟩ := h.exists_current current
    exact ⟨g, current', FileReader.findings_congr same ▸ holds⟩
  · rintro ⟨f, current, holds⟩
    obtain ⟨g, current', same⟩ := h.symm.exists_current current
    exact ⟨g, current', FileReader.findings_congr same ▸ holds⟩

private theorem Part.entries_ofLog_eq {β : Type} (part : Part β) (alike : Alike log other)
    (tidy : Tidy reader log)
    (tidy' : Tidy reader other) :
    part.entries (Atlas.ofLog reader log).toFindings =
      part.entries (Atlas.ofLog reader other).toFindings := by
  apply Dictionary.eq_of_find?_eq
  intro name
  apply Option.ext
  intro e
  rw [part.find?_ofLog_iff_current (tidy.alone part name),
    part.find?_ofLog_iff_current (tidy'.alone part name)]
  exact alike.exists_current_iff (p := fun x ↦ (part.entries x).find? name = some e)

private theorem Atlas.tables_ofLog_eq (alike : Alike log other)
    (tidy : Tidy reader log) (tidy' : Tidy reader other) :
    (ofLog reader log).tables = (ofLog reader other).tables := by
  apply Dictionary.eq_of_find?_eq
  intro name
  apply Option.ext
  intro table
  rw [find?_tables_ofLog_iff_current (tidy.alone_tables name) (tidy.alone Part.functions)
      tidy.closed,
    find?_tables_ofLog_iff_current (tidy'.alone_tables name) (tidy'.alone Part.functions)
      tidy'.closed]
  exact alike.exists_current_iff (p := fun x ↦ x.tables.find? name = some table)

private theorem Atlas.digests_ofLog_eq (alike : Alike log other) :
    (ofLog reader log).digests = (ofLog reader other).digests := by
  have digest (log : Log) (key : String) : (ofLog reader log).digests.find? key =
      ((latest? log key).map FileVersion.source).map fun f ↦ Sha256.hex f.bytes := by
    rw [Option.map_map]
    exact digest?_ofLog reader log key
  apply Dictionary.eq_of_find?_eq
  intro key
  rw [digest, digest, alike key]

/-- Without conflicts, the atlas depends on what is read of the last versions only. -/
theorem Atlas.ofLog_eq_of_alike (alike : Alike log other) (tidy : Tidy reader log)
    (tidy' : Tidy reader other) :
    ofLog reader log = ofLog reader other := by
  apply eq_of_mappings_eq
  · exact Part.types.entries_ofLog_eq alike tidy tidy'
  · exact Part.modules.entries_ofLog_eq alike tidy tidy'
  · exact tables_ofLog_eq alike tidy tidy'
  · exact Part.functions.entries_ofLog_eq alike tidy tidy'
  · exact digests_ofLog_eq alike

end

end BuiltinAtlas
