import BuiltinAtlas.Proofs.Index.Step
import BuiltinAtlas.Proofs.Survey.Origin

/-!
# What a log of versions leaves behind

A log lists the versions of files that were indexed, the latest first, and `Atlas.ofLog` is what
they make of the empty atlas. Types, modules and functions record the key of the file that they are
from, so that the atlas knows a name if and only if the last version that defined it is still the
last one under its key (`Part.find?_ofLog`). Tables record no file, and one that belongs to a file
by the functions known before is gone when that file is indexed again
(`Atlas.find?_tables_ofLog_cons`). Files that share a key replace one another.
-/

namespace BuiltinAtlas

/-- What a version of a file contributes, which is nothing if it cannot be read. -/
def FileReader.findings (reader : FileReader) (f : FileVersion) : Findings :=
  match reader f.source with
  | .ok c => c.survey f.source
  | .error _ => {}

/-- A reader reads less than another one, perhaps, and what it reads it reads in the same way. -/
def FileReader.Within (reader whole : FileReader) : Prop :=
  ∀ f c, reader f = .ok c → whole f = .ok c

/-- A reader reads what it reads. -/
theorem FileReader.Within.refl (reader : FileReader) : reader.Within reader := fun _ _ h ↦ h

/-- What a version of a file contributes that can be read. -/
theorem FileReader.findings_of_eq_ok {reader : FileReader} {f : FileVersion} {c : Construct}
    (h : reader f.source = .ok c) : reader.findings f = c.survey f.source := by
  rw [findings, h]

/-- Versions that are read alike contribute the same. -/
theorem FileReader.findings_congr {reader : FileReader} {f g : FileVersion}
    (h : f.source = g.source) : reader.findings f = reader.findings g := by
  rw [findings, findings, h]

/-- Versions of files that were indexed, the latest first. -/
abbrev Log := List FileVersion

/-- What indexed versions make of the empty atlas. -/
def Atlas.ofLog (reader : FileReader) : Log → Atlas
  | [] => .empty
  | f :: log => (ofLog reader log).replaceFile f.key (reader.findings f) (Sha256.hex f.bytes)

namespace Log

/-- The last version under a key. -/
def latest? (log : Log) (key : String) : Option FileVersion := log.find? (·.key == key)

/-- A version is the last one under its key. -/
def Current (log : Log) (f : FileVersion) : Prop := latest? log f.key = some f

variable {log : Log} {key : String} {f g : FileVersion}

/-- A new version is the last one under its key. -/
theorem current_cons_self (f : FileVersion) (log : Log) : Current (f :: log) f := by
  simp [Current, latest?]

/-- A version under another key does not count. -/
theorem latest?_cons_of_ne (log : Log) (h : f.key ≠ key) :
    latest? (f :: log) key = latest? log key := by
  simp [latest?, h]

/-- The last version under a key is a version under that key. -/
theorem key_of_latest? (h : latest? log key = some f) : f.key = key := by
  have same := List.find?_some h
  simpa using same

/-- The last version under a key is the last one under its key. -/
theorem current_of_latest? (h : latest? log key = some f) : Current log f := by
  rw [Current, key_of_latest? h]
  exact h

/-- A version that is the last one under its key was indexed. -/
theorem Current.mem (h : Current log f) : f ∈ log := List.mem_of_find?_eq_some h

/-- There is one last version under a key. -/
theorem Current.eq_of_key_eq (hf : Current log f) (hg : Current log g) (h : f.key = g.key) :
    f = g := by
  rw [Current, h] at hf
  exact Option.some.inj (hf.symm.trans hg)

/-- After a new version, the last ones are that and those under other keys. -/
theorem current_cons_iff : Current (f :: log) g ↔ g = f ∨ f.key ≠ g.key ∧ Current log g := by
  by_cases h : f.key = g.key
  · constructor
    · intro hg
      exact .inl (hg.eq_of_key_eq (current_cons_self f log) h.symm)
    · rintro (rfl | ⟨hne, -⟩)
      · exact current_cons_self g log
      · exact absurd h hne
  · have hne : g ≠ f := fun same ↦ h (same ▸ rfl)
    simp [Current, latest?_cons_of_ne log h, h, hne]

end Log

open Log

/-- Findings have no name in common. -/
structure Findings.Apart (x y : Findings) : Prop where
  types : ∀ name, x.types.contains name = true → y.types.contains name = false
  modules : ∀ name, x.modules.contains name = true → y.modules.contains name = false
  tables : ∀ name, x.tables.contains name = true → y.tables.contains name = false
  functions : ∀ name, x.functions.contains name = true → y.functions.contains name = false

private theorem Findings.apart_iff {x y : Findings} :
    (∀ n ∈ x.types.keys, y.types.contains n = false) ∧
      (∀ n ∈ x.modules.keys, y.modules.contains n = false) ∧
      (∀ n ∈ x.tables.keys, y.tables.contains n = false) ∧
      (∀ n ∈ x.functions.keys, y.functions.contains n = false) ↔ x.Apart y := by
  simp only [Dictionary.mem_keys_iff]
  constructor
  · rintro ⟨types, modules, tables, functions⟩
    exact ⟨types, modules, tables, functions⟩
  · intro h
    exact ⟨h.types, h.modules, h.tables, h.functions⟩

instance (x y : Findings) : Decidable (x.Apart y) := decidable_of_iff _ Findings.apart_iff

/-- A part of findings whose entries record the file that they are from, so that what a file
contributed to it can be replaced. -/
structure Part (β : Type) where
  entries : Findings → Dictionary β
  path : β → String
  /-- Replacing drops the entries from the file and adds the fresh ones. -/
  replaceFile (a : Atlas) (file : String) (fresh : Findings) (digest : String) :
    entries (a.replaceFile file fresh digest).toFindings =
      ((entries a.toFindings).filter fun _ e ↦ path e != file).override (entries fresh)
  /-- There is nothing at first. -/
  empty : entries {} = .empty
  /-- What is found in a file is from there. -/
  survey {c : Construct} {f : SourceFile} {name : String} {e : β} :
    (entries (c.survey f)).find? name = some e → path e = f.path
  /-- Findings without a common name have none in this part. -/
  apart {x y : Findings} {name : String} :
    x.Apart y → (entries x).contains name = true → (entries y).contains name = false

namespace Part

/-- The types. -/
def types : Part TypeEntry where
  entries := Findings.types
  path e := e.path
  replaceFile _ _ _ _ := rfl
  empty := rfl
  survey h := (Construct.allFrom_survey _ _).types _ _ h
  apart h := h.types _

/-- The modules. -/
def modules : Part ModuleEntry where
  entries := Findings.modules
  path e := e.path
  replaceFile _ _ _ _ := rfl
  empty := rfl
  survey h := (Construct.allFrom_survey _ _).modules _ _ h
  apart h := h.modules _

/-- The functions. -/
def functions : Part Excerpt where
  entries := Findings.functions
  path e := e.path
  replaceFile _ _ _ _ := rfl
  empty := rfl
  survey h := (Construct.allFrom_survey _ _).functions _ _ h
  apart h := h.functions _

variable {β : Type} (part : Part β) {reader : FileReader}

/-- Taking in a file adds its entries and drops those that were from it. -/
theorem find?_replaceFile (a : Atlas) (path : String) (fresh : Findings) (digest name : String) :
    (part.entries (a.replaceFile path fresh digest).toFindings).find? name =
      ((part.entries fresh).find? name).or
        (((part.entries a.toFindings).find? name).filter fun e ↦ part.path e != path) := by
  rw [part.replaceFile, Dictionary.find?_override, Dictionary.find?_filter]

/-- Whether a version of a file contributes an entry of a name. -/
def definedIn (reader : FileReader) (name : String) (f : FileVersion) : Bool :=
  (part.entries (reader.findings f)).contains name

/-- What a version of a file contributes records its key. -/
theorem path_of_findings {f : FileVersion} {name : String} {e : β}
    (h : (part.entries (reader.findings f)).find? name = some e) : part.path e = f.key := by
  unfold FileReader.findings at h
  split at h
  · exact part.survey h
  · rw [part.empty, Dictionary.find?_empty] at h
    cases h

/-- An entry was contributed by the last version that has one of the name, which no later version
under its key has replaced. -/
theorem find?_ofLog (log : Log) (name : String) (e : β) :
    (part.entries (Atlas.ofLog reader log).toFindings).find? name = some e ↔
      ∃ f, log.find? (part.definedIn reader name) = some f ∧ Current log f ∧
        (part.entries (reader.findings f)).find? name = some e := by
  induction log generalizing e with
  | nil =>
    have nothing : part.entries (Atlas.ofLog reader []).toFindings = .empty := part.empty
    simp [nothing]
  | cons f log ih =>
    rw [Atlas.ofLog, part.find?_replaceFile]
    cases fresh : (part.entries (reader.findings f)).find? name with
    | some new =>
      have here : part.definedIn reader name f = true := by
        simp [definedIn, Dictionary.contains, fresh]
      rw [List.find?_cons_of_pos here, Option.some_or]
      constructor
      · intro h
        cases h
        exact ⟨f, rfl, current_cons_self f log, fresh⟩
      · rintro ⟨g, same, -, hg⟩
        cases same
        rw [fresh] at hg
        exact hg
    | none =>
      have notHere : ¬ part.definedIn reader name f = true := by
        simp [definedIn, Dictionary.contains, fresh]
      rw [List.find?_cons_of_neg notHere, Option.none_or, Option.filter_eq_some_iff, ih]
      constructor
      · rintro ⟨⟨g, last, current, hg⟩, elsewhere⟩
        have hne : f.key ≠ g.key := by
          intro same
          simp [part.path_of_findings hg, same] at elsewhere
        exact ⟨g, last, current_cons_iff.mpr (.inr ⟨hne, current⟩), hg⟩
      · rintro ⟨g, last, current, hg⟩
        rcases current_cons_iff.mp current with rfl | ⟨hne, current⟩
        · rw [fresh] at hg
          cases hg
        · refine ⟨⟨g, last, current, hg⟩, ?_⟩
          simpa [part.path_of_findings hg] using hne.symm

/-- A name is known if the last version that has an entry of the name is still the last one under
its key. -/
theorem contains_ofLog_iff (log : Log) (name : String) :
    (part.entries (Atlas.ofLog reader log).toFindings).contains name = true ↔
      ∃ f, log.find? (part.definedIn reader name) = some f ∧ Current log f := by
  rw [Dictionary.contains, Option.isSome_iff_exists]
  constructor
  · rintro ⟨e, h⟩
    obtain ⟨f, last, current, -⟩ := (part.find?_ofLog log name e).mp h
    exact ⟨f, last, current⟩
  · rintro ⟨f, last, current⟩
    have has := List.find?_some last
    obtain ⟨e, he⟩ := Option.isSome_iff_exists.mp has
    exact ⟨e, (part.find?_ofLog log name e).mpr ⟨f, last, current, he⟩⟩

end Part

namespace Atlas

/-- The digest that is recorded under a key is that of the last version. -/
theorem digest?_ofLog (reader : FileReader) (log : Log) (key : String) :
    (ofLog reader log).digest? key = (latest? log key).map fun f ↦ Sha256.hex f.bytes := by
  induction log with
  | nil => rfl
  | cons f log ih =>
    rw [ofLog, digest?_replaceFile]
    by_cases h : f.key = key
    · subst h
      rw [if_pos rfl, current_cons_self f log]
      rfl
    · rw [if_neg (Ne.symm h), latest?_cons_of_ne log h, ih]

/-- Taking in a file adds its tables and drops those that belong to it. -/
theorem find?_tables_replaceFile (a : Atlas) (path : String) (fresh : Findings)
    (digest name : String) :
    (a.replaceFile path fresh digest).tables.find? name =
      (fresh.tables.find? name).or
        ((a.tables.find? name).filter fun t ↦ !a.tableBelongsTo path t) := by
  rw [replaceFile, Dictionary.find?_override, Dictionary.find?_filter]

/-- A new version adds its tables and drops those that belong to its key. -/
theorem find?_tables_ofLog_cons (reader : FileReader) (f : FileVersion) (log : Log)
    (name : String) :
    (ofLog reader (f :: log)).tables.find? name =
      ((reader.findings f).tables.find? name).or
        (((ofLog reader log).tables.find? name).filter fun t ↦
          !(ofLog reader log).tableBelongsTo f.key t) :=
  find?_tables_replaceFile (ofLog reader log) f.key _ _ name

end Atlas

end BuiltinAtlas
