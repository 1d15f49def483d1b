import BuiltinAtlas.Proofs.Index.History

/-!
# Where the entries of an index are from

Whatever happened to an index, each of its entries is what the last indexed version of the file
contributes that it records, and the digest of that version is recorded too
(`Annals.sourced_storedAtlas`). The limit of faults may change from run to run: what a file
contributes does not depend on the limit once that lets it pass, so that `patientReader`, which has
no limit, reads whatever was read.
-/

namespace BuiltinAtlas

open Log

/-- Lower a syntax tree, whatever its faults are. -/
def lowered (path : String) (source : ByteArray) (root : Option Syntax.Node) :
    Except ReadFailure Construct :=
  match root with
  | none => .error .noTree
  | some root => .ok (.ofSyntax path source root)

/-- Read files as C, whatever their faults are. -/
def patientReader : FileReader := fun f ↦
  let source := Source.expandHeadMacros f.bytes
  lowered f.path source (Syntax.parse? source)

private theorem lowered_of_judge {limit : Nat} {path : String} {source : ByteArray}
    {root : Option Syntax.Node} {c : Construct} (h : judge limit path source root = .ok c) :
    lowered path source root = .ok c := by
  cases root with
  | none => cases h
  | some root =>
    rw [judge] at h
    split at h
    · cases h
    · exact h

private theorem tolerantReader_within (limit : Nat) :
    (tolerantReader limit).Within patientReader := by
  intro f c h
  have accepted : judge limit f.path (Source.expandHeadMacros f.bytes)
      (Syntax.parse? (Source.expandHeadMacros f.bytes)) = .ok c := h
  -- Stated on its own, so that the parser is not unfolded.
  have read := lowered_of_judge accepted
  exact read

/-- Every entry is what the last version of the file contributes that it records. One of the readers
could read that version, and its digest is recorded. -/
def Part.Sourced {β ι : Type} (part : Part β) (reader : ι → FileReader) (log : Log) (a : Atlas) :
    Prop :=
  ∀ name e, (part.entries a.toFindings).find? name = some e →
    ∃ f i c, latest? log (part.path e) = some f ∧
      a.digest? (part.path e) = some (Sha256.hex f.bytes) ∧ reader i f.source = .ok c ∧
      (part.entries (c.survey f.source)).find? name = some e

namespace Annals

variable {index : RawText} {w : World} {log : Log}

private theorem sourced_ofLog {ι β : Type} {reader : ι → FileReader} {whole : FileReader}
    (within : ∀ i, (reader i).Within whole) (h : Annals reader index w log) (part : Part β) :
    part.Sourced reader log (.ofLog whole log) := by
  intro name e found
  obtain ⟨f, -, current, contributed⟩ := (part.find?_ofLog log name e).mp found
  have here : part.path e = f.key := part.path_of_findings contributed
  obtain ⟨i, c, readable⟩ := h.exists_reader_eq_ok current.mem
  have recorded : (Atlas.ofLog whole log).digest? f.key = some (Sha256.hex f.bytes) := by
    rw [Atlas.digest?_ofLog, current]
    rfl
  rw [FileReader.findings_of_eq_ok (within i f.source c readable)] at contributed
  rw [here]
  exact ⟨f, i, c, current, recorded, readable, contributed⟩

/-- Whatever was indexed, with whatever limits of faults, all types, modules and functions in the
index are what the last indexed versions of their files contribute. -/
theorem sourced_storedAtlas (h : Annals tolerantReader index w log) :
    ∃ a, w.files.storedAtlas index = .ok a ∧ Part.types.Sourced tolerantReader log a ∧
      Part.modules.Sourced tolerantReader log a ∧ Part.functions.Sourced tolerantReader log a :=
  ⟨.ofLog patientReader log, h.storedAtlas tolerantReader_within,
    h.sourced_ofLog tolerantReader_within .types, h.sourced_ofLog tolerantReader_within .modules,
    h.sourced_ofLog tolerantReader_within .functions⟩

end Annals

/-! A source is indexed; then it gets a fault and another function, and is indexed again under a
higher limit. -/

namespace Tolerance

open Sample

/-- The source at first. -/
def before : FileVersion := ⟨"/a.c", "int f() \x7b\x7d\n".toUTF8⟩

/-- The source later, with a brace too many. -/
def after : FileVersion := ⟨"/a.c", "int f() \x7b\x7d \x7d\nint g() \x7b\x7d\n".toUTF8⟩

/-- The file system with a version of the source. -/
def files (f : FileVersion) : FileSystem :=
  FileSystem.empty.putFile firstPlace f.bytes

/-- The index file is stored beside the source, whatever that is. -/
theorem storedAtlas_withIndex (f g : FileVersion) (content : ByteArray) :
    (withIndex (files f) content).storedAtlas "/i.json" =
      (withIndex (files g) content).storedAtlas "/i.json" := by
  have found (h : FileVersion) :
      (withIndex (files h) content).find "/i.json" = .ok (indexPlace, .file content) := rfl
  exact FileSystem.storedAtlas_of_find_eq (found f) (found g)

/-- All of that can happen, and all entries are from the last indexed version then. -/
theorem sourced_after : ∃ w content log,
    Annals tolerantReader "/i.json" w log ∧ w.files.read "/a.c" = .ok after.bytes ∧
    log = (withIndex (files after) content).logAfter (tolerantReader 1) "/"
      ((files before).logAfter (tolerantReader 0) "/" []) ∧
    ∃ a, w.files.storedAtlas "/i.json" = .ok a ∧ Part.types.Sourced tolerantReader log a ∧
      Part.modules.Sourced tolerantReader log a ∧ Part.functions.Sourced tolerantReader log a := by
  have start : Annals tolerantReader "/i.json" ⟨files before, []⟩ [] := .start rfl
  have atFirst : (files before).canonicalPath "/" = .ok "/" := rfl
  have nothing : (files before).locate "/i.json" true = .ok indexPlace := rfl
  obtain ⟨content, w₁, -, held, once⟩ :=
    start.exists_run tolerantReader_within 0 atFirst nothing (by decide) (.inl rfl)
  have edited : Annals tolerantReader "/i.json" ⟨withIndex (files after) content, []⟩
      ((files before).logAfter (tolerantReader 0) "/" []) := by
    apply once.edit
    rw [held]
    exact storedAtlas_withIndex after before content
  have canonical : (withIndex (files after) content).canonicalPath "/" = .ok "/" := rfl
  have located : (withIndex (files after) content).locate "/i.json" true = .ok indexPlace := rfl
  obtain ⟨content', w₂, -, held', twice⟩ :=
    edited.exists_run tolerantReader_within 1 canonical located (by decide) (.inr ⟨_, rfl⟩)
  refine ⟨w₂, content, _, twice, ?_, rfl, twice.sourced_storedAtlas⟩
  rw [held']
  rfl

end Tolerance

end BuiltinAtlas
