import BuiltinAtlas.Proofs.Index.History

/-!
# Loading what others have written

An index file need not have been saved here. Whatever is written for an atlas is loaded as that
atlas: the parts of an object may stand in any order and have others between them, white space may
stand between all of them, any character may be escaped, and what is empty may be left out.
-/

namespace BuiltinAtlas

private theorem FileSystem.isFile_of_readText {fs : FileSystem} {path : RawText} {text : String}
    (h : fs.readText path = .ok text) : fs.isFile path = true := by
  cases read : fs.read path with
  | error e =>
    rw [readText, read] at h
    cases h
  | ok content =>
    obtain ⟨place, found⟩ := read_eq_ok_iff.mp read
    exact isFile_iff.mpr ⟨place, content, found⟩

/-- An index file with any text that is written for an atlas is loaded as that atlas. -/
theorem loadAtlas_of_writtenForm {path : RawText} {text : String} {a : Atlas} {w : World}
    (there : w.files.readText path = .ok text) (written : a.WrittenForm text.toList) :
    (loadAtlas path).runOn w = (.ok a, w) ∧ (loadExistingAtlas path).runOn w = (.ok a, w) := by
  have file := FileSystem.isFile_of_readText there
  have stored : w.files.readAtlas path = .ok a :=
    FileSystem.readAtlas_eq_ok_iff.mpr ⟨text, there, Atlas.read_of_writtenForm written⟩
  rw [loadAtlas_runOn, loadExistingAtlas_runOn, FileSystem.storedAtlas, if_pos file, if_pos file,
    stored]
  exact ⟨rfl, rfl⟩

/-! An index file with a type and the digests of a file, of which the last one counts. -/

namespace Handwritten

open BuiltinAtlas.Json
open Sample (withIndex)

/-- A type without references. -/
def entry : TypeEntry := ⟨⟨"s", "a.c"⟩, []⟩

/-- The atlas with that type. -/
def atlas : Atlas where
  types := .ofList [("T", entry)]
  digests := .ofList [("a.c", "new")]

/-- The text of the type: its path, something that means nothing, and its source, which is escaped.
-/
def entryText : List Char :=
  inBraces [' '] [] [("path", quote "a.c"), ("line", ['-', '1', '.', '5', 'e', '3']),
    ("source", ['"', '\\', 'u', '0', '0', '7', '3', '"'])]

/-- The text of the digests. -/
def digestsText : List Char := inBraces [] [' '] [("a.c", quote "old"), ("a.c", quote "new")]

/-- The parts of the text of the atlas. Empty dictionaries are left out. -/
def members : List (String × List Char) :=
  [("hashes", digestsText), ("", "null".toList), ("objects", inBraces [] [] [("T", entryText)])]

/-- The text of the atlas. -/
def text : String := .ofList (inBraces ['\n'] ['\n'] members ++ ['\t'])

private theorem recordForm_entryText : RecordForm TypeEntry.components entry entryText := by
  have number : NumberForm ['-', '1', '.', '5', 'e', '3'] :=
    ⟨['-'], ['1'], ['.', '5'], ['e', '3'], by decide,
      by simp [IntegerForm, DigitsForm, decimalDigits],
      .inr ⟨['5'], by simp [DigitsForm, decimalDigits], rfl⟩,
      .inr ⟨'e', [], ['3'], by decide, by decide, by simp [DigitsForm, decimalDigits], rfl⟩, rfl⟩
  have code : UnitForm 's'.toNat ['\\', 'u', '0', '0', '7', '3'] :=
    UnitForm.digits (a := ('0', 0)) (b := ('0', 0)) (c := ('7', 7)) (d := ('3', 3)) (by decide)
      (by decide) (by decide) (by decide)
  have source : TextForm "s" ['"', '\\', 'u', '0', '0', '7', '3', '"'] :=
    ⟨[_], .cons (.unit code) .nil, rfl⟩
  refine ⟨_, objectForm_inBraces (by decide) (by decide) _, ?_, ?_⟩
  · simp [TypeEntry.components, entry, textForm_quote, source, ValueForm.number number]
  · simp [TypeEntry.components, entry]

/-- The text is written for the atlas. -/
theorem writtenForm_text : atlas.WrittenForm text.toList := by
  have types : DictionaryForm (RecordForm TypeEntry.components) atlas.types
      (inBraces [] [] [("T", entryText)]) :=
    ⟨[("T", entry)], Dictionary.find?_ofList _,
      .of_texts (.cons ⟨rfl, recordForm_entryText⟩ .nil)
        (objectForm_inBraces blank_nil blank_nil _)⟩
  have overridden : atlas.digests = .ofList [("a.c", "old"), ("a.c", "new")] := by decide
  have digests : DictionaryForm TextForm atlas.digests digestsText := by
    rw [overridden]
    exact ⟨_, Dictionary.find?_ofList _,
      .of_texts (.cons ⟨rfl, textForm_quote _⟩ (.cons ⟨rfl, textForm_quote _⟩ .nil))
        (objectForm_inBraces (by decide) (by decide) _)⟩
  have ignored : ValueForm ['n', 'u', 'l', 'l'] := .null
  refine ⟨[], _, ['\t'], blank_nil,
    ⟨members, objectForm_inBraces (by decide) (by decide) _, ?_, ?_⟩, by decide,
    String.toList_ofList⟩
  · simp [members, Atlas.components, types, digests, ignored]
  · simp [members, Atlas.components, atlas]

/-- A file system with that text as the index file. -/
def files : FileSystem := withIndex .empty text.toUTF8

/-- The atlas is loaded from the file. -/
theorem loadAtlas_of_writtenForm_text :
    files.readText "/i.json" = .ok text ∧ atlas.WrittenForm text.toList ∧
      (loadAtlas "/i.json").runOn ⟨files, []⟩ = (.ok atlas, ⟨files, []⟩) ∧
      (loadExistingAtlas "/i.json").runOn ⟨files, []⟩ = (.ok atlas, ⟨files, []⟩) := by
  have there : files.readText "/i.json" = .ok text := by decide +kernel
  exact ⟨there, writtenForm_text, loadAtlas_of_writtenForm there writtenForm_text⟩

end Handwritten

end BuiltinAtlas
