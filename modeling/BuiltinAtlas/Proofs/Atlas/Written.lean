import BuiltinAtlas.Atlas.Format
import BuiltinAtlas.Proofs.Json.Printed
import BuiltinAtlas.Proofs.Json.Reads

/-!
# Atlases are read back

`Atlas.WrittenForm a` holds the ways to write an atlas: an object of five objects, any of which may
be left out if it is empty. Whatever is written in such a way is read as the atlas
(`Atlas.read_of_writtenForm`), and what is printed for an atlas is among it, so that it is read back
(`Atlas.read_write`).
-/

namespace BuiltinAtlas

open BuiltinAtlas.Json

/-- The components of a function. -/
def Excerpt.components : List (Component Excerpt) :=
  [⟨"source", String, Excerpt.source, TextForm, none⟩,
    ⟨"path", String, Excerpt.path, TextForm, none⟩]

/-- The components of a type. -/
def TypeEntry.components : List (Component TypeEntry) :=
  [⟨"source", String, fun e ↦ e.source, TextForm, none⟩,
    ⟨"path", String, fun e ↦ e.path, TextForm, none⟩,
    ⟨"references", List String, TypeEntry.references, ArrayForm TextForm, some []⟩]

/-- The components of a module. -/
def ModuleEntry.components : List (Component ModuleEntry) :=
  [⟨"source", String, fun e ↦ e.source, TextForm, none⟩,
    ⟨"path", String, fun e ↦ e.path, TextForm, none⟩,
    ⟨"method_maps", List String, ModuleEntry.tables, ArrayForm TextForm, some []⟩]

/-- The components of an atlas. -/
def Atlas.components : List (Component Atlas) :=
  [⟨"objects", Dictionary TypeEntry, fun a ↦ a.types,
      DictionaryForm (RecordForm TypeEntry.components), some .empty⟩,
    ⟨"modules", Dictionary ModuleEntry, fun a ↦ a.modules,
      DictionaryForm (RecordForm ModuleEntry.components), some .empty⟩,
    ⟨"method_names", Dictionary MethodTable, fun a ↦ a.tables,
      DictionaryForm (DictionaryForm TextForm), some .empty⟩,
    ⟨"methods", Dictionary Excerpt, fun a ↦ a.functions,
      DictionaryForm (RecordForm Excerpt.components), some .empty⟩,
    ⟨"hashes", Dictionary String, Atlas.digests, DictionaryForm TextForm, some .empty⟩]

/-- The ways to write an atlas. There may be white space around it. -/
def Atlas.WrittenForm (a : Atlas) : Form := Padded (RecordForm Atlas.components a)

/-! ### Reading -/

/-- A function is read. -/
theorem Excerpt.reads (e : Excerpt) : Reads Excerpt.reader (RecordForm components e) e := by
  refine Reads.record (by decide) (.cons ?_ (.cons ?_ .nil)) fun e' same ↦ ?_
  · exact .of (.text e.source) (fun _ _ ↦ rfl) (by simp [components]) (by simp)
  · exact .of (.text e.path) (fun _ _ ↦ rfl) (by simp [components]) (by simp)
  · cases e; cases e'
    simpa [components] using same

/-- A type is read. -/
theorem TypeEntry.reads (e : TypeEntry) : Reads TypeEntry.reader (RecordForm components e) e := by
  refine Reads.record (by decide) (.cons ?_ (.cons ?_ (.cons ?_ .nil))) fun e' same ↦ ?_
  · exact .of (.text e.source) (fun _ _ ↦ rfl) (by simp [components]) (by simp)
  · exact .of (.text e.path) (fun _ _ ↦ rfl) (by simp [components]) (by simp)
  · exact .of (.list fun s _ ↦ .text s) (fun _ _ ↦ rfl) (by simp [components]) (by simp)
  · rcases e with ⟨⟨_, _⟩, _⟩
    rcases e' with ⟨⟨_, _⟩, _⟩
    simpa [components, and_assoc] using same

/-- A module is read. -/
theorem ModuleEntry.reads (e : ModuleEntry) :
    Reads ModuleEntry.reader (RecordForm components e) e := by
  refine Reads.record (by decide) (.cons ?_ (.cons ?_ (.cons ?_ .nil))) fun e' same ↦ ?_
  · exact .of (.text e.source) (fun _ _ ↦ rfl) (by simp [components]) (by simp)
  · exact .of (.text e.path) (fun _ _ ↦ rfl) (by simp [components]) (by simp)
  · exact .of (.list fun s _ ↦ .text s) (fun _ _ ↦ rfl) (by simp [components]) (by simp)
  · rcases e with ⟨⟨_, _⟩, _⟩
    rcases e' with ⟨⟨_, _⟩, _⟩
    simpa [components, and_assoc] using same

namespace Atlas

/-- An atlas is read. -/
theorem reads (a : Atlas) : Reads Atlas.reader (RecordForm components a) a := by
  refine Reads.record (by decide) (.cons ?_ (.cons ?_ (.cons ?_ (.cons ?_ (.cons ?_ .nil)))))
    fun a' same ↦ ?_
  · exact .of (.dictionary TypeEntry.reads _) (fun _ _ ↦ rfl) (by simp [components])
      (by simp [empty])
  · exact .of (.dictionary ModuleEntry.reads _) (fun _ _ ↦ rfl) (by simp [components])
      (by simp [empty])
  · exact .of (.dictionary (.dictionary .text) _) (fun _ _ ↦ rfl) (by simp [components])
      (by simp [empty])
  · exact .of (.dictionary Excerpt.reads _) (fun _ _ ↦ rfl) (by simp [components])
      (by simp [empty])
  · exact .of (.dictionary .text _) (fun _ _ ↦ rfl) (by simp [components]) (by simp [empty])
  · rcases a with ⟨⟨_, _, _, _⟩, _⟩
    rcases a' with ⟨⟨_, _, _, _⟩, _⟩
    simpa [components, and_assoc] using same

/-- Whatever is written for an atlas is read as that atlas. -/
theorem read_of_writtenForm {a : Atlas} {text : String} (written : a.WrittenForm text.toList) :
    Atlas.read text = .ok a := a.reads.run written

end Atlas

/-! ### Printing -/

private theorem prints_texts (ts : List String) :
    Prints (textsDocument ts) (ArrayForm TextForm ts) :=
  .array fun s _ ↦ .text s

private theorem Excerpt.prints (e : Excerpt) : Prints e.document (RecordForm components e) :=
  .record (by decide) (.cons ⟨rfl, .text _⟩ (.cons ⟨rfl, .text _⟩ .nil))

private theorem TypeEntry.prints (e : TypeEntry) : Prints e.document (RecordForm components e) :=
  .record (by decide)
    (.cons ⟨rfl, .text _⟩ (.cons ⟨rfl, .text _⟩ (.cons ⟨rfl, prints_texts _⟩ .nil)))

private theorem ModuleEntry.prints (e : ModuleEntry) :
    Prints e.document (RecordForm components e) :=
  .record (by decide)
    (.cons ⟨rfl, .text _⟩ (.cons ⟨rfl, .text _⟩ (.cons ⟨rfl, prints_texts _⟩ .nil)))

namespace Atlas

private theorem prints (a : Atlas) : Prints a.document (RecordForm components a) := by
  refine .record (by decide) (.cons ⟨rfl, ?_⟩ (.cons ⟨rfl, ?_⟩ (.cons ⟨rfl, ?_⟩
    (.cons ⟨rfl, ?_⟩ (.cons ⟨rfl, ?_⟩ .nil)))))
  · exact .dictionary TypeEntry.prints a.types
  · exact .dictionary ModuleEntry.prints a.modules
  · exact .dictionary (fun t ↦ .dictionary .text t) a.tables
  · exact .dictionary Excerpt.prints a.functions
  · exact .dictionary .text a.digests

private theorem writtenForm_write (a : Atlas) : a.WrittenForm a.write.toList := by
  refine ⟨[], a.document.print 0, [], blank_nil, a.prints 0, blank_nil, ?_⟩
  simp [write, Document.pretty]

/-- The text of an atlas is read as that atlas. -/
theorem read_write (a : Atlas) : Atlas.read a.write = .ok a :=
  read_of_writtenForm a.writtenForm_write

end Atlas

end BuiltinAtlas
