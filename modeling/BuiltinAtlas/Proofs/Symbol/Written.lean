import BuiltinAtlas.Proofs.Json.Printed
import BuiltinAtlas.Proofs.Json.Reads
import BuiltinAtlas.Symbol.Snapshot

/-!
# Written snapshots

`Snapshot.WrittenForm s` holds the ways to write a snapshot, any part of which may be left out if it
says nothing. Whatever is written in such a way is read as the snapshot.
-/

namespace BuiltinAtlas

open BuiltinAtlas.Json

/-- A record with a single text. -/
def NamedForm (key name : String) : Form :=
  RecordForm [⟨key, String, id, TextForm, none⟩] name

/-- The ways to write a receiver. -/
def Receiver.WrittenForm : Receiver → Form
  | .type name => ObjectForm (NamedForm "name") [("type", name)]
  | .object className => ObjectForm (NamedForm "class_name") [("instance", className)]

/-- The components of a class. -/
def ClassInfo.components : List (Component ClassInfo) :=
  [⟨"name", String, ClassInfo.name, TextForm, none⟩,
    ⟨"module", Option String, ClassInfo.moduleName, OptionForm TextForm, some none⟩]

/-- The components of a snapshot. -/
def Snapshot.components : List (Component Snapshot) :=
  [⟨"name", Option String, Snapshot.name, OptionForm TextForm, some none⟩,
    ⟨"module", Option String, Snapshot.moduleName, OptionForm TextForm, some none⟩,
    ⟨"builtin", Bool, Snapshot.isBuiltin, BoolForm, some false⟩,
    ⟨"method_descriptor", Bool, Snapshot.isDescriptor, BoolForm, some false⟩,
    ⟨"module_object", Bool, Snapshot.isModule, BoolForm, some false⟩,
    ⟨"type_object", Bool, Snapshot.isType, BoolForm, some false⟩,
    ⟨"receiver", Option Receiver, Snapshot.receiver, OptionForm Receiver.WrittenForm, some none⟩,
    ⟨"owner", Option String, Snapshot.owner, OptionForm TextForm, some none⟩,
    ⟨"class", Option ClassInfo, Snapshot.classInfo, OptionForm (RecordForm ClassInfo.components),
      some none⟩,
    ⟨"source", Option String, Snapshot.source, OptionForm TextForm, some none⟩,
    ⟨"file", Option String, Snapshot.file, OptionForm TextForm, some none⟩]

/-- The ways to write a snapshot. There may be white space around it. -/
def Snapshot.WrittenForm (s : Snapshot) : Form := Padded (RecordForm Snapshot.components s)

/-! ### Reading -/

private theorem reads_named (key name : String) :
    Reads (record [.of key text (fun v _ ↦ v) false] "") (NamedForm key name) name := by
  refine Reads.record (by simp) (.cons ?_ .nil) fun name' same ↦ ?_
  · exact .of (.text name) (fun _ _ ↦ rfl) (by simp) (by simp)
  · simpa using same

private theorem reads_optionalText (value : Option String) :
    Reads (option text) (OptionForm TextForm value) value :=
  .option (fun _ no ↦ by cases no) (fun _ _ no ↦ by cases no) .text value

/-- A receiver is read. -/
theorem Receiver.reads (r : Receiver) : Reads Receiver.reader r.WrittenForm r := by
  cases r with
  | type name =>
    exact Reads.choice rfl ((reads_named "name" name).imp fun t read ↦ by rw [read]; rfl)
  | object className =>
    exact Reads.choice rfl ((reads_named "class_name" className).imp fun t read ↦ by rw [read]; rfl)

/-- A class is read. -/
theorem ClassInfo.reads (c : ClassInfo) : Reads ClassInfo.reader (RecordForm components c) c := by
  refine Reads.record (by decide) (.cons ?_ (.cons ?_ .nil)) fun c' same ↦ ?_
  · exact .of (.text c.name) (fun _ _ ↦ rfl) (by simp [components]) (by simp)
  · exact .of (reads_optionalText c.moduleName) (fun _ _ ↦ rfl) (by simp [components]) (by simp)
  · cases c; cases c'
    simpa [components] using same

/-- A snapshot is read. -/
theorem Snapshot.reads (s : Snapshot) : Reads Snapshot.reader (RecordForm components s) s := by
  refine Reads.record (by decide) (.cons ?_ (.cons ?_ (.cons ?_ (.cons ?_ (.cons ?_ (.cons ?_
    (.cons ?_ (.cons ?_ (.cons ?_ (.cons ?_ (.cons ?_ .nil))))))))))) fun s' same ↦ ?_
  · exact .of (reads_optionalText s.name) (fun _ _ ↦ rfl) (by simp [components]) (by simp)
  · exact .of (reads_optionalText s.moduleName) (fun _ _ ↦ rfl) (by simp [components]) (by simp)
  · exact .of (.bool s.isBuiltin) (fun _ _ ↦ rfl) (by simp [components]) (by simp)
  · exact .of (.bool s.isDescriptor) (fun _ _ ↦ rfl) (by simp [components]) (by simp)
  · exact .of (.bool s.isModule) (fun _ _ ↦ rfl) (by simp [components]) (by simp)
  · exact .of (.bool s.isType) (fun _ _ ↦ rfl) (by simp [components]) (by simp)
  · exact .of (.option (fun _ no ↦ by cases no) (fun _ _ no ↦ by cases no) Receiver.reads
      s.receiver) (fun _ _ ↦ rfl) (by simp [components]) (by simp)
  · exact .of (reads_optionalText s.owner) (fun _ _ ↦ rfl) (by simp [components]) (by simp)
  · exact .of (.option (fun _ no ↦ by cases no) (fun _ _ no ↦ by cases no) ClassInfo.reads
      s.classInfo) (fun _ _ ↦ rfl) (by simp [components]) (by simp)
  · exact .of (reads_optionalText s.source) (fun _ _ ↦ rfl) (by simp [components]) (by simp)
  · exact .of (reads_optionalText s.file) (fun _ _ ↦ rfl) (by simp [components]) (by simp)
  · cases s; cases s'
    simpa [components] using same

/-- Whatever is written for a snapshot is read as that snapshot. -/
theorem Snapshot.read_of_writtenForm {s : Snapshot} {text : String}
    (written : s.WrittenForm text.toList) : Snapshot.read text = .ok s := s.reads.run written

/-! ### Writing -/

private theorem exists_optionForm {α : Type} {form : α → Form} (h : ∀ a, ∃ cs, form a cs)
    (value : Option α) : ∃ cs, OptionForm form value cs := by
  cases value with
  | none => exact ⟨_, rfl⟩
  | some a => exact h a

private theorem exists_textForm (s : String) : ∃ cs, TextForm s cs := ⟨quote s, textForm_quote s⟩

private theorem exists_boolForm (b : Bool) : ∃ cs, BoolForm b cs := by
  cases b <;> exact ⟨_, rfl⟩

/-- A receiver can be written. -/
theorem Receiver.exists_writtenForm (r : Receiver) : ∃ cs, r.WrittenForm cs := by
  have named (key name : String) : ∃ cs, NamedForm key name cs :=
    exists_recordForm (by simp) (by simpa using exists_textForm name)
  cases r with
  | type name =>
    obtain ⟨cs, written⟩ := named "name" name
    exact ⟨_, .of_texts (.cons ⟨rfl, written⟩ .nil)
      (objectForm_inBraces blank_nil blank_nil [("type", cs)])⟩
  | object className =>
    obtain ⟨cs, written⟩ := named "class_name" className
    exact ⟨_, .of_texts (.cons ⟨rfl, written⟩ .nil)
      (objectForm_inBraces blank_nil blank_nil [("instance", cs)])⟩

/-- A class can be written. -/
theorem ClassInfo.exists_recordForm (c : ClassInfo) : ∃ cs, RecordForm components c cs :=
  Json.exists_recordForm (by decide)
    (by simp [components, exists_textForm, exists_optionForm])

/-- A snapshot can be written. -/
theorem Snapshot.exists_writtenForm (s : Snapshot) :
    ∃ text : String, s.WrittenForm text.toList := by
  have written : ∃ cs, RecordForm components s cs := exists_recordForm (by decide)
    (by simp [components, exists_textForm, exists_optionForm, exists_boolForm,
      Receiver.exists_writtenForm, ClassInfo.exists_recordForm])
  obtain ⟨cs, written⟩ := written
  exact ⟨.ofList cs, [], cs, [], blank_nil, written, blank_nil, by simp⟩

end BuiltinAtlas
