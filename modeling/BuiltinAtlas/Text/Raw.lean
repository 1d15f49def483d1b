import BuiltinAtlas.Text.Utf8

/-!
# Raw text

Names and paths are bytes: nothing makes sure that they can be read. `RawText.ofText` is how a text
is written, and `RawText.text` how any bytes are read. Different bytes may be read alike.
-/

namespace BuiltinAtlas

/-- Bytes that may or may not be UTF-8. -/
structure RawText where
  ofList ::
  toList : List UInt8
  deriving DecidableEq

namespace RawText

/-- The bytes of a text. -/
def ofText (s : String) : RawText := ⟨s.toUTF8.data.toList⟩

/-- The text of some bytes, where what is no character becomes a replacement character. -/
def text (r : RawText) : String := String.ofList (Text.decodeUtf8From none r.toList)

/-- A text stands for its bytes. -/
instance : Coe String RawText := ⟨ofText⟩

/-- Some bytes followed by others. -/
instance : Append RawText := ⟨fun a b ↦ ⟨a.toList ++ b.toList⟩⟩

/-- Bytes are ordered one by one. -/
instance : LT RawText := ⟨fun a b ↦ a.toList < b.toList⟩

/-- The order can be decided. -/
instance : DecidableLT RawText := fun a b ↦ inferInstanceAs (Decidable (a.toList < b.toList))

/-- Whether there are no bytes. -/
def isEmpty (r : RawText) : Bool := r.toList.isEmpty

/-- The number of bytes. -/
def size (r : RawText) : Nat := r.toList.length

/-- The byte between names. -/
abbrev slash : UInt8 := 47

/-- The byte of a dot. -/
abbrev dot : UInt8 := 46

@[simp] theorem toList_ofList (bytes : List UInt8) : (ofList bytes).toList = bytes := rfl

@[simp] theorem ofList_toList (r : RawText) : ofList r.toList = r := rfl

@[simp] theorem ofList_comp_toList : ofList ∘ toList = id := rfl

@[ext] theorem ext {a b : RawText} (h : a.toList = b.toList) : a = b := by
  cases a
  cases b
  congr

theorem toList_inj {a b : RawText} : a.toList = b.toList ↔ a = b := ⟨ext, congrArg toList⟩

@[simp] theorem toList_append (a b : RawText) : (a ++ b).toList = a.toList ++ b.toList := rfl

@[simp] theorem empty_append (r : RawText) : ofText "" ++ r = r := rfl

@[simp] theorem toList_empty : (ofText "").toList = [] := rfl

@[simp] theorem toList_slash : (ofText "/").toList = [slash] := rfl

@[simp] theorem toList_dot : (ofText ".").toList = [dot] := rfl

@[simp] theorem toList_dots : (ofText "..").toList = [dot, dot] := rfl

@[simp] theorem toList_eq_nil_iff {r : RawText} : r.toList = [] ↔ r = "" :=
  ⟨fun h ↦ ext h, fun h ↦ h ▸ rfl⟩

@[simp] theorem isEmpty_iff {r : RawText} : r.isEmpty = true ↔ r = "" := by
  rw [isEmpty, List.isEmpty_iff, toList_eq_nil_iff]

theorem lt_iff {a b : RawText} : a < b ↔ a.toList < b.toList := Iff.rfl

instance : Std.Irrefl (α := RawText) (· < ·) := ⟨fun a ↦ List.lt_irrefl a.toList⟩

instance : Trans (α := RawText) (· < ·) (· < ·) (· < ·) := ⟨fun h h' ↦ List.lt_trans h h'⟩

instance : Std.Trichotomous (α := RawText) (· < ·) :=
  ⟨fun _ _ notLess notGreater ↦
    ext (List.le_antisymm (List.not_lt.mp notGreater) (List.not_lt.mp notLess))⟩

end RawText

end BuiltinAtlas
