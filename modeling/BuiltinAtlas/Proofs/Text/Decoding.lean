import BuiltinAtlas.Proofs.Text.Utf8
import BuiltinAtlas.Source.File

/-!
# Decoding loses nothing

`decode_lossless`: from the text of some bytes the bytes can be told, in UTF-8 if they are UTF-8,
and in ISO-8859-15 if not. Replacement characters are never needed, since every byte is a character
of ISO-8859-15. A stretch of a file in UTF-8 from one character to another is that part of its text.
-/

namespace BuiltinAtlas.Text

/-! ### ISO-8859-15 -/

/-- The bytes with other characters than in ISO-8859-1, and these characters. -/
def replacements : List (UInt8 × Char) :=
  [(0xA4, '€'), (0xA6, 'Š'), (0xA8, 'š'), (0xB4, 'Ž'), (0xB8, 'ž'), (0xBC, 'Œ'), (0xBD, 'œ'),
    (0xBE, 'Ÿ')]

/-- The byte of a character in ISO-8859-15, if it has one. The characters that ISO-8859-1 has for
replaced bytes have none. -/
def latin9Byte? (c : Char) : Option UInt8 :=
  match replacements.find? (·.2 = c) with
  | some (b, _) => some b
  | none =>
    if c.toNat < 256 ∧ UInt8.ofNat c.toNat ∉ replacements.map Prod.fst then
      some (UInt8.ofNat c.toNat)
    else none

private theorem latin9?_of_mem : ∀ p ∈ replacements, latin9? p.1 = some p.2 := by decide

private theorem latin9Byte?_of_mem : ∀ p ∈ replacements, latin9Byte? p.2 = some p.1 := by decide

private theorem le_toNat_of_mem : ∀ p ∈ replacements, 256 ≤ p.2.toNat := by decide

private theorem latin9?_of_not_mem {b : UInt8} (h : b ∉ replacements.map Prod.fst) :
    ∃ c, latin9? b = some c ∧ c.toNat = b.toNat := by
  have valid : b.toNat.isValidChar := .inl (by have := b.toNat_lt; omega)
  simp only [replacements, List.map_cons, List.map_nil, List.mem_cons, List.not_mem_nil, or_false,
    not_or] at h
  refine ⟨Char.ofNatAux b.toNat valid, ?_, rfl⟩
  rw [latin9?, if_neg, if_neg, if_neg, if_neg, if_neg, if_neg, if_neg, if_neg, dif_pos valid] <;>
    simp [h]

private theorem exists_latin9? (b : UInt8) : ∃ c, latin9? b = some c ∧ latin9Byte? c = some b := by
  by_cases h : b ∈ replacements.map Prod.fst
  · obtain ⟨p, mem, rfl⟩ := List.mem_map.mp h
    exact ⟨p.2, latin9?_of_mem p mem, latin9Byte?_of_mem p mem⟩
  · obtain ⟨c, character, number⟩ := latin9?_of_not_mem h
    have small : c.toNat < 256 := by
      rw [number]
      exact b.toNat_lt
    have notNew : replacements.find? (·.2 = c) = none := by
      rw [List.find?_eq_none]
      intro p mem same
      have large := le_toNat_of_mem p mem
      rw [decide_eq_true_eq] at same
      rw [same] at large
      omega
    have byte : UInt8.ofNat c.toNat = b := by rw [number, UInt8.ofNat_toNat]
    refine ⟨c, character, ?_⟩
    rw [latin9Byte?, notNew]
    simp only [byte]
    exact if_pos ⟨small, h⟩

private theorem latin9?_eq_some_iff {b : UInt8} {c : Char} :
    latin9? b = some c ↔ latin9Byte? c = some b := by
  constructor
  · intro character
    obtain ⟨c', character', byte⟩ := exists_latin9? b
    cases character.symm.trans character'
    exact byte
  · intro byte
    rw [latin9Byte?] at byte
    split at byte
    · next found =>
      cases byte
      have mem := List.mem_of_find?_eq_some found
      have same := List.find?_some found
      rw [decide_eq_true_eq] at same
      rw [← same]
      exact latin9?_of_mem _ mem
    · split at byte
      · next plain =>
        cases byte
        obtain ⟨c', character, number⟩ := latin9?_of_not_mem plain.2
        rw [UInt8.toNat_ofNat', Nat.mod_eq_of_lt plain.1, Char.toNat_inj] at number
        rw [character, number]
      · cases byte

private theorem mapM_latin9?_eq_some_iff {bs : List UInt8} {cs : List Char} :
    bs.mapM latin9? = some cs ↔ cs.mapM latin9Byte? = some bs := by
  induction bs generalizing cs with
  | nil => cases cs <;> simp [Option.bind_eq_some_iff]
  | cons b bs ih =>
    cases cs with
    | nil => simp [Option.bind_eq_some_iff]
    | cons c cs => simp [Option.bind_eq_some_iff, latin9?_eq_some_iff, ih]

private theorem exists_mapM_latin9? (bs : List UInt8) :
    ∃ cs, bs.mapM latin9? = some cs ∧ cs.length = bs.length := by
  induction bs with
  | nil => exact ⟨[], rfl, rfl⟩
  | cons b bs ih =>
    obtain ⟨c, character, -⟩ := exists_latin9? b
    obtain ⟨cs, characters, length⟩ := ih
    exact ⟨c :: cs, by simp [character, characters], by simp [length]⟩

/-! ### Texts -/

private theorem decode_toByteArray (s : String) : decode s.toByteArray = s := by
  rw [decode, String.fromUTF8?, dif_pos s.isValidUTF8]
  rfl

private theorem toUTF8_decode {b : ByteArray} (h : IsUtf8 b.toList) : (decode b).toUTF8 = b := by
  rw [decode, String.fromUTF8?, dif_pos (isValidUTF8_iff.mpr h)]
  rfl

private theorem mapM_latin9?_toList {b : ByteArray} (h : ¬ IsUtf8 b.toList) :
    b.toList.mapM latin9? = some (decode b).toList := by
  obtain ⟨cs, characters, -⟩ := exists_mapM_latin9? b.toList
  rw [decode, String.fromUTF8?, dif_neg fun valid ↦ h (isValidUTF8_iff.mp valid), characters]
  simp

end BuiltinAtlas.Text

namespace BuiltinAtlas

open Text

private theorem Text.exists_append_of_le {s t s' t' : String} (same : s ++ t = s' ++ t')
    (h : s.utf8ByteSize ≤ s'.utf8ByteSize) : ∃ between, s' = s ++ between ∧ t = between ++ t' := by
  have chars : s.toList ++ t.toList = s'.toList ++ t'.toList := by
    rw [← String.toList_append, same, String.toList_append]
  rcases List.append_eq_append_iff.mp chars with ⟨between, long, rest⟩ | ⟨between, long, rest⟩
  · refine ⟨String.ofList between, String.toList_inj.mp ?_, String.toList_inj.mp ?_⟩
    · simp [long]
    · simp [rest]
  · have size : s = s' ++ String.ofList between := String.toList_inj.mp (by simp [long])
    have none : between = [] := by
      rw [size, String.utf8ByteSize_append] at h
      have empty : (String.ofList between).utf8ByteSize = 0 := by omega
      simpa using empty
    subst none
    refine ⟨"", ?_, ?_⟩
    · simp [size]
    · exact String.toList_inj.mp (by simp [rest])

private theorem SourceFile.span_of_isValid (f : SourceFile) {start stop : Nat}
    (utf8 : IsUtf8 f.bytes.toList) (first : String.Pos.Raw.IsValid f.text ⟨start⟩)
    (last : String.Pos.Raw.IsValid f.text ⟨stop⟩) (ordered : start ≤ stop) :
    ∃ before after, f.text = before ++ f.span start stop ++ after ∧ before.utf8ByteSize = start ∧
      (before ++ f.span start stop).utf8ByteSize = stop := by
  obtain ⟨before, rest, cut, begins⟩ := String.Pos.Raw.isValid_iff_exists_append.mp first
  obtain ⟨upTo, after, cut', ends⟩ := String.Pos.Raw.isValid_iff_exists_append.mp last
  obtain rfl : start = before.utf8ByteSize := congrArg String.Pos.Raw.byteIdx begins
  obtain rfl : stop = upTo.utf8ByteSize := congrArg String.Pos.Raw.byteIdx ends
  obtain ⟨piece, rfl, rfl⟩ := exists_append_of_le (cut.symm.trans cut') ordered
  have bytes : f.bytes = before.toByteArray ++ piece.toByteArray ++ after.toByteArray := by
    rw [← toUTF8_decode utf8]
    change f.text.toByteArray = _
    rw [cut', String.toByteArray_append, String.toByteArray_append]
  have span : f.span before.utf8ByteSize (before ++ piece).utf8ByteSize = piece := by
    have within : (before ++ piece).utf8ByteSize ≤ f.bytes.size := by
      rw [bytes, ByteArray.size_append, ByteArray.size_append, String.utf8ByteSize_append]
      exact Nat.le_add_right _ _
    have cutOut : f.bytes.extract before.utf8ByteSize (before ++ piece).utf8ByteSize =
        piece.toByteArray := by
      rw [bytes, ByteArray.append_assoc, String.utf8ByteSize_append]
      exact (ByteArray.extract_append_size_add (i := 0)).trans
        (ByteArray.extract_append_eq_left rfl)
    rw [SourceFile.span, Nat.min_eq_left within, Nat.min_eq_left ordered, cutOut,
      decode_toByteArray]
  rw [span]
  exact ⟨before, after, cut', rfl, rfl⟩

/-- Bytes in UTF-8 are those of their text. Other bytes are characters of ISO-8859-15 one by one, of
which they are the bytes, so that no two of them have the same text. A stretch of a file is decoded
on its own, and is part of the text if it goes from one character in UTF-8 to another. -/
theorem decode_lossless :
    (∀ b : ByteArray,
      (IsUtf8 b.toList → (decode b).toUTF8 = b) ∧
      (¬ IsUtf8 b.toList →
        (decode b).length = b.size ∧
        b.toList.mapM latin9? = some (decode b).toList ∧
        (decode b).toList.mapM latin9Byte? = some b.toList ∧
        ∀ b' : ByteArray, ¬ IsUtf8 b'.toList → decode b' = decode b → b' = b)) ∧
    ∀ (f : SourceFile) (start stop : Nat),
      f.span start stop =
        decode (f.bytes.extract (min (min start stop) f.bytes.size) (min stop f.bytes.size)) ∧
      (IsUtf8 f.bytes.toList → String.Pos.Raw.IsValid f.text ⟨start⟩ →
        String.Pos.Raw.IsValid f.text ⟨stop⟩ → start ≤ stop →
        ∃ before after, f.text = before ++ f.span start stop ++ after ∧
          before.utf8ByteSize = start ∧ (before ++ f.span start stop).utf8ByteSize = stop) := by
  refine ⟨fun b ↦ ⟨toUTF8_decode, fun notUtf8 ↦ ?_⟩, fun f start stop ↦ ⟨?_, f.span_of_isValid⟩⟩
  · have characters := mapM_latin9?_toList notUtf8
    have bytes := mapM_latin9?_eq_some_iff.mp characters
    refine ⟨?_, characters, bytes, fun b' notUtf8' same ↦ ?_⟩
    · obtain ⟨cs, found, length⟩ := exists_mapM_latin9? b.toList
      cases characters.symm.trans found
      rw [← String.length_toList, length, Source.length_toList]
    · have bytes' := mapM_latin9?_eq_some_iff.mp (mapM_latin9?_toList notUtf8')
      rw [same] at bytes'
      exact Source.toList_inj.mp (Option.some.inj (bytes'.symm.trans bytes))
  · rw [SourceFile.span, Nat.min_assoc]

/-! The form of a surrogate, with a replaced byte at its end, and a file with a longer character. -/

namespace Accented

/-- Bytes that would stand for half a surrogate pair. -/
def surrogate : ByteArray := ⟨#[0xED, 0xA0, 0xA4]⟩

/-- A file in UTF-8. -/
def file : SourceFile := ⟨"naive.c", ⟨#[0x6E, 0x61, 0xC3, 0xAF, 0x76, 0x65]⟩⟩

/-- The surrogate is read byte by byte, from which it can be told, and the two bytes of the longer
character are that part of the text of the file. -/
theorem decode_lossless_surrogate :
    ¬ IsUtf8 surrogate.toList ∧ decode surrogate = "í\u00A0€" ∧
    (decode surrogate).toList.mapM latin9Byte? = some surrogate.toList ∧
    IsUtf8 file.bytes.toList ∧ file.text = "naïve" ∧ file.span 2 4 = "ï" ∧
    ∃ before after, file.text = before ++ file.span 2 4 ++ after ∧ before.utf8ByteSize = 2 ∧
      (before ++ file.span 2 4).utf8ByteSize = 4 := by
  have notUtf8 : ¬ IsUtf8 surrogate.toList := by
    rw [← isValidUTF8_iff]
    decide +kernel
  have utf8 : IsUtf8 file.bytes.toList := by
    rw [← isValidUTF8_iff]
    decide +kernel
  exact ⟨notUtf8, by decide +kernel, ((decode_lossless.1 surrogate).2 notUtf8).2.2.1, utf8, rfl, rfl,
    (decode_lossless.2 file 2 4).2 utf8 (by decide +kernel) (by decide +kernel) (by decide)⟩

end Accented

end BuiltinAtlas
